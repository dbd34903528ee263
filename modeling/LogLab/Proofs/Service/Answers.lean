import LogLab.Proofs.Outcomes
import LogLab.Proofs.Pipeline.RoundTrip
import LogLab.Service.Grading

/-! # Answers to queries

An answer holds the pipeline that gave its results, in a form that the pipeline is read back from.
-/

namespace LogLab

namespace Query

theorem results_of_run {dialect : Dialect} {query : String} {data : Dataset} {a : Answer}
    (h : run dialect query data = .ok a) : a.results = a.pipeline.apply data := by
  obtain ⟨p, -, rfl⟩ := map_eq_ok_iff.mp h
  rfl

namespace Answer

/-- The pipeline in the JSON form of an answer; what else is in there is passed over. -/
def pipeline? (v : Json) : Option Pipeline := do
  let part ← v.parts? ["pipeline"]
  Pipeline.ofJson? (← part "pipeline")

theorem pipeline?_toJson (a : Answer) : pipeline? a.toJson = some a.pipeline := by
  rw [pipeline?, toJson, Json.parts?_object]
  · simp [Pipeline.reads a.pipeline]
  · simp

end Answer

end Query

namespace Lab

variable {lab : Lab} {request : QueryRequest} {a : Query.Answer}

/-- A request is answered if it is in order and its query runs. -/
theorem answer_eq_ok_iff : lab.answer request = .ok a ↔
    checkQuery request.query = .ok () ∧ ∃ dialect, readDialect request.dialect = .ok dialect ∧
      ∃ records, lab.recordsFor request = .ok records ∧
        Query.run dialect request.query records = .ok a := by
  unfold answer
  simp only [bind_eq_ok_iff, lift_eq_ok_iff, mapError_eq_ok_iff]
  exact ⟨fun ⟨(), h⟩ => h, fun h => ⟨(), h⟩⟩

/-- A pipeline is what its JSON form describes, and the pipeline in an answer gives the results of
the answer on the records that the query ran on. -/
theorem reread_pipeline : (∀ p : Pipeline, Pipeline.ofJson? p.toJson = some p) ∧
    ∀ (lab : Lab) (request : QueryRequest) (a : Query.Answer) (records : Dataset),
      lab.answer request = .ok a → lab.recordsFor request = .ok records →
        ∃ p, Query.Answer.pipeline? a.toJson = some p ∧ p.apply records = a.results := by
  refine ⟨Pipeline.reads, fun lab request a records ha hrecords => ?_⟩
  obtain ⟨-, dialect, -, records', hrecords', hrun⟩ := answer_eq_ok_iff.mp ha
  obtain rfl : records' = records := Except.ok.inj (hrecords'.symm.trans hrecords)
  exact ⟨a.pipeline, a.pipeline?_toJson, (Query.results_of_run hrun).symm⟩

def countPorts : QueryRequest where
  query := "SELECT user AS who, COUNT(*) FROM t WHERE port >= 22 GROUP BY user LIMIT 3"
  dialect := " SQL"
  dataset := some [.ofList [("user", .string "eve"), ("port", .int 22)],
    .ofList [("user", .null), ("port", .int 80)]]

theorem reread_pipeline_countPorts :
    let records : Dataset := [.ofList [("user", .string "eve"), ("port", .int 22)],
      .ofList [("user", .null), ("port", .int 80)]]
    let p : Pipeline := ⟨[.filter ⟨[⟨"port", .gtEq, "22"⟩]⟩,
      .group ⟨some "user", [⟨.count, "*", none⟩]⟩, .limit ⟨3, .head⟩,
      .project [⟨"user", some "who"⟩, ⟨"count", none⟩]]⟩
    Lab.answer ⟨{}, .empty⟩ countPorts = .ok ⟨p, p.apply records⟩ ∧
      Lab.recordsFor ⟨{}, .empty⟩ countPorts = .ok records ∧
      ∃ p', Query.Answer.pipeline? (Query.Answer.toJson ⟨p, p.apply records⟩) = some p' ∧
        p'.apply records = p.apply records :=
  ⟨rfl, rfl, reread_pipeline.2 ⟨{}, .empty⟩ countPorts _ _ rfl rfl⟩

end Lab

end LogLab
