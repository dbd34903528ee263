import LogLab.Proofs.Query.Crashes
import LogLab.Proofs.Query.Nesting

/-! # Composition of pipelines

A bar behind a text in which nothing stays open composes queries: the commands of the whole are
those of the two parts, so the second part runs on what the first part gives. The whole crashes
exactly if one of its parts does.
-/

namespace LogLab

open Scan

def Pipeline.append (p q : Pipeline) : Pipeline := ⟨p.operations ++ q.operations⟩

theorem Pipeline.apply_append (xs ys : List Operation) (data : Dataset) :
    (⟨xs ++ ys⟩ : Pipeline).apply data = (⟨ys⟩ : Pipeline).apply ((⟨xs⟩ : Pipeline).apply data) :=
  List.foldl_append

namespace Query

variable {s t : List Char}

theorem splitPipeline_append_bar (hs : Closed s) :
    splitPipeline (s ++ '|' :: t) = splitPipeline s ++ splitPipeline t := by
  have h : splitTopLevel '|' (s ++ '|' :: t) = _ :=
    splitTopLevel_append_cons hs (by decide) (by decide)
  simp only [splitPipeline, h, List.map_append, List.filter_append]

theorem map_mk_filterMapM_append {segments others : List (List Char)}
    {read : List Char → Except Crash (Option Operation)} :
    ((segments ++ others).filterMapM read).map Pipeline.mk = (do
      let p ← (segments.filterMapM read).map Pipeline.mk
      let q ← (others.filterMapM read).map Pipeline.mk
      pure (p.append q)) := by
  rw [filterMapM_append]
  rcases segments.filterMapM read with crash | xs
  · rfl
  · rcases others.filterMapM read with crash | ys <;> rfl

theorem Spl.compile_append_bar (hs : Closed s) :
    Spl.compile (s ++ '|' :: t) =
      (do let p ← Spl.compile s; let q ← Spl.compile t; pure (p.append q)) := by
  rw [Spl.compile, splitPipeline_append_bar hs, map_mk_filterMapM_append]
  rfl

namespace Kql

theorem operation?_eq_none {word : List Char}
    (h : ∀ command ∈ commands, word ≠ command.toList) (args : List Char) :
    operation? word args = .ok none := by
  simp only [commands, List.forall_mem_cons] at h
  obtain ⟨hw, hs, hp, ht, ho, -⟩ := h
  simp only [operation?, if_neg hw, if_neg hs, if_neg hp, if_neg ht, if_neg ho]

/-- A command word without arguments stands for no operation. -/
theorem operation?_nil (word : List Char) : operation? word [] = .ok none := by
  unfold operation?
  (repeat' split) <;> rfl

/-- A table name is read like a command that is not known: it stands for no operation. -/
theorem readSegment?_eq_none_of_isTableName (h : isTableName s = true) :
    readSegment? s = .ok none := by
  unfold isTableName at h
  split at h
  · next word hword =>
    have hc : command s = (Text.asciiLower word, Text.trim []) := by
      rw [command, whole?_eq_some_iff.mp hword]
    rw [readSegment?, hc]
    refine operation?_eq_none (fun c hm he => ?_) _
    simp only [Bool.not_eq_true', List.any_eq_false] at h
    refine h c hm ?_
    have hl : ∀ c ∈ commands, Text.asciiLower c.toList = c.toList := by decide
    simpa [Text.eqIgnoringCase, hl c hm] using he.symm
  · cases h

theorem filterMapM_dropTable (segments : List (List Char)) :
    (dropTable segments).filterMapM readSegment? = segments.filterMapM readSegment? := by
  cases segments with
  | nil => rfl
  | cons s rest =>
    rw [dropTable]
    split
    · next h =>
      rw [List.filterMapM_cons, readSegment?_eq_none_of_isTableName h]
      rfl
    · rfl

/-- A table name makes no difference to the operations of a pipeline. -/
theorem compile_eq_segments (query : List Char) :
    compile query = ((splitPipeline query).filterMapM readSegment?).map .mk :=
  congrArg (Except.map Pipeline.mk) (filterMapM_dropTable _)

theorem compile_eq {ops : List Operation}
    (h : (splitPipeline s).filterMapM readSegment? = .ok ops) : compile s = .ok ⟨ops⟩ := by
  rw [compile_eq_segments, h]
  rfl

theorem compile_append_bar (hs : Closed s) :
    Kql.compile (s ++ '|' :: t) =
      (do let p ← Kql.compile s; let q ← Kql.compile t; pure (p.append q)) := by
  simp only [compile_eq_segments, splitPipeline_append_bar hs, map_mk_filterMapM_append]

end Kql

theorem run_of_compile {dialect : Dialect} {query : String} {pipeline : Pipeline}
    (h : compile dialect query = .ok pipeline) (data : Dataset) :
    run dialect query data = .ok ⟨pipeline, pipeline.apply data⟩ := by
  rw [run, h]
  rfl

theorem compile_append_bar {left : String} (h : Closed left.toList) (right : String)
    {dialect : Dialect} (hd : dialect ∈ [Dialect.spl, Dialect.kql]) :
    compile dialect (left ++ "|" ++ right) =
      (do let p ← compile dialect left; let q ← compile dialect right; pure (p.append q)) := by
  have hbar : (left ++ "|" ++ right).toList = left.toList ++ '|' :: right.toList := by
    simp [String.toList_append]
  rcases List.mem_cons.mp hd with rfl | hd
  · simp only [compile, hbar, Spl.compile_append_bar h, lift_bind]
    rfl
  · obtain rfl := List.mem_singleton.mp hd
    simp only [compile, hbar, Kql.compile_append_bar h, lift_bind]
    rfl

/-- A query whose operations are those of two others runs like the second on what the first
gives. -/
theorem run_of_compile_eq_append {dialect : Dialect} {query left right : String}
    (h : compile dialect query =
      (do let p ← compile dialect left; let q ← compile dialect right; pure (p.append q)))
    (data : Dataset) :
    run dialect query data = (do
      let first ← run dialect left data
      let second ← run dialect right first.results
      pure ⟨first.pipeline.append second.pipeline, second.results⟩) := by
  simp only [run, h]
  rcases compile dialect left with halt | p
  · rfl
  · rcases compile dialect right with halt | q
    · rfl
    · simp only [Bind.bind, Except.bind, Except.map, pure, Except.pure, Pipeline.append,
        Pipeline.apply_append]

/-- A bar behind a text in which nothing stays open composes the queries on its two sides, and
nothing can go wrong apart from a filter that crashes on one of them. In table pipelines this holds
wherever a table name stands, since it stands for no operation. -/
theorem run_append_bar {left : String} (h : Closed left.toList) (right : String)
    (data : Dataset) :
    (∀ dialect ∈ [Dialect.spl, Dialect.kql],
      compile dialect (left ++ "|" ++ right) =
        (do let p ← compile dialect left; let q ← compile dialect right; pure (p.append q)) ∧
      run dialect (left ++ "|" ++ right) data = (do
        let first ← run dialect left data
        let second ← run dialect right first.results
        pure ⟨first.pipeline.append second.pipeline, second.results⟩) ∧
      ((∃ halt, run dialect (left ++ "|" ++ right) data = .error halt) ↔
        Breaks dialect left.toList ∨ Breaks dialect right.toList)) ∧
    ∀ query, Kql.compile query = ((splitPipeline query).filterMapM Kql.readSegment?).map .mk := by
  refine ⟨fun dialect hd => ?_, Kql.compile_eq_segments⟩
  have hcompile := compile_append_bar h right hd
  refine ⟨hcompile, run_of_compile_eq_append hcompile data, ?_⟩
  rw [run, exists_error_map_iff, hcompile, exists_error_bind_bind_pure_iff,
    exists_error_compile_iff hd, exists_error_compile_iff hd]

theorem run_append_bar_of_quoted_bar :
    let left := "auth_logs | where note == \"(|\""
    let right := "t|take 1"
    Closed left.toList ∧
      (∀ dialect ∈ [Dialect.spl, Dialect.kql],
        compile dialect (left ++ "|" ++ right) =
          (do let p ← compile dialect left; let q ← compile dialect right; pure (p.append q)) ∧
        run dialect (left ++ "|" ++ right) [] = (do
          let first ← run dialect left []
          let second ← run dialect right first.results
          pure ⟨first.pipeline.append second.pipeline, second.results⟩) ∧
        ((∃ halt, run dialect (left ++ "|" ++ right) [] = .error halt) ↔
          Breaks dialect left.toList ∨ Breaks dialect right.toList)) ∧
      ∀ query, Kql.compile query = ((splitPipeline query).filterMapM Kql.readSegment?).map .mk := by
  intro left right
  have h : Closed left.toList := by decide +kernel
  exact ⟨h, run_append_bar h right []⟩

end Query

end LogLab
