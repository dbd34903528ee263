import LogLab.Proofs.Curriculum.Exercises
import LogLab.Proofs.Query.Composition
import LogLab.Proofs.Session.Runs
import LogLab.Service.Router

/-! # Answers to attempts

The response to an attempt is decided by the first of five checks that fails, and each of them has a
response of its own. If none fails, the response says what a session at the lesson would say to the
same results. There is no response if all checks in front of the query pass and the query crashes.
-/

namespace LogLab

namespace Dialect

variable {d : Dialect} {text : String}

/-- The text is the tag of the dialect, with blanks around it and in any letter case. -/
def IsNamedBy (d : Dialect) (text : String) : Prop :=
  Text.asciiLower (Text.trim text.toList) = d.tag.toList

instance : Decidable (d.IsNamedBy text) := inferInstanceAs (Decidable (_ = _))

theorem ofTag?_eq_some_iff : ofTag? text = some d ↔ d.tag = text := by
  constructor
  · intro h
    exact beq_iff_eq.mp (List.find?_some h :)
  · rintro rfl
    exact ofTag?_tag d

theorem parse?_eq_some_iff : parse? text = some d ↔ d.IsNamedBy text := by
  rw [parse?, ofTag?_eq_some_iff, IsNamedBy, eq_comm, ← String.toList_inj, String.toList_ofList]

theorem parse?_eq_none_iff : parse? text = none ↔ ∀ d : Dialect, ¬d.IsNamedBy text := by
  simp only [← parse?_eq_some_iff, Option.eq_none_iff_forall_ne_some, ne_eq]

theorem IsNamedBy.unique {e : Dialect} (hd : d.IsNamedBy text) (he : e.IsNamedBy text) : d = e :=
  tag_inj.mp (String.toList_inj.mp (hd.symm.trans he))

end Dialect

/-- What an exercise makes of a pipeline. -/
def Exercise.grade (exercise : Exercise) (lab : Lab) (p : Pipeline) : Graded :=
  ⟨exercise.check.passes (p.apply (lab.store.get exercise.source)),
    p.apply (lab.store.get exercise.source)⟩

namespace Lab

variable {lab : Lab} {text query : String} {index : Nat} {d : Dialect} {lesson : Lesson}

/-- All that grading can come to: the checks in their order, each with all that passed before. -/
inductive Grades (lab : Lab) (text : String) (index : Nat) (query : String) :
    Except (Halt Rejection) Graded → Prop where
  | emptyQuery : query = "" → Grades lab text index query (.error (.failed .emptyQuery))
  | unsupportedDialect : query ≠ "" → (∀ d : Dialect, ¬d.IsNamedBy text) →
      Grades lab text index query (.error (.failed (.unsupportedDialect ⟨text⟩)))
  | unknownLesson {d : Dialect} : query ≠ "" → d.IsNamedBy text →
      lab.curriculum.length d ≤ index →
      Grades lab text index query (.error (.failed (.curriculum (.unknownLesson d index))))
  | noExercise {d : Dialect} {lesson : Lesson} : query ≠ "" → d.IsNamedBy text →
      (lab.curriculum.lessons d)[index]? = some lesson → lesson.kind = .theory →
      Grades lab text index query (.error (.failed (.curriculum (.noExercise d index))))
  | parseError {d : Dialect} {lesson : Lesson} {e : QueryError} : query ≠ "" → d.IsNamedBy text →
      (lab.curriculum.lessons d)[index]? = some lesson → lesson.kind ≠ .theory →
      Query.compile d query = .error (.failed e) →
      Grades lab text index query (.error (.failed (.query e)))
  | crashed {d : Dialect} {lesson : Lesson} {crash : Crash} : query ≠ "" → d.IsNamedBy text →
      (lab.curriculum.lessons d)[index]? = some lesson → lesson.kind ≠ .theory →
      Query.compile d query = .error (.crashed crash) →
      Grades lab text index query (.error (.crashed crash))
  | graded {d : Dialect} {exercise : Exercise} {p : Pipeline} : query ≠ "" → d.IsNamedBy text →
      (lab.curriculum.lessons d)[index]? = some exercise.lesson → exercise.lesson.kind ≠ .theory →
      lab.curriculum.exercise d index = .ok exercise → Query.compile d query = .ok p →
      Grades lab text index query (.ok (exercise.grade lab p))

theorem checkQuery_of_ne (h : query ≠ "") : checkQuery query = .ok () :=
  if_neg fun hempty => h (String.isEmpty_iff.mp hempty)

theorem grade_of_unsupported (hq : query ≠ "") (hd : Dialect.parse? text = none) :
    lab.grade text index query = .error (.failed (.unsupportedDialect ⟨text⟩)) := by
  simp only [grade, checkQuery_of_ne hq, readDialect, Dialect.ofText, hd]
  rfl

theorem grade_of_named (hq : query ≠ "") (hd : Dialect.parse? text = some d) :
    lab.grade text index query = (do
      let exercise ← (lab.curriculum.exercise d index).mapError fun e => .failed (.curriculum e)
      let answer ← (Query.run d query (lab.store.get exercise.source)).mapError (.map .query)
      pure ⟨exercise.check.passes answer.results, answer.results⟩) := by
  simp only [grade, checkQuery_of_ne hq, readDialect, Dialect.ofText, hd]
  rfl

theorem grade_of_lookup {e : CurriculumError} (hq : query ≠ "") (hd : Dialect.parse? text = some d)
    (he : lab.curriculum.exercise d index = .error e) :
    lab.grade text index query = .error (.failed (.curriculum e)) := by
  rw [grade_of_named hq hd, he]
  rfl

theorem grade_of_exercise {exercise : Exercise} (hq : query ≠ "")
    (hd : Dialect.parse? text = some d) (he : lab.curriculum.exercise d index = .ok exercise) :
    lab.grade text index query =
      ((Query.compile d query).mapError (.map .query)).map (exercise.grade lab) := by
  rw [grade_of_named hq hd, he]
  unfold Query.run
  cases Query.compile d query <;> rfl

/-- What grading comes to with a valid curriculum. -/
theorem grades_grade (hvalid : lab.curriculum.validate = .ok ()) :
    Grades lab text index query (lab.grade text index query) := by
  by_cases hq : query = ""
  · subst hq
    exact .emptyQuery rfl
  cases hd : Dialect.parse? text with
  | none =>
    rw [grade_of_unsupported hq hd]
    exact .unsupportedDialect hq (Dialect.parse?_eq_none_iff.mp hd)
  | some d =>
    have hname := Dialect.parse?_eq_some_iff.mp hd
    cases hl : (lab.curriculum.lessons d)[index]? with
    | none =>
      have hlen := List.getElem?_eq_none_iff.mp hl
      rw [grade_of_lookup hq hd (Curriculum.exercise_of_length_le hlen)]
      exact .unknownLesson hq hname hlen
    | some lesson =>
      by_cases hk : lesson.kind = .theory
      · rw [grade_of_lookup hq hd (Curriculum.exercise_of_theory hl hk)]
        exact .noExercise hq hname hl hk
      · obtain ⟨source, check, hsource, he⟩ := Curriculum.exists_exercise hvalid hl hk
        rw [grade_of_exercise hq hd he]
        match hp : Query.compile d query with
        | .error (.failed e) => exact .parseError hq hname hl hk hp
        | .error (.crashed crash) => exact .crashed hq hname hl hk hp
        | .ok p => exact .graded hq hname hl hk he hp

end Lab

namespace Response

/-- The response turns a request down with a status and a kind of error. -/
def Rejects (r : Response) (status : Nat) (kind : String) : Prop :=
  r.status = status ∧
    ∃ message, r.body = some (.object [("error", .string kind), ("message", .string message)])

variable {x : Except (Halt Rejection) Graded} {r : Response} {status : Nat} {kind : String}

/-- The response to an attempt, with what grading it came to. -/
def ofGraded (x : Except (Halt Rejection) Graded) : Except Crash Response :=
  ofResult (x.map Graded.toJson)

theorem exists_error_ofGraded_iff :
    (∃ crash, ofGraded x = .error crash) ↔ ∃ crash, x = .error (.crashed crash) := by
  rcases x with (e | crash) | g <;> simp [ofGraded, ofResult, Except.map]

theorem rejects_ofGraded_iff (hr : ofGraded x = .ok r) :
    r.Rejects status kind ↔ ∃ e, x = .error (.failed e) ∧ e.status = status ∧ e.kind = kind := by
  rcases x with (e | crash) | g
  · cases hr
    constructor
    · rintro ⟨rfl, message, hbody⟩
      cases hbody
      exact ⟨e, rfl, rfl, rfl⟩
    · rintro ⟨_, ⟨⟩, rfl, rfl⟩
      exact ⟨rfl, e.message, rfl⟩
  · cases hr
  · cases hr
    constructor
    · rintro ⟨-, message, hbody⟩
      simp [Graded.toJson] at hbody
    · rintro ⟨_, hx, -⟩
      cases hx

theorem status_ofGraded_iff (hr : ofGraded x = .ok r) :
    r.status = 422 ↔ x = .error (.failed .emptyQuery) := by
  rcases x with (e | crash) | g
  · cases hr
    cases e with
    | emptyQuery => exact ⟨fun _ => rfl, fun _ => rfl⟩
    | curriculum e => cases e <;> exact ⟨nofun, nofun⟩
    | unsupportedDialect _ | unknownSource _ | query _ => exact ⟨nofun, nofun⟩
  · cases hr
  · cases hr
    exact ⟨nofun, nofun⟩

end Response

/-- A request that reads as an attempt: a query for the lesson at an index of a dialect, which is
given as the path has it. -/
structure Request.IsAttempt (request : Request) (text : String) (index : Nat) (query : String) :
    Prop where
  method_eq : request.method = "POST"
  exists_place : ∃ dialect place, Route.ofTarget? request.target = some (.attempts dialect place) ∧
    Service.lessonPlace? dialect place = some (text, index)
  readBody_eq : request.readBody AttemptRequest.ofBody = .ok ⟨query⟩

theorem Request.readBody_eq {α : Type} {request : Request} {read : List Char → Except Fault α}
    {a : α} (hjson : request.hasJson = true) (hsize : request.body.utf8ByteSize ≤ maxBody)
    (hread : (read request.body.toList).toOption = some a) : request.readBody read = .ok a := by
  simp only [readBody, hjson, Nat.not_lt.mpr hsize, Bool.not_true, Bool.false_eq_true, if_false]
  cases hx : read request.body.toList with
  | error e =>
    rw [hx] at hread
    cases hread
  | ok b =>
    rw [hx] at hread
    obtain rfl := Option.some.inj hread
    rfl

theorem Service.respond_attempt {lab : Lab} {request : Request} {text query : String} {index : Nat}
    (h : request.IsAttempt text index query) :
    respond lab request = Response.ofGraded (lab.grade text index query) := by
  obtain ⟨hmethod, ⟨dialect, place, htarget, hplace⟩, hbody⟩ := h
  rw [respond, hmethod, htarget]
  simp only [answer, hplace, hbody]
  rfl

/-- A response that says which check of an attempt failed first, if one did, and otherwise agrees
with every session at the lesson. -/
structure Lab.Answers (lab : Lab) (text : String) (index : Nat) (query : String)
    (response : Response) : Prop where
  empty_query : response.status = 422 ↔ query = ""
  unsupported_dialect : query ≠ "" →
    (response.Rejects 400 "unsupported_dialect" ↔ ∀ d : Dialect, ¬d.IsNamedBy text)
  unknown_lesson : query ≠ "" → ∀ d : Dialect, d.IsNamedBy text →
    (response.Rejects 404 "unknown_lesson" ↔ lab.curriculum.length d ≤ index)
  no_exercise : query ≠ "" → ∀ (d : Dialect) (lesson : Lesson), d.IsNamedBy text →
    (lab.curriculum.lessons d)[index]? = some lesson →
    (response.Rejects 400 "no_exercise" ↔ lesson.kind = .theory)
  parse_error : query ≠ "" → ∀ (d : Dialect) (lesson : Lesson), d.IsNamedBy text →
    (lab.curriculum.lessons d)[index]? = some lesson → lesson.kind ≠ .theory →
    (response.Rejects 400 "parse_error" ↔ ∃ e, Query.compile d query = .error (.failed e))
  graded : query ≠ "" → ∀ (d : Dialect) (lesson : Lesson) (p : Pipeline), d.IsNamedBy text →
    (lab.curriculum.lessons d)[index]? = some lesson → lesson.kind ≠ .theory →
    Query.compile d query = .ok p →
    ∃ source passed, lesson.source = some source ∧
      let results := p.apply (lab.store.get source)
      response = ⟨200, some (.object [("passed", .bool passed),
        ("returned_count", .int results.length), ("results", results.toJson)])⟩ ∧
      ∀ session : Session, session.current = ⟨d, index⟩ →
        ∃ outcome session', session.recordAttempt lab.curriculum results =
          .ok (outcome, session') ∧ outcome.passed = passed

/-- The checks in front of the query pass, and the query crashes. -/
def Lab.Breaks (lab : Lab) (text : String) (index : Nat) (query : String) : Prop :=
  query ≠ "" ∧ ∃ (d : Dialect) (lesson : Lesson), d.IsNamedBy text ∧
    (lab.curriculum.lessons d)[index]? = some lesson ∧ lesson.kind ≠ .theory ∧
    Query.Breaks d query.toList

namespace Lab

variable {lab : Lab} {text query : String} {index : Nat} {d : Dialect} {lesson : Lesson}
  {request : Request} {response : Response}

theorem exists_crashed_grade_iff (hvalid : lab.curriculum.validate = .ok ()) :
    (∃ crash, lab.grade text index query = .error (.crashed crash)) ↔
      lab.Breaks text index query := by
  constructor
  · rintro ⟨crash, hx⟩
    cases hx ▸ grades_grade hvalid with
    | crashed hq hname hl hk hp =>
      exact ⟨hq, _, _, hname, hl, hk, Query.exists_crashed_compile_iff.mp ⟨crash, hp⟩⟩
  · rintro ⟨hq, d, lesson, hname, hl, hk, hbreaks⟩
    obtain ⟨crash, hp⟩ := Query.exists_crashed_compile_iff.mpr hbreaks
    obtain ⟨source, check, -, he⟩ := Curriculum.exists_exercise hvalid hl hk
    refine ⟨crash, ?_⟩
    rw [grade_of_exercise hq (Dialect.parse?_eq_some_iff.mpr hname) he, hp]
    rfl

section Answers

variable (hvalid : lab.curriculum.validate = .ok ())
  (hr : Response.ofGraded (lab.grade text index query) = .ok response)

include hvalid hr

theorem status_grade_iff : response.status = 422 ↔ query = "" := by
  rw [Response.status_ofGraded_iff hr]
  constructor
  · intro hx
    cases hx ▸ grades_grade hvalid with
    | emptyQuery hq => exact hq
  · rintro rfl
    rfl

variable (hq : query ≠ "")

include hq

theorem rejects_dialect_iff :
    response.Rejects 400 "unsupported_dialect" ↔
      ∀ d : Dialect, ¬d.IsNamedBy text := by
  rw [Response.rejects_ofGraded_iff hr]
  constructor
  · rintro ⟨e, hx, -, hkind⟩
    cases hx ▸ grades_grade hvalid with
    | unsupportedDialect _ hnone => exact hnone
    | _ => simp [Rejection.kind] at hkind
  · intro hnone
    exact ⟨_, grade_of_unsupported hq (Dialect.parse?_eq_none_iff.mpr hnone), rfl, rfl⟩

variable (hname : d.IsNamedBy text)

include hname

theorem rejects_lesson_iff :
    response.Rejects 404 "unknown_lesson" ↔
      lab.curriculum.length d ≤ index := by
  rw [Response.rejects_ofGraded_iff hr]
  constructor
  · rintro ⟨e, hx, -, hkind⟩
    cases hx ▸ grades_grade hvalid with
    | unknownLesson _ hname' hlen => exact hname.unique hname' ▸ hlen
    | _ => simp [Rejection.kind] at hkind
  · intro hlen
    have he := Curriculum.exercise_of_length_le hlen
    exact ⟨_, grade_of_lookup hq (Dialect.parse?_eq_some_iff.mpr hname) he, rfl, rfl⟩

variable (hl : (lab.curriculum.lessons d)[index]? = some lesson)

include hl

theorem rejects_theory_iff :
    response.Rejects 400 "no_exercise" ↔
      lesson.kind = .theory := by
  rw [Response.rejects_ofGraded_iff hr]
  constructor
  · rintro ⟨e, hx, -, hkind⟩
    cases hx ▸ grades_grade hvalid with
    | noExercise _ hname' hl' hk =>
      obtain rfl := hname.unique hname'
      obtain rfl := Option.some.inj (hl.symm.trans hl')
      exact hk
    | _ => simp [Rejection.kind] at hkind
  · intro hk
    have he := Curriculum.exercise_of_theory hl hk
    exact ⟨_, grade_of_lookup hq (Dialect.parse?_eq_some_iff.mpr hname) he, rfl, rfl⟩

theorem rejects_query_iff (hk : lesson.kind ≠ .theory) :
    response.Rejects 400 "parse_error" ↔
      ∃ e, Query.compile d query = .error (.failed e) := by
  rw [Response.rejects_ofGraded_iff hr]
  constructor
  · rintro ⟨e, hx, -, hkind⟩
    cases hx ▸ grades_grade hvalid with
    | parseError _ hname' _ _ hp => exact ⟨_, hname.unique hname' ▸ hp⟩
    | _ => simp [Rejection.kind] at hkind
  · rintro ⟨e, hp⟩
    obtain ⟨source, check, -, he⟩ := Curriculum.exists_exercise hvalid hl hk
    refine ⟨.query e, ?_, rfl, rfl⟩
    rw [grade_of_exercise hq (Dialect.parse?_eq_some_iff.mpr hname) he, hp]
    rfl

omit hr in
theorem exists_graded {p : Pipeline} (hk : lesson.kind ≠ .theory)
    (hp : Query.compile d query = .ok p) :
    ∃ source check, lesson.source = some source ∧
      lab.curriculum.exercise d index = .ok ⟨lesson, source, check⟩ ∧
      lab.grade text index query = .ok (Exercise.grade ⟨lesson, source, check⟩ lab p) := by
  obtain ⟨source, check, hsource, he⟩ := Curriculum.exists_exercise hvalid hl hk
  refine ⟨source, check, hsource, he, ?_⟩
  rw [grade_of_exercise hq (Dialect.parse?_eq_some_iff.mpr hname) he, hp]
  rfl

end Answers

theorem answers_grade (hvalid : lab.curriculum.validate = .ok ())
    (hr : Response.ofGraded (lab.grade text index query) = .ok response) :
    lab.Answers text index query response where
  empty_query := status_grade_iff hvalid hr
  unsupported_dialect hq := rejects_dialect_iff hvalid hr hq
  unknown_lesson hq _ hname := rejects_lesson_iff hvalid hr hq hname
  no_exercise hq _ _ hname hl := rejects_theory_iff hvalid hr hq hname hl
  parse_error hq _ _ hname hl hk := rejects_query_iff hvalid hr hq hname hl hk
  graded hq d lesson p hname hl hk hp := by
    obtain ⟨source, check, hsource, he, hgrade⟩ := exists_graded hvalid hq hname hl hk hp
    rw [hgrade] at hr
    obtain rfl := Except.ok.inj hr
    refine ⟨source, _, hsource, rfl, fun session hcurrent => ?_⟩
    obtain ⟨rfl, rfl⟩ := LessonKey.mk.inj hcurrent
    exact Session.recordAttempt_of_exercise he _

/-- Attempts that are sent to the service are turned down by the first check that fails, with a
response for this check alone, or graded as a session at the lesson grades the same results. There
is such a response if and only if the query does not crash where it would be graded. -/
theorem answers_attempt (hvalid : lab.curriculum.validate = .ok ())
    (h : request.IsAttempt text index query) :
    ((∃ crash, Service.respond lab request = .error crash) ↔ lab.Breaks text index query) ∧
      ∀ response, Service.respond lab request = .ok response →
        lab.Answers text index query response := by
  rw [Service.respond_attempt h, Response.exists_error_ofGraded_iff,
    exists_crashed_grade_iff hvalid]
  exact ⟨Iff.rfl, fun response => answers_grade hvalid⟩

def twoLessons : Lab where
  curriculum := { kql := some [
    { kind := .theory, title := "Tables", description := "" },
    { kind := .guided, title := "Rows", description := "", task := some "Take rows",
      source := some .authLogs, check := some .acceptAny }] }
  store := .empty

def takeRows : Request where
  method := "POST"
  target := "/api/v1/lessons/kql/1/attempts"
  contentType := some "application/json"
  body := "\x7b\"query\": \"T | take 1\"\x7d"

theorem answers_attempt_takeRows :
    twoLessons.curriculum.validate = .ok () ∧ takeRows.IsAttempt "kql" 1 "T | take 1" ∧
      ∃ response, Service.respond twoLessons takeRows = .ok response ∧
        twoLessons.Answers "kql" 1 "T | take 1" response := by
  have hvalid : twoLessons.curriculum.validate = .ok () := rfl
  have hbody : takeRows.readBody AttemptRequest.ofBody = .ok ⟨"T | take 1"⟩ :=
    Request.readBody_eq (by decide +kernel) (by decide +kernel) (by decide +kernel)
  have hattempt : takeRows.IsAttempt "kql" 1 "T | take 1" :=
    ⟨rfl, ⟨"kql", "1", by decide +kernel, by decide +kernel⟩, hbody⟩
  have hcompile : Query.compile .kql "T | take 1" = .ok ⟨[.limit ⟨1, .head⟩]⟩ :=
    Query.compile_kql (by decide +kernel)
  obtain ⟨hcrash, hanswers⟩ := answers_attempt hvalid hattempt
  cases hr : Service.respond twoLessons takeRows with
  | ok response => exact ⟨hvalid, hattempt, response, rfl, hanswers response hr⟩
  | error crash =>
    obtain ⟨-, d, -, hname, -, -, hbreaks⟩ := hcrash.mp ⟨crash, hr⟩
    have hd : Dialect.kql.IsNamedBy "kql" := by decide
    obtain ⟨crash, hp⟩ := Query.exists_crashed_compile_iff.mpr (hname.unique hd ▸ hbreaks)
    cases hp.symm.trans hcompile

/-- A query for the second lesson, with the Kelvin sign in place of a letter. -/
def kelvinLike : Request :=
  { takeRows with body := "\x7b\"query\": \"where a LI\u212aE x\"\x7d" }

/-- All checks in front of the query pass, and there is no response. -/
theorem no_response_kelvinLike :
    twoLessons.curriculum.validate = .ok () ∧
      kelvinLike.IsAttempt "kql" 1 "where a LI\u212aE x" ∧ Dialect.kql.IsNamedBy "kql" ∧
      (twoLessons.curriculum.lessons .kql)[1]?.map Lesson.kind = some .guided ∧
      Service.respond twoLessons kelvinLike = .error .insideCharacter := by
  have hbody : kelvinLike.readBody AttemptRequest.ofBody = .ok ⟨"where a LI\u212aE x"⟩ :=
    Request.readBody_eq (by decide +kernel) (by decide +kernel) (by decide +kernel)
  have hattempt : kelvinLike.IsAttempt "kql" 1 "where a LI\u212aE x" :=
    ⟨rfl, ⟨"kql", "1", by decide +kernel, by decide +kernel⟩, hbody⟩
  refine ⟨rfl, hattempt, by decide, rfl, ?_⟩
  have hexercise : twoLessons.curriculum.exercise .kql 1 = .ok _ := rfl
  have hcompile : Query.compile .kql "where a LI\u212aE x" =
      .error (.crashed .insideCharacter) := by
    decide +kernel
  rw [Service.respond_attempt hattempt,
    grade_of_exercise (d := .kql) (by decide) (by decide) hexercise, hcompile]
  rfl

end Lab

end LogLab
