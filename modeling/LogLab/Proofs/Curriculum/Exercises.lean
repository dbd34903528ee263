import LogLab.Curriculum

/-! # Exercises of a valid curriculum

A curriculum is valid if no lesson with a task lacks a part. Looking up an exercise in it fails only
for an index without a lesson and for a lesson of theory.
-/

namespace LogLab

theorem LessonKind.isExercise_iff {k : LessonKind} : k.isExercise = true ↔ k ≠ .theory := by
  cases k <;> decide

/-- The parts in the order in which they are looked for. -/
def ExercisePart.all : List ExercisePart := [task, source, check]

theorem ExercisePart.mem_all (part : ExercisePart) : part ∈ all := by
  cases part <;> decide

section Exercises

variable {c : Curriculum} {d : Dialect} {index : Nat} {lesson : Lesson}

namespace Lesson

def has (l : Lesson) : ExercisePart → Bool
  | .task => l.task.isSome
  | .source => l.source.isSome
  | .check => l.check.isSome

/-- The lesson is an exercise without a part that it needs. -/
def Lacks (l : Lesson) (part : ExercisePart) : Prop :=
  l.kind ≠ .theory ∧ l.has part = false

instance {part : ExercisePart} : Decidable (lesson.Lacks part) := by unfold Lacks; infer_instance

theorem missingPart?_eq :
    lesson.missingPart? = ExercisePart.all.find? fun part => lesson.Lacks part := by
  unfold missingPart? Lacks
  by_cases hk : lesson.kind = .theory
  · simp [hk, LessonKind.isExercise, ExercisePart.all]
  · rw [LessonKind.isExercise_iff.mpr hk]
    cases htask : lesson.task <;> cases hsource : lesson.source <;> cases hcheck : lesson.check <;>
      simp [ExercisePart.all, has, hk, htask, hsource, hcheck]

theorem missingPart?_eq_none_iff : lesson.missingPart? = none ↔ ∀ part, ¬ lesson.Lacks part := by
  simp [missingPart?_eq, ExercisePart.mem_all]

/-- A lesson that sets a task lacks no part that it needs. -/
theorem exists_parts (h : lesson.missingPart? = none) (hk : lesson.kind ≠ .theory) :
    ∃ source check, lesson.source = some source ∧ lesson.check = some check := by
  have hhas (part : ExercisePart) : lesson.has part = true := by
    cases hpart : lesson.has part with
    | true => rfl
    | false => exact absurd ⟨hk, hpart⟩ (missingPart?_eq_none_iff.mp h part)
  obtain ⟨source, hsource⟩ := Option.isSome_iff_exists.mp (hhas .source)
  obtain ⟨check, hcheck⟩ := Option.isSome_iff_exists.mp (hhas .check)
  exact ⟨source, check, hsource, hcheck⟩

end Lesson

namespace Curriculum

theorem firstIncomplete?_eq_none_iff {lessons : List Lesson} :
    firstIncomplete? d index lessons = none ↔ ∀ l ∈ lessons, l.missingPart? = none := by
  induction lessons generalizing index with
  | nil => simp [firstIncomplete?]
  | cons l lessons ih =>
    rw [firstIncomplete?]
    cases hl : l.missingPart? with
    | some missing => simp [hl]
    | none => simp [hl, ih]

theorem validate_eq_ok_iff :
    c.validate = .ok () ↔ ∀ d, ∀ l ∈ c.lessons d, l.missingPart? = none := by
  have hfirst : (Dialect.all.findSome? fun d => firstIncomplete? d 0 (c.lessons d)) = none ↔
      ∀ d, ∀ l ∈ c.lessons d, l.missingPart? = none := by
    simp only [List.findSome?_eq_none_iff, Dialect.mem_all, true_imp_iff,
      firstIncomplete?_eq_none_iff]
  rw [validate, ← hfirst]
  cases Dialect.all.findSome? fun d => firstIncomplete? d 0 (c.lessons d) with
  | none => exact ⟨fun _ => rfl, fun _ => rfl⟩
  | some e => exact ⟨nofun, nofun⟩

theorem validate_of_ofText {text : List Char} (h : ofText text = .ok c) :
    c.validate = .ok () := by
  unfold ofText at h
  cases hdecode : decode? text with
  | none =>
    rw [hdecode] at h
    cases h
  | some c' =>
    simp only [hdecode] at h
    cases hvalid : c'.validate with
    | error e =>
      rw [hvalid] at h
      cases h
    | ok _ =>
      rw [hvalid] at h
      obtain rfl := Except.ok.inj h
      exact hvalid

theorem exercise_of_length_le (h : c.length d ≤ index) :
    c.exercise d index = .error (.unknownLesson d index) := by
  rw [exercise, lesson, List.getElem?_eq_none h]

theorem exercise_of_theory (hl : (c.lessons d)[index]? = some lesson)
    (hk : lesson.kind = .theory) : c.exercise d index = .error (.noExercise d index) := by
  have hexercise : lesson.kind.isExercise = false := by rw [hk]; rfl
  simp only [exercise, Curriculum.lesson, hl, hexercise, Bool.false_eq_true, if_false]
  split <;> rfl

theorem exists_exercise (hvalid : c.validate = .ok ())
    (hl : (c.lessons d)[index]? = some lesson) (hk : lesson.kind ≠ .theory) :
    ∃ source check, lesson.source = some source ∧
      c.exercise d index = .ok ⟨lesson, source, check⟩ := by
  have hmissing := validate_eq_ok_iff.mp hvalid d lesson (List.mem_of_getElem? hl)
  obtain ⟨source, check, hsource, hcheck⟩ := lesson.exists_parts hmissing hk
  refine ⟨source, check, hsource, ?_⟩
  simp only [exercise, Curriculum.lesson, hl, hsource, hcheck, LessonKind.isExercise_iff.mpr hk,
    if_true]

/-- An exercise that is found is that of its lesson. -/
theorem eq_of_exercise {x : Exercise} (h : c.exercise d index = .ok x) :
    (c.lessons d)[index]? = some x.lesson ∧ x.lesson.kind ≠ .theory ∧
      x.lesson.source = some x.source ∧ x.lesson.check = some x.check := by
  unfold exercise lesson at h
  cases hl : (c.lessons d)[index]? with
  | none => simp [hl] at h
  | some l =>
    simp only [hl] at h
    split at h
    · next source check hsource hcheck =>
      split at h
      · next hk =>
        obtain rfl := Except.ok.inj h
        refine ⟨rfl, fun htheory => ?_, hsource, hcheck⟩
        rw [htheory] at hk
        cases hk
      · cases h
    · cases h

end Curriculum

end Exercises

end LogLab
