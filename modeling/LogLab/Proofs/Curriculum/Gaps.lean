import LogLab.Proofs.Curriculum.Exercises
import LogLab.Proofs.Session.Runs
import Mathlib.Data.Finset.Card
import Mathlib.Data.Prod.Lex

/-! # Gaps in curricula

A gap is a part that an exercise needs and does not have. A curriculum is accepted if it has no
gaps, and otherwise refused with the first of them. In a curriculum that is accepted the lessons
that can be attempted are those that are listed as exercises.
-/

namespace LogLab

/-- An element found at a place of a list stands in front of all elements that are not found
before. -/
theorem idxOf_le_idxOf_of_notMem {α : Type} [BEq α] [LawfulBEq α] {front back : List α} {a b : α}
    (h : b ∉ front) : (front ++ a :: back).idxOf a ≤ (front ++ a :: back).idxOf b := by
  rw [List.idxOf_append_of_notMem h]
  by_cases ha : a ∈ front
  · rw [List.idxOf_append_of_mem ha]
    have := List.idxOf_lt_length_of_mem ha
    omega
  · rw [List.idxOf_append_of_notMem ha, List.idxOf_cons_self]
    omega

theorem Lesson.lacks_of_missingPart? {l : Lesson} {part : ExercisePart}
    (h : l.missingPart? = some part) : l.Lacks part ∧
    ∀ other, l.Lacks other → ExercisePart.all.idxOf part ≤ ExercisePart.all.idxOf other := by
  rw [missingPart?_eq, List.find?_eq_some_iff_append] at h
  obtain ⟨hlacks, front, back, hall, hfront⟩ := h
  refine ⟨of_decide_eq_true hlacks, fun other hother => ?_⟩
  rw [hall]
  refine idxOf_le_idxOf_of_notMem fun hmem => ?_
  simpa [hother] using hfront other hmem

/-- A part that an exercise of a curriculum lacks. -/
structure Gap where
  dialect : Dialect
  index : Nat
  part : ExercisePart

namespace Gap

variable {g h : Gap}

def error (g : Gap) : CurriculumError :=
  .incomplete g.dialect g.index g.part

/-- Gaps are ordered by their dialects, then by their lessons, then by the parts. -/
def place (g : Gap) : Nat ×ₗ Nat ×ₗ Nat :=
  toLex (Dialect.all.idxOf g.dialect, toLex (g.index, ExercisePart.all.idxOf g.part))

theorem place_injective : Function.Injective place := by
  rintro ⟨d, i, part⟩ ⟨d', i', part'⟩ h
  simp only [place, EmbeddingLike.apply_eq_iff_eq, Prod.mk.injEq] at h
  obtain ⟨hd, rfl, hpart⟩ := h
  obtain rfl := (List.idxOf_inj (Dialect.mem_all d)).mp hd
  obtain rfl := (List.idxOf_inj (ExercisePart.mem_all part)).mp hpart
  rfl

theorem place_le_iff : g.place ≤ h.place ↔
    Dialect.all.idxOf g.dialect < Dialect.all.idxOf h.dialect ∨
      g.dialect = h.dialect ∧ (g.index < h.index ∨
        g.index = h.index ∧ ExercisePart.all.idxOf g.part ≤ ExercisePart.all.idxOf h.part) := by
  rw [place, place, Prod.Lex.toLex_le_toLex, Prod.Lex.toLex_le_toLex,
    List.idxOf_inj (Dialect.mem_all _)]

end Gap

namespace Curriculum

variable {c : Curriculum} {d : Dialect} {index : Nat} {e : CurriculumError} {g h : Gap}

/-- The part is lacked by a lesson of the curriculum. -/
def IsGap (c : Curriculum) (g : Gap) : Prop :=
  ∃ l, (c.lessons g.dialect)[g.index]? = some l ∧ l.Lacks g.part

/-- The gap that comes before all others. -/
def IsFirstGap (c : Curriculum) (g : Gap) : Prop :=
  c.IsGap g ∧ ∀ other, c.IsGap other → g.place ≤ other.place

theorem IsFirstGap.unique (hg : c.IsFirstGap g) (hh : c.IsFirstGap h) : g = h :=
  Gap.place_injective (le_antisymm (hg.2 h hh.1) (hh.2 g hg.1))

theorem validate_eq_ok_iff_isGap : c.validate = .ok () ↔ ∀ g, ¬ c.IsGap g := by
  simp only [validate_eq_ok_iff, Lesson.missingPart?_eq_none_iff]
  constructor
  · rintro h g ⟨l, hl, hlacks⟩
    exact h g.dialect l (List.mem_of_getElem? hl) g.part hlacks
  · intro h d l hl part hlacks
    obtain ⟨i, hi⟩ := List.mem_iff_getElem?.mp hl
    exact h ⟨d, i, part⟩ ⟨l, hi, hlacks⟩

theorem exists_of_firstIncomplete? {lessons : List Lesson}
    (h : firstIncomplete? d index lessons = some e) :
    ∃ i l part, lessons[i]? = some l ∧ l.missingPart? = some part ∧
      e = .incomplete d (index + i) part ∧
      ∀ j < i, ∀ l', lessons[j]? = some l' → l'.missingPart? = none := by
  induction lessons generalizing index with
  | nil => cases h
  | cons l lessons ih =>
    rw [firstIncomplete?] at h
    cases hl : l.missingPart? with
    | some part =>
      simp only [hl, Option.some.injEq] at h
      exact ⟨0, l, part, rfl, hl, h.symm, by simp⟩
    | none =>
      simp only [hl] at h
      obtain ⟨i, l', part, hget, hpart, rfl, hbefore⟩ := ih h
      refine ⟨i + 1, l', part, hget, hpart, by rw [Nat.add_right_comm]; rfl, ?_⟩
      rintro (_ | j) hj l'' hl''
      · obtain rfl : l = l'' := Option.some.inj hl''
        exact hl
      · exact hbefore j (by omega) l'' hl''

theorem exists_isFirstGap (h : c.validate = .error e) : ∃ g, c.IsFirstGap g ∧ e = g.error := by
  unfold validate at h
  cases hfirst : Dialect.all.findSome? fun d => firstIncomplete? d 0 (c.lessons d) with
  | none => rw [hfirst] at h; cases h
  | some e' =>
    rw [hfirst] at h
    obtain rfl := Except.error.inj h
    obtain ⟨front, d, back, hall, hd, hfront⟩ := List.findSome?_eq_some_iff.mp hfirst
    obtain ⟨i, l, part, hl, hpart, rfl, hbefore⟩ := exists_of_firstIncomplete? hd
    obtain ⟨hlacks, hparts⟩ := Lesson.lacks_of_missingPart? hpart
    refine ⟨⟨d, i, part⟩, ⟨⟨l, hl, hlacks⟩, ?_⟩, by simp [Gap.error]⟩
    rintro ⟨d', i', part'⟩ ⟨l', hl', hlacks'⟩
    have hmissing : l'.missingPart? ≠ none := fun h =>
      Lesson.missingPart?_eq_none_iff.mp h part' hlacks'
    have hdialect : Dialect.all.idxOf d ≤ Dialect.all.idxOf d' := by
      rw [hall]
      refine idxOf_le_idxOf_of_notMem fun hin => hmissing ?_
      exact firstIncomplete?_eq_none_iff.mp (hfront d' hin) l' (List.mem_of_getElem? hl')
    rw [Gap.place_le_iff]
    rcases hdialect.lt_or_eq with hlt | heq
    · exact .inl hlt
    obtain rfl := (List.idxOf_inj (Dialect.mem_all d)).mp heq
    refine .inr ⟨rfl, ?_⟩
    rcases Nat.lt_trichotomy i i' with hlt | rfl | hlt
    · exact .inl hlt
    · obtain rfl := Option.some.inj (hl.symm.trans hl')
      exact .inr ⟨rfl, hparts part' hlacks'⟩
    · exact absurd (hbefore i' hlt l' hl') hmissing

theorem validate_eq_error_iff :
    c.validate = .error e ↔ ∃ g, c.IsFirstGap g ∧ e = g.error := by
  constructor
  · exact exists_isFirstGap
  · rintro ⟨g, hg, rfl⟩
    cases h : c.validate with
    | ok _ => exact absurd hg.1 (validate_eq_ok_iff_isGap.mp h g)
    | error e' =>
      obtain ⟨g', hg', rfl⟩ := exists_isFirstGap h
      rw [hg'.unique hg]

theorem ofText_eq_ok_iff {text : List Char} :
    ofText text = .ok c ↔ decode? text = some c ∧ ∀ g, ¬ c.IsGap g := by
  rw [ofText]
  cases decode? text with
  | none => exact ⟨nofun, nofun⟩
  | some c' =>
    rw [Option.some.injEq]
    constructor
    · intro h
      cases hvalid : c'.validate with
      | error e => simp [hvalid, Except.map] at h
      | ok _ =>
        obtain rfl : c' = c := by simpa [hvalid, Except.map] using h
        exact ⟨rfl, validate_eq_ok_iff_isGap.mp hvalid⟩
    · rintro ⟨rfl, hgap⟩
      simp [validate_eq_ok_iff_isGap.mpr hgap, Except.map]

theorem ofText_eq_error_iff {text : List Char} : ofText text = .error e ↔
    decode? text = none ∧ e = .invalid ∨
      ∃ c g, decode? text = some c ∧ c.IsFirstGap g ∧ e = g.error := by
  rw [ofText]
  cases decode? text with
  | none => simp [eq_comm]
  | some c =>
    have h : (c.validate.map fun _ => c) = .error e ↔ c.validate = .error e := by
      cases c.validate <;> simp [Except.map]
    simp [h, validate_eq_error_iff]

theorem exists_exercise_iff (hvalid : c.validate = .ok ()) :
    (∃ x, c.exercise d index = .ok x) ↔ ∃ l, (c.lessons d)[index]? = some l ∧ l.kind ≠ .theory := by
  constructor
  · rintro ⟨x, hx⟩
    obtain ⟨hl, hk, -⟩ := eq_of_exercise hx
    exact ⟨x.lesson, hl, hk⟩
  · rintro ⟨l, hl, hk⟩
    obtain ⟨source, check, -, hx⟩ := exists_exercise hvalid hl hk
    exact ⟨_, hx⟩

theorem exercise_eq_error_iff (hvalid : c.validate = .ok ()) : c.exercise d index = .error e ↔
    c.length d ≤ index ∧ e = .unknownLesson d index ∨
      (∃ l, (c.lessons d)[index]? = some l ∧ l.kind = .theory) ∧ e = .noExercise d index := by
  cases hl : (c.lessons d)[index]? with
  | none =>
    have hlength : c.length d ≤ index := List.getElem?_eq_none_iff.mp hl
    simp [exercise_of_length_le hlength, hlength, eq_comm]
  | some l =>
    have hlength : ¬ c.length d ≤ index := fun h => by
      rw [List.getElem?_eq_none h] at hl
      cases hl
    by_cases hk : l.kind = .theory
    · simp [exercise_of_theory hl hk, hlength, hk, eq_comm]
    · obtain ⟨source, check, -, hx⟩ := exists_exercise hvalid hl hk
      simp [hx, hlength, hk]

/-- The progress counts the exercises that can be looked up. -/
theorem exists_exercise_indices (hvalid : c.validate = .ok ()) (s : Session) :
    ∃ indices : Finset Nat, (∀ i, i ∈ indices ↔ ∃ x, c.exercise s.dialect i = .ok x) ∧
      (s.progress c).total = indices.card := by
  refine ⟨(Session.exerciseIndices (c.lessons s.dialect)).toFinset, fun i => ?_, ?_⟩
  · rw [List.mem_toFinset, Session.mem_exerciseIndices, exists_exercise_iff hvalid]
    simp only [LessonKind.isExercise_iff]
  · rw [List.toFinset_card_of_nodup (Session.nodup_exerciseIndices _)]
    rfl

/-- A document is accepted unless an exercise in it lacks a part, and refused with the first part
that is lacking. If it is accepted, the lessons that are not theory can be attempted and no others,
and the progress of a session counts just these. -/
theorem exercises_of_document (text : List Char) :
    (∀ c, ofText text = .ok c ↔ decode? text = some c ∧ ∀ g, ¬ c.IsGap g) ∧
      (∀ e, ofText text = .error e ↔ decode? text = none ∧ e = .invalid ∨
        ∃ c g, decode? text = some c ∧ c.IsFirstGap g ∧ e = g.error) ∧
      ∀ c, ofText text = .ok c →
        (∀ d i,
          ((∃ x, c.exercise d i = .ok x) ↔
            ∃ l, (c.lessons d)[i]? = some l ∧ l.kind ≠ .theory) ∧
          (∀ x, c.exercise d i = .ok x → (c.lessons d)[i]? = some x.lesson ∧
            x.lesson.source = some x.source ∧ x.lesson.check = some x.check) ∧
          ∀ e, c.exercise d i = .error e ↔
            c.length d ≤ i ∧ e = .unknownLesson d i ∨
              (∃ l, (c.lessons d)[i]? = some l ∧ l.kind = .theory) ∧ e = .noExercise d i) ∧
        ∀ s : Session, ∃ indices : Finset Nat,
          (∀ i, i ∈ indices ↔ ∃ x, c.exercise s.dialect i = .ok x) ∧
            (s.progress c).total = indices.card := by
  refine ⟨fun c => ofText_eq_ok_iff, fun e => ofText_eq_error_iff, fun c hc => ?_⟩
  have hvalid := validate_of_ofText hc
  refine ⟨fun d i => ⟨exists_exercise_iff hvalid, fun x hx => ?_, fun e => ?_⟩, fun s => ?_⟩
  · obtain ⟨hl, -, hsource, hcheck⟩ := eq_of_exercise hx
    exact ⟨hl, hsource, hcheck⟩
  · exact exercise_eq_error_iff hvalid
  · exact exists_exercise_indices hvalid s

theorem exercises_of_document_of_theory_check :
    let text := ("\x7b\"spl\": [" ++
      "\x7b\"kind\": \"theory\", \"title\": \"\", \"description\": \"\", " ++
      "\"data_source\": \"auth_logs\", \"check\": \x7b\"type\": \"accept_any\"\x7d\x7d, " ++
      "\x7b\"kind\": \"guided\", \"title\": \"\", \"description\": \"\", \"task\": \"\", " ++
      "\"data_source\": \"dns_logs\", \"check\": \x7b\"type\": \"accept_any\"\x7d\x7d]\x7d").toList
    ∃ c, ofText text = .ok c ∧
      (∃ l, (c.lessons .spl)[0]? = some l ∧ l.source.isSome ∧ l.check.isSome) ∧
      c.exercise .spl 0 = .error (.noExercise .spl 0) ∧
      (∃ x, c.exercise .spl 1 = .ok x) ∧
      c.exercise .spl 2 = .error (.unknownLesson .spl 2) ∧
      ∃ indices : Finset Nat, (∀ i, i ∈ indices ↔ ∃ x, c.exercise .spl i = .ok x) ∧
        (Session.progress { dialect := .spl } c).total = indices.card := by
  intro text
  have hlessons : (ofText text).toOption.map (fun c => (c.lessons .spl).map fun l =>
      (l.kind, l.source.isSome, l.check.isSome)) =
      some [(.theory, true, true), (.guided, true, true)] := by decide +kernel
  obtain ⟨-, -, haccepted⟩ := exercises_of_document text
  cases hc : ofText text with
  | error e => rw [hc] at hlessons; cases hlessons
  | ok c =>
    rw [hc, Except.toOption, Option.map_some, Option.some.injEq] at hlessons
    obtain ⟨theory, behind, htheory, hkind, hbehind⟩ := List.map_eq_cons_iff.mp hlessons
    obtain ⟨guided, rest, rfl, hguided, hrest⟩ := List.map_eq_cons_iff.mp hbehind
    obtain rfl := List.map_eq_nil_iff.mp hrest
    simp only [Prod.mk.injEq] at hkind hguided
    obtain ⟨hlookup, hprogress⟩ := haccepted c hc
    refine ⟨c, rfl, ⟨theory, by rw [htheory]; rfl, hkind.2⟩, ?_, ?_, ?_,
      hprogress { dialect := .spl }⟩
    · exact ((hlookup .spl 0).2.2 _).mpr (.inr ⟨⟨theory, by rw [htheory]; rfl, hkind.1⟩, rfl⟩)
    · refine (hlookup .spl 1).1.mpr ⟨guided, by rw [htheory]; rfl, ?_⟩
      rw [hguided.1]
      exact nofun
    · exact ((hlookup .spl 2).2.2 _).mpr (.inl ⟨by rw [length, htheory]; rfl, rfl⟩)

end Curriculum

end LogLab
