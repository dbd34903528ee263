import LogLab.Proofs.Curriculum.Exercises
import LogLab.Session
import Mathlib.Algebra.Order.Round
import Mathlib.Data.List.Nodup
import Mathlib.Data.Rat.Floor
import Mathlib.Tactic.Linarith

/-! # Runs of sessions

Whatever is asked of a session, call after call, the learner stays at a lesson of the dialect, only
exercises are completed, each of them once, and the progress tells how many of them there are.
-/

namespace LogLab

/-- The lesson of a key is there and sets a task. -/
def Curriculum.IsExercise (c : Curriculum) (key : LessonKey) : Prop :=
  ∃ l, (c.lessons key.dialect)[key.index]? = some l ∧ l.kind.isExercise = true

namespace Session

inductive Call where
  | selectDialect (dialect : Dialect)
  | selectLesson (index : Nat)
  | nextLesson
  | previousLesson
  | recordAttempt (results : Dataset)

/-- What a session answers. A call that is carried out without a result is `done`; at the first or
the last lesson the session stays where it is. -/
inductive Reply where
  | done
  | stayed
  | outOfRange (e : LessonOutOfRange)
  | graded (outcome : Outcome)
  | failed (e : CurriculumError)
  deriving DecidableEq, Repr

def Reply.isRefusal : Reply → Bool
  | done | graded _ => false
  | stayed | outOfRange _ | failed _ => true

/-- Whether the answer says that an exercise was completed for the first time. -/
def Reply.newlyCompleted : Reply → Bool
  | graded outcome => outcome.newlyCompleted
  | _ => false

/-- The answer to a call, and the session after it. -/
def answer (c : Curriculum) (s : Session) : Call → Reply × Session
  | .selectDialect dialect => (.done, s.selectDialect dialect)
  | .selectLesson index =>
    match s.selectLesson c index with
    | .ok s' => (.done, s')
    | .error e => (.outOfRange e, s)
  | .nextLesson =>
    match s.nextLesson? c with
    | some s' => (.done, s')
    | none => (.stayed, s)
  | .previousLesson =>
    match s.previousLesson? with
    | some s' => (.done, s')
    | none => (.stayed, s)
  | .recordAttempt results =>
    match s.recordAttempt c results with
    | .ok (outcome, s') => (.graded outcome, s')
    | .error e => (.failed e, s)

/-- One call of a run, with the session before it, the answer, and the session after it. -/
structure Event where
  before : Session
  call : Call
  reply : Reply
  after : Session

def events (c : Curriculum) (s : Session) : List Call → List Event
  | [] => []
  | call :: calls =>
    ⟨s, call, (s.answer c call).1, (s.answer c call).2⟩ :: events c (s.answer c call).2 calls

def after (c : Curriculum) (s : Session) (calls : List Call) : Session :=
  calls.foldl (fun s call => (s.answer c call).2) s

/-- The lessons that are reported as completed for the first time, in order. -/
def completions (es : List Event) : List LessonKey :=
  (es.filter fun e => e.reply.newlyCompleted).map fun e => e.before.current

/-- The place is the first one or one of the lessons there are. -/
def InRange (c : Curriculum) (s : Session) : Prop :=
  s.lesson = 0 ∨ s.lesson < c.length s.dialect

/-- What holds of every session that is reached. -/
structure Valid (c : Curriculum) (s : Session) : Prop where
  inRange : s.InRange c
  isExercise : ∀ key ∈ s.completed, c.IsExercise key
  nodup : s.completed.Nodup

/-- What holds of every call: nothing that was completed is lost, only an attempt completes
something, at most the current lesson, and says so, and a refusal changes nothing. -/
structure Event.Lawful (e : Event) : Prop where
  kept : ∀ key ∈ e.before.completed, key ∈ e.after.completed
  added : ∀ key ∈ e.after.completed, key ∉ e.before.completed →
    key = e.before.current ∧ ∃ results, e.call = .recordAttempt results
  newly : e.reply.newlyCompleted = true ↔ ∃ key ∈ e.after.completed, key ∉ e.before.completed
  unchanged : e.reply.isRefusal = true → e.after = e.before

variable {c : Curriculum} {s s' : Session} {call : Call} {reply : Reply}

/-- All that a call can do: nothing, a move to a lesson, or the completion of the current one. -/
inductive Effect (c : Curriculum) (s : Session) : Call → Reply → Session → Prop where
  | refused {call : Call} {reply : Reply} : reply.isRefusal = true → Effect c s call reply s
  | moved {call : Call} {dialect : Dialect} {lesson : Nat} :
      (dialect = s.dialect ∨ call = .selectDialect dialect) →
      (lesson = 0 ∨ lesson < c.length dialect ∨ dialect = s.dialect ∧ lesson < s.lesson) →
      Effect c s call .done { s with dialect, lesson }
  | graded {call : Call} {passed : Bool} : Effect c s call (.graded ⟨passed, false⟩) s
  | completed {results : Dataset} : c.IsExercise s.current → s.current ∉ s.completed →
      Effect c s (.recordAttempt results) (.graded ⟨true, true⟩)
        { s with completed := s.completed ++ [s.current] }

theorem isExercise_of_exercise {dialect : Dialect} {index : Nat} {exercise : Exercise}
    (h : c.exercise dialect index = .ok exercise) : c.IsExercise ⟨dialect, index⟩ := by
  obtain ⟨hl, hk, -⟩ := Curriculum.eq_of_exercise h
  exact ⟨exercise.lesson, hl, LessonKind.isExercise_iff.mpr hk⟩

theorem selectLesson_cases (c : Curriculum) (s : Session) (index : Nat) :
    (∃ e, s.selectLesson c index = .error e) ∨
      s.selectLesson c index = .ok { s with lesson := index } ∧ index < c.length s.dialect := by
  unfold selectLesson
  split
  · next h => exact .inr ⟨rfl, h⟩
  · exact .inl ⟨_, rfl⟩

theorem recordAttempt_cases (c : Curriculum) (s : Session) (results : Dataset) :
    (∃ e, s.recordAttempt c results = .error e) ∨
      (∃ passed, s.recordAttempt c results = .ok (⟨passed, false⟩, s)) ∨
      s.recordAttempt c results =
          .ok (⟨true, true⟩, { s with completed := s.completed ++ [s.current] }) ∧
        c.IsExercise s.current ∧ s.current ∉ s.completed := by
  unfold recordAttempt
  cases h : c.exercise s.dialect s.lesson with
  | error e => exact .inl ⟨e, rfl⟩
  | ok exercise =>
    right
    dsimp only
    split
    · next hnew =>
      obtain ⟨hpassed, hcompleted⟩ := Bool.and_eq_true_iff.mp hnew
      refine .inr ⟨by rw [hpassed], isExercise_of_exercise h, ?_⟩
      simpa [isCompleted] using hcompleted
    · exact .inl ⟨_, rfl⟩

/-- Grading results for the current exercise comes to what its check says. -/
theorem recordAttempt_of_exercise {exercise : Exercise}
    (h : c.exercise s.dialect s.lesson = .ok exercise) (results : Dataset) :
    ∃ outcome s', s.recordAttempt c results = .ok (outcome, s') ∧
      outcome.passed = exercise.check.passes results := by
  simp only [recordAttempt, h]
  split
  · exact ⟨_, _, rfl, rfl⟩
  · exact ⟨_, _, rfl, rfl⟩

theorem effect_answer (c : Curriculum) (s : Session) (call : Call) :
    Effect c s call (s.answer c call).1 (s.answer c call).2 := by
  cases call with
  | selectDialect dialect => exact .moved (.inr rfl) (.inl rfl)
  | selectLesson index =>
    rcases selectLesson_cases c s index with ⟨e, he⟩ | ⟨he, hlt⟩
    · simp only [answer, he]
      exact .refused rfl
    · simp only [answer, he]
      exact .moved (.inl rfl) (.inr (.inl hlt))
  | nextLesson =>
    rcases selectLesson_cases c s (s.lesson + 1) with ⟨e, he⟩ | ⟨he, hlt⟩
    · simp only [answer, nextLesson?, he]
      exact .refused rfl
    · simp only [answer, nextLesson?, he]
      exact .moved (.inl rfl) (.inr (.inl hlt))
  | previousLesson =>
    unfold answer previousLesson?
    cases hl : s.lesson with
    | zero => exact .refused rfl
    | succ n => exact .moved (.inl rfl) (.inr (.inr ⟨rfl, by omega⟩))
  | recordAttempt results =>
    rcases recordAttempt_cases c s results with ⟨e, he⟩ | ⟨passed, he⟩ | ⟨he, hx, hn⟩
    · simp only [answer, he]
      exact .refused rfl
    · simp only [answer, he]
      exact .graded
    · simp only [answer, he]
      exact .completed hx hn

theorem Effect.dialect_eq (he : Effect c s call reply s') :
    s'.dialect = s.dialect ∨ call = .selectDialect s'.dialect := by
  cases he with
  | moved hd _ => exact hd
  | refused _ | graded | completed _ _ => exact .inl rfl

theorem Effect.valid (he : Effect c s call reply s') (h : s.Valid c) : s'.Valid c := by
  cases he with
  | refused _ => exact h
  | @moved _ dialect lesson _ hl =>
    refine ⟨?_, h.isExercise, h.nodup⟩
    rcases hl with hl | hl | ⟨rfl, hl⟩
    · exact .inl hl
    · exact .inr hl
    · -- The lesson before one of the lessons there are is one of them as well.
      have hs := h.inRange.resolve_left (by omega)
      exact .inr (hl.trans hs)
  | graded => exact h
  | completed hx hn =>
    refine ⟨h.inRange, fun key hkey => ?_, ?_⟩
    · rcases List.mem_append.mp hkey with hkey | hkey
      · exact h.isExercise key hkey
      · obtain rfl := List.mem_singleton.mp hkey
        exact hx
    · refine List.nodup_append.mpr ⟨h.nodup, by simp, ?_⟩
      rintro key hkey _ hc rfl
      exact hn (List.mem_singleton.mp hc ▸ hkey)

theorem Event.lawful_of_completed_eq {e : Event} (h : e.after.completed = e.before.completed)
    (hn : e.reply.newlyCompleted = false) (hu : e.reply.isRefusal = true → e.after = e.before) :
    e.Lawful where
  kept key hkey := h ▸ hkey
  added key hkey hk := absurd (h ▸ hkey) hk
  newly := by simp [h, hn]
  unchanged := hu

theorem Effect.lawful (he : Effect c s call reply s') : (⟨s, call, reply, s'⟩ : Event).Lawful := by
  cases he with
  | @refused _ reply hr =>
    refine Event.lawful_of_completed_eq rfl ?_ fun _ => rfl
    cases reply <;> first | rfl | cases hr
  | moved _ _ => exact Event.lawful_of_completed_eq rfl rfl fun hr => nomatch hr
  | graded => exact Event.lawful_of_completed_eq rfl rfl fun _ => rfl
  | completed hx hn =>
    refine ⟨fun _ hkey => List.mem_append_left _ hkey, fun key hkey hk => ?_,
      ⟨fun _ => ⟨s.current, by simp, hn⟩, fun _ => rfl⟩, fun hr => nomatch hr⟩
    exact ⟨List.mem_singleton.mp ((List.mem_append.mp hkey).resolve_left hk), _, rfl⟩

/-- The answer says that the current lesson was completed exactly when it was added. -/
theorem Effect.completed_append (he : Effect c s call reply s') :
    s.completed ++ (if reply.newlyCompleted then [s.current] else []) = s'.completed := by
  cases he with
  | @refused _ reply hr => cases reply <;> first | exact List.append_nil _ | cases hr
  | moved _ _ => exact List.append_nil _
  | graded => exact List.append_nil _
  | completed _ _ => rfl

theorem completions_cons (e : Event) (es : List Event) :
    completions (e :: es) =
      (if e.reply.newlyCompleted then [e.before.current] else []) ++ completions es := by
  unfold completions
  cases h : e.reply.newlyCompleted <;> simp [h]

/-- What holds of a session holds after every run of it, every call of the run is lawful, and the
completed lessons are those that were reported, in order. -/
theorem Valid.run (h : s.Valid c) (calls : List Call) :
    (s.after c calls).Valid c ∧ (∀ e ∈ s.events c calls, e.Lawful) ∧
      (s.after c calls).completed = s.completed ++ completions (s.events c calls) := by
  induction calls generalizing s with
  | nil => exact ⟨h, by simp [events], (List.append_nil _).symm⟩
  | cons call calls ih =>
    have he := effect_answer c s call
    obtain ⟨hvalid, hlawful, hcompleted⟩ := ih (he.valid h)
    refine ⟨hvalid, ?_, ?_⟩
    · rw [events, List.forall_mem_cons]
      exact ⟨he.lawful, hlawful⟩
    · rw [events, completions_cons, ← List.append_assoc, he.completed_append]
      exact hcompleted

theorem valid_start (c : Curriculum) (dialect : Dialect) : Valid c { dialect } :=
  ⟨.inl rfl, by simp, List.nodup_nil⟩

section Progress

theorem mem_exerciseIndices {lessons : List Lesson} {i : Nat} :
    i ∈ exerciseIndices lessons ↔ ∃ l, lessons[i]? = some l ∧ l.kind.isExercise = true := by
  simp only [exerciseIndices, List.mem_map, List.mem_filter, Prod.exists, exists_eq_right,
    List.mem_zipIdx_iff_getElem?]

theorem nodup_exerciseIndices (lessons : List Lesson) : (exerciseIndices lessons).Nodup := by
  have h : ((lessons.zipIdx).map Prod.snd).Nodup := by
    rw [List.zipIdx_map_snd]
    exact List.nodup_range'
  exact h.sublist (List.filter_sublist.map Prod.snd)

theorem length_exerciseIndices (lessons : List Lesson) :
    (exerciseIndices lessons).length = lessons.countP fun l => l.kind.isExercise := by
  have h := List.countP_map (p := fun l : Lesson => l.kind.isExercise) (f := Prod.fst)
    (l := lessons.zipIdx)
  rw [List.zipIdx_map_fst] at h
  rw [exerciseIndices, List.length_map, ← List.countP_eq_length_filter, h]
  rfl

/-- The walk over the lessons finds the completed keys of the dialect. -/
theorem Valid.completed_progress (h : s.Valid c) :
    (s.progress c).completed = s.completed.countP fun key => key.dialect = s.dialect := by
  have hinj : Function.Injective (LessonKey.mk s.dialect) := fun i j hij => by
    simpa using hij
  have hleft : (((exerciseIndices (c.lessons s.dialect)).filter fun i =>
      s.isCompleted ⟨s.dialect, i⟩).map (LessonKey.mk s.dialect)).Nodup :=
    List.Nodup.map hinj (List.Nodup.filter _ (nodup_exerciseIndices _))
  -- No key is in either list twice, so it is enough that they have the same members.
  have hperm := (List.perm_ext_iff_of_nodup hleft
    (h.nodup.filter fun key => key.dialect = s.dialect)).mpr ?_
  · rw [List.countP_eq_length_filter, ← hperm.length_eq, List.length_map]
    rfl
  · rintro ⟨dialect, i⟩
    simp only [List.mem_map, List.mem_filter, mem_exerciseIndices, isCompleted,
      List.contains_iff_mem, LessonKey.mk.injEq, decide_eq_true_eq]
    constructor
    · rintro ⟨j, ⟨-, hc⟩, rfl, rfl⟩
      exact ⟨hc, rfl⟩
    · rintro ⟨hc, rfl⟩
      exact ⟨i, ⟨h.isExercise _ hc, hc⟩, rfl, rfl⟩

theorem completed_le_total (c : Curriculum) (s : Session) :
    (s.progress c).completed ≤ (s.progress c).total :=
  List.length_filter_le _ _

end Progress

end Session

namespace Progress

variable {p : Progress}

/-- The percentage is rounded to the nearest whole number, halves up. -/
theorem percent_eq_round (p : Progress) :
    (p.percent : ℤ) = round ((100 * p.completed : ℚ) / p.total) := by
  unfold percent
  split
  · next h => simp [h]
  · next h =>
    have hpos : 0 < p.total := Nat.pos_of_ne_zero h
    have hle := Nat.div_mul_le_self (p.completed * 100 + p.total / 2) p.total
    have hlt := Nat.lt_mul_div_succ (p.completed * 100 + p.total / 2) hpos
    generalize (p.completed * 100 + p.total / 2) / p.total = q at *
    -- What makes `q` the rounded number: it is at most half a unit away from the fraction.
    have hq : (0 : ℚ) < p.total := by exact_mod_cast hpos
    have hlow : 2 * (q * p.total) ≤ 200 * p.completed + p.total := by omega
    have hhigh : 200 * p.completed + p.total < 2 * (p.total * (q + 1)) := by omega
    rw [round_eq, eq_comm, Int.floor_eq_iff]
    have hlow' : (2 * (q * p.total) : ℚ) ≤ 200 * p.completed + p.total := by exact_mod_cast hlow
    have hhigh' : (200 * p.completed + p.total : ℚ) < 2 * (p.total * (q + 1)) := by
      exact_mod_cast hhigh
    constructor
    · rw [← sub_le_iff_le_add, le_div_iff₀ hq]
      push_cast
      linarith
    · rw [← lt_sub_iff_add_lt, div_lt_iff₀ hq]
      push_cast
      linarith

theorem percent_le (h : p.completed ≤ p.total) : p.percent ≤ 100 := by
  unfold percent
  split
  · exact Nat.zero_le _
  · rw [← Nat.lt_succ_iff, Nat.div_lt_iff_lt_mul (by omega)]
    omega

end Progress

namespace Session

/-- Whatever is asked of a new session, it stands at a lesson of its dialect, every call is lawful,
every completed exercise was reported as new once, and the progress counts the completed exercises
of the dialect. -/
theorem lawful_run (c : Curriculum) (dialect : Dialect) (calls : List Call) :
    let s := after c { dialect } calls
    let es := events c { dialect } calls
    let p := s.progress c
    s.Valid c ∧ (∀ e ∈ es, e.Lawful) ∧
      completions es = s.completed ∧ (completions es).Nodup ∧
      p.completed = s.completed.countP (fun key => key.dialect = s.dialect) ∧
      p.total = (c.lessons s.dialect).countP (fun l => l.kind.isExercise) ∧
      p.completed ≤ p.total ∧ p.percent ≤ 100 ∧
      (p.percent : ℤ) = round ((100 * p.completed : ℚ) / p.total) ∧
      (p.total = 0 → p.percent = 0) := by
  obtain ⟨hvalid, hlawful, hcompleted⟩ := (valid_start c dialect).run calls
  rw [List.nil_append] at hcompleted
  refine ⟨hvalid, hlawful, hcompleted.symm, hcompleted ▸ hvalid.nodup, hvalid.completed_progress,
    length_exerciseIndices _, completed_le_total _ _, Progress.percent_le (completed_le_total _ _),
    Progress.percent_eq_round _, fun h => if_pos h⟩

end Session

end LogLab
