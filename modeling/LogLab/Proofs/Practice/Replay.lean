import LogLab.Lessons.Builtin
import LogLab.Practice
import LogLab.Proofs.Query.Crashes
import LogLab.Proofs.Session.Runs

/-! # Replaying scripts

The steps of a script can be read off its lines before any of them is followed: commands, and blocks
of lines that are queries. The practice loop comes to what these steps come to: a session, or the
crash of a query.
-/

namespace LogLab.Practice

def isBlankLine (line : List Char) : Bool :=
  (Text.trim line).isEmpty

/-- A line with a colon in front of everything but blanks. -/
def isCommandLine (line : List Char) : Bool :=
  (Text.trim line).head? == some ':'

/-- The lines of a block that has been opened, up to a blank line. -/
def block (lines : List (List Char)) : List (List Char) :=
  lines.takeWhile fun line => !isBlankLine line

def behindBlock (lines : List (List Char)) : List (List Char) :=
  lines.dropWhile fun line => !isBlankLine line

theorem length_behindBlock_le (lines : List (List Char)) :
    (behindBlock lines).length ≤ lines.length :=
  (List.dropWhile_suffix _).length_le

/-- What a script asks for: a command, or the query that a block of lines is. -/
inductive Step where
  | command (word : String)
  | query (text : String)
  deriving DecidableEq, Repr

/-- The steps of a script. A blank line outside blocks is nothing; any line that is neither blank
nor a command opens a block, in which lines with a colon are lines like any other. -/
def steps : List (List Char) → List Step
  | [] => []
  | line :: lines =>
    if isBlankLine line then steps lines
    else if isCommandLine line then .command (String.ofList (Text.trim line)) :: steps lines
    else .query (String.ofList (line ++ (block lines).flatten)) :: steps (behindBlock lines)
termination_by lines => lines.length
decreasing_by
  · simp
  · simp
  · exact Nat.lt_succ_of_le (length_behindBlock_le lines)

/-- The steps up to the first command that ends the loop. -/
def untilQuit (steps : List Step) : List Step :=
  steps.takeWhile fun step => step != .command ":quit" && step != .command ":q"

variable (lab : Lab)

/-- What a step asks of the session, if anything: a query asks for an attempt with its results,
unless there is no exercise or the query does not compile. -/
def Step.call? (session : Session) : Step → Except Crash (Option Session.Call)
  | .command word =>
    if word = ":next" then .ok (some .nextLesson)
    else if word = ":prev" then .ok (some .previousLesson)
    else .ok none
  | .query text =>
    match lab.curriculum.exercise session.dialect session.lesson with
    | .error _ => .ok none
    | .ok exercise =>
      match Query.run session.dialect text (lab.store.get exercise.source) with
      | .error (.failed _) => .ok none
      | .error (.crashed crash) => .error crash
      | .ok answer => .ok (some (.recordAttempt answer.results))

/-- The session after a call; an attempt that the session fails to record is an error. -/
def carryOut (session : Session) (call : Session.Call) : Except CurriculumError Session :=
  match session.answer lab.curriculum call with
  | (.failed e, _) => .error e
  | (_, session') => .ok session'

def Step.replay (session : Session) (step : Step) : Result Session :=
  match step.call? lab session with
  | .error crash => .error (.crashed crash)
  | .ok none => .ok session
  | .ok (some call) => (carryOut lab session call).mapError .failed

def replay (session : Session) (steps : List Step) : Result Session :=
  steps.foldlM (fun session step => step.replay lab session) session

/-- Among the steps is a query that crashes, and the steps in front of it lead to an exercise. -/
def Breaks (session : Session) (steps : List Step) : Prop :=
  ∃ front text rest between, steps = front ++ .query text :: rest ∧
    replay lab session front = .ok between ∧
    (∃ exercise, lab.curriculum.exercise between.dialect between.lesson = .ok exercise) ∧
    Query.Breaks between.dialect text.toList

variable {lab} {session session' : Session} {line : List Char} {lines : List (List Char)}

theorem replay_cons {step : Step} {rest : List Step} : replay lab session (step :: rest) =
    step.replay lab session >>= fun session' => replay lab session' rest :=
  List.foldlM_cons ..

theorem replay_query (session : Session) (text : String) :
    Step.replay lab session (.query text) = (attempt lab session text).2 := by
  unfold Step.replay Step.call? attempt
  cases he : lab.curriculum.exercise session.dialect session.lesson with
  | error e => rfl
  | ok exercise =>
    match hrun : Query.run session.dialect text (lab.store.get exercise.source) with
    | .error (.failed e) => simp only [hrun]
    | .error (.crashed crash) => simp only [hrun]
    | .ok answer =>
      obtain ⟨outcome, session', hr, -⟩ := Session.recordAttempt_of_exercise he answer.results
      simp only [hrun, carryOut, Session.answer, hr]
      rfl

theorem obey_hint : obey lab session .hint =
    match (lesson? lab session).bind Lesson.hint with
    | some hint => ("Hint: " ++ hint ++ "\n", session)
    | none => ("No hint for this lesson.\n", session) :=
  rfl

theorem obey_next : obey lab session .next =
    match session.nextLesson? lab.curriculum with
    | some session' => (showLesson lab session', session')
    | none => ("Already at the last lesson.\n", session) :=
  rfl

theorem obey_previous : obey lab session .previous =
    match session.previousLesson? with
    | some session' => (showLesson lab session', session')
    | none => ("Already at the first lesson.\n", session) :=
  rfl

theorem Command.ofText_eq_quit_iff {word : String} :
    Command.ofText word = .quit ↔ word = ":quit" ∨ word = ":q" := by
  constructor
  · intro h
    unfold ofText at h
    split at h <;> simp_all
  · rintro (rfl | rfl) <;> rfl

theorem replay_of_ne {word : String} (hnext : word ≠ ":next") (hprev : word ≠ ":prev") :
    Step.replay lab session (.command word) = .ok session := by
  simp only [Step.replay, Step.call?, if_neg hnext, if_neg hprev]

/-- Commands neither fail nor crash. -/
theorem replay_command (session : Session) (word : String) :
    Step.replay lab session (.command word) =
      .ok (obey lab session (Command.ofText word)).2 := by
  unfold Command.ofText
  split
  · exact replay_of_ne (by decide) (by decide)
  · exact replay_of_ne (by decide) (by decide)
  · exact replay_of_ne (by decide) (by decide)
  · rw [replay_of_ne (by decide) (by decide), obey_hint]
    cases (lesson? lab session).bind Lesson.hint <;> rfl
  · rw [obey_next]
    simp only [Step.replay, Step.call?, if_pos, carryOut, Session.answer]
    cases session.nextLesson? lab.curriculum <;> rfl
  · rw [obey_previous]
    simp only [Step.replay, Step.call?, String.reduceEq, if_false, if_pos, carryOut, Session.answer]
    cases session.previousLesson? <;> rfl
  · exact replay_of_ne (by decide) (by decide)
  · next hnext hprev _ => exact replay_of_ne hnext hprev

section Step

variable {pending : String}

theorem ne_nil_of_not_isBlankLine (h : isBlankLine line = false) : line ≠ [] := by
  rintro rfl
  cases h

theorem step_of_isBlankLine (h : isBlankLine line = true) (session : Session) :
    step lab { session } line = ("", .ok (some { session })) := by
  have hw : Text.trim line = [] := List.isEmpty_iff.mp h
  simp [step, hw]

theorem step_pending_of_isBlankLine (h : isBlankLine line = true) (hp : pending ≠ "") :
    step lab ⟨session, pending⟩ line =
      ((attempt lab session pending).1,
        (attempt lab session pending).2.map fun session => some { session }) := by
  have hw : Text.trim line = [] := List.isEmpty_iff.mp h
  simp [step, hw, hp]

theorem step_pending (h : isBlankLine line = false) (hp : pending ≠ "") :
    step lab ⟨session, pending⟩ line =
      ("", .ok (some ⟨session, pending ++ String.ofList line⟩)) := by
  have hw : (Text.trim line).isEmpty = false := h
  simp [step, hw, hp]

theorem step_text (h : isBlankLine line = false) (hc : isCommandLine line = false) :
    step lab { session } line = ("", .ok (some ⟨session, String.ofList line⟩)) := by
  have hw : (Text.trim line).isEmpty = false := h
  have hcolon : ((Text.trim line).head? == some ':') = false := hc
  simp [step, hw, hcolon]

theorem step_command {command : Command} (hc : isCommandLine line = true)
    (he : Command.ofText (String.ofList (Text.trim line)) = command) (hne : command ≠ .quit) :
    step lab { session } line =
      ((obey lab session command).1, .ok (some { session := (obey lab session command).2 })) := by
  have hcolon : ((Text.trim line).head? == some ':') = true := hc
  simp only [step, hcolon, he]
  rfl

theorem step_quit (hc : isCommandLine line = true)
    (he : Command.ofText (String.ofList (Text.trim line)) = .quit) :
    step lab { session } line = ("", .ok none) := by
  have hcolon : ((Text.trim line).head? == some ':') = true := hc
  simp only [step, hcolon, he]
  rfl

end Step

section Follow

variable {state state' : State} {text : String}

theorem follow_of_step (h : step lab state line = (text, .ok (some state'))) :
    (follow lab state (line :: lines)).2 = (follow lab state' lines).2 := by
  rw [follow, h]

theorem follow_of_quit (h : step lab state line = (text, .ok none)) :
    (follow lab state (line :: lines)).2 = .ok state.session := by
  rw [follow, h]

theorem follow_of_error {halt : Halt CurriculumError}
    (h : step lab state line = (text, .error halt)) :
    (follow lab state (line :: lines)).2 = .error halt := by
  rw [follow, h]

theorem append_ofList_ne_empty {pending : String} (hp : pending ≠ "") (line : List Char) :
    pending ++ String.ofList line ≠ "" := by
  intro h
  have hl := congrArg String.toList h
  rw [String.toList_append] at hl
  exact hp (String.toList_inj.mp (List.append_eq_nil_iff.mp hl).1)

/-- A blank line ends a pending query, which is attempted then. -/
theorem follow_pending_of_isBlankLine {pending : String} (h : isBlankLine line = true)
    (hp : pending ≠ "") (lines : List (List Char)) :
    (follow lab ⟨session, pending⟩ (line :: lines)).2 = (attempt lab session pending).2 >>=
      fun session' => (follow lab { session := session' } (line :: lines)).2 := by
  have hstep : step lab ⟨session, pending⟩ line = _ := step_pending_of_isBlankLine h hp
  cases ha : (attempt lab session pending).2 with
  | error halt =>
    rw [ha] at hstep
    exact follow_of_error hstep
  | ok session' =>
    rw [ha] at hstep
    exact (follow_of_step hstep).trans (follow_of_step (step_of_isBlankLine h session')).symm

/-- A pending query takes in the rest of its block and is attempted then. -/
theorem follow_pending {pending : String} (hp : pending ≠ "") (lines : List (List Char)) :
    (follow lab ⟨session, pending⟩ lines).2 =
      (attempt lab session (pending ++ String.ofList (block lines).flatten)).2 >>=
        fun session' => (follow lab { session := session' } (behindBlock lines)).2 := by
  -- Each line of the block is added to what is pending, so that is general in the induction.
  induction lines generalizing pending with
  | nil =>
    have hempty : pending.isEmpty = false := by simpa using hp
    simp only [follow, finish, block, behindBlock, hempty, Bool.false_eq_true, if_false,
      List.takeWhile_nil, List.dropWhile_nil, List.flatten_nil, String.ofList_nil,
      String.append_empty]
    cases (attempt lab session pending).2 <;> rfl
  | cons line lines ih =>
    cases h : isBlankLine line with
    | true =>
      have hblock : block (line :: lines) = [] := by simp [block, h]
      have hbehind : behindBlock (line :: lines) = line :: lines := by simp [behindBlock, h]
      rw [hblock, hbehind, follow_pending_of_isBlankLine h hp]
      simp
    | false =>
      have hblock : block (line :: lines) = line :: block lines := by simp [block, h]
      have hbehind : behindBlock (line :: lines) = behindBlock lines := by simp [behindBlock, h]
      rw [hblock, hbehind, follow_of_step (step_pending h hp),
        ih (append_ofList_ne_empty hp line), List.flatten_cons, String.ofList_append,
        String.append_assoc]

/-- The loop over lines comes to what the steps of the lines come to. -/
theorem follow_eq_replay (session : Session) (lines : List (List Char)) :
    (follow lab { session } lines).2 = replay lab session (untilQuit (steps lines)) := by
  -- A block takes several lines away at once, so the induction is on their number.
  induction hlen : lines.length using Nat.strongRecOn generalizing session lines with
  | ind k ih =>
    cases lines with
    | nil =>
      rw [steps]
      rfl
    | cons line lines =>
      have hlt : lines.length < k := by simp [← hlen]
      rw [steps]
      cases hb : isBlankLine line with
      | true =>
        rw [if_pos rfl, follow_of_step (step_of_isBlankLine hb session)]
        exact ih _ hlt session lines rfl
      | false =>
        rw [if_neg Bool.false_ne_true]
        cases hc : isCommandLine line with
        | true =>
          rw [if_pos rfl]
          by_cases hq : Command.ofText (String.ofList (Text.trim line)) = .quit
          · rw [follow_of_quit (step_quit hc hq), untilQuit, List.takeWhile_cons_of_neg]
            · rfl
            · simpa [imp_iff_not_or] using Command.ofText_eq_quit_iff.mp hq
          · rw [follow_of_step (step_command hc rfl hq), untilQuit, List.takeWhile_cons_of_pos,
              replay_cons, replay_command]
            · exact ih _ hlt _ lines rfl
            · simpa using mt Command.ofText_eq_quit_iff.mpr hq
        | false =>
          have hline : String.ofList line ≠ "" := by
            intro he
            exact ne_nil_of_not_isBlankLine hb (by simpa using congrArg String.toList he)
          rw [if_neg Bool.false_ne_true, follow_of_step (step_text hb hc), follow_pending hline,
            untilQuit, List.takeWhile_cons_of_pos rfl, replay_cons, replay_query,
            String.ofList_append]
          refine bind_congr fun session' => ?_
          exact ih _ (Nat.lt_of_le_of_lt (length_behindBlock_le lines) hlt) _ _ rfl

end Follow

theorem call?_ne_selectDialect {step : Step} (dialect : Dialect) :
    step.call? lab session ≠ .ok (some (.selectDialect dialect)) := by
  unfold Step.call?
  repeat' split
  all_goals exact fun h => nomatch h

theorem dialect_carryOut {call : Session.Call} (hcall : ∀ dialect, call ≠ .selectDialect dialect)
    (h : carryOut lab session call = .ok session') : session'.dialect = session.dialect := by
  have hd := (Session.effect_answer lab.curriculum session call).dialect_eq.resolve_right (hcall _)
  unfold carryOut at h
  split at h
  · cases h
  · next he =>
    rw [he] at hd
    exact Except.ok.inj h ▸ hd

theorem Step.dialect_replay {step : Step} (h : step.replay lab session = .ok session') :
    session'.dialect = session.dialect := by
  unfold Step.replay at h
  split at h
  · cases h
  · rw [Except.ok.inj h]
  · next call hcall =>
    have hne : ∀ dialect, call ≠ .selectDialect dialect := fun dialect he =>
      call?_ne_selectDialect dialect (he ▸ hcall)
    exact dialect_carryOut hne (mapError_eq_ok_iff.mp h)

theorem dialect_replay {rest : List Step} (h : replay lab session rest = .ok session') :
    session'.dialect = session.dialect :=
  foldlM_preserves (fun _ _ _ => Step.dialect_replay) h

section Halts

variable {halt : Halt CurriculumError}

/-- Only the crash of its query can halt a step: where there is an exercise, the session records
every attempt. -/
theorem replay_query_eq_error_iff {text : String} :
    Step.replay lab session (.query text) = .error halt ↔
      ∃ exercise crash, lab.curriculum.exercise session.dialect session.lesson = .ok exercise ∧
        Query.run session.dialect text (lab.store.get exercise.source) = .error (.crashed crash) ∧
        halt = .crashed crash := by
  unfold Step.replay Step.call?
  cases he : lab.curriculum.exercise session.dialect session.lesson with
  | error e => simp
  | ok exercise =>
    match hrun : Query.run session.dialect text (lab.store.get exercise.source) with
    | .error (.failed e) => simp [hrun]
    | .error (.crashed crash) =>
      simp only [hrun]
      constructor
      · intro h
        exact ⟨exercise, crash, rfl, hrun, (Except.error.inj h).symm⟩
      · rintro ⟨_, crash', -, -, rfl⟩
        rw [crash.eq_insideCharacter, crash'.eq_insideCharacter]
    | .ok answer =>
      obtain ⟨outcome, session', hr, -⟩ := Session.recordAttempt_of_exercise he answer.results
      simp [hrun, carryOut, Session.answer, hr, Except.mapError]

theorem Step.replay_eq_error_iff {step : Step} : step.replay lab session = .error halt ↔
    ∃ text exercise crash, step = .query text ∧
      lab.curriculum.exercise session.dialect session.lesson = .ok exercise ∧
      Query.run session.dialect text (lab.store.get exercise.source) = .error (.crashed crash) ∧
      halt = .crashed crash := by
  cases step with
  | command word => simp [replay_command]
  | query text => simp [replay_query_eq_error_iff]

theorem replay_ne_failed {steps : List Step} {e : CurriculumError} :
    replay lab session steps ≠ .error (.failed e) := by
  intro h
  obtain ⟨front, step, rest, between, -, -, hstep⟩ := foldlM_eq_error_iff.mp h
  obtain ⟨text, exercise, crash, -, -, -, he⟩ := Step.replay_eq_error_iff.mp hstep
  cases he

/-- A replay crashes exactly if it comes to a query that does. -/
theorem exists_crashed_replay_iff {steps : List Step} :
    (∃ crash, replay lab session steps = .error (.crashed crash)) ↔ Breaks lab session steps := by
  constructor
  · rintro ⟨crash, h⟩
    obtain ⟨front, step, rest, between, rfl, hfront, hstep⟩ := foldlM_eq_error_iff.mp h
    obtain ⟨text, exercise, crash, rfl, he, hrun, -⟩ := Step.replay_eq_error_iff.mp hstep
    exact ⟨front, text, rest, between, rfl, hfront, ⟨exercise, he⟩,
      Query.exists_crashed_run_iff.mp ⟨crash, hrun⟩⟩
  · rintro ⟨front, text, rest, between, rfl, hfront, ⟨exercise, he⟩, hbreaks⟩
    obtain ⟨crash, hrun⟩ := Query.exists_crashed_run_iff.mpr hbreaks
    exact ⟨crash, foldlM_eq_error_iff.mpr ⟨front, .query text, rest, between, rfl, hfront,
      replay_query_eq_error_iff.mpr ⟨exercise, crash, he, hrun, rfl⟩⟩⟩

end Halts

/-- The practice loop comes to what the steps of the script come to, up to the first command that
ends it. The session records every attempt, so the loop ends without an error, and with the dialect
of the start, unless one of the queries crashes. -/
theorem replay_script (lab : Lab) (session : Session) (script : List Char) :
    (run lab session script).2 = replay lab session (untilQuit (steps (linesOf script))) ∧
      ((∃ crash, (run lab session script).2 = .error (.crashed crash)) ↔
        Breaks lab session (untilQuit (steps (linesOf script)))) ∧
      (¬ Breaks lab session (untilQuit (steps (linesOf script))) →
        ∃ session', (run lab session script).2 = .ok session' ∧
          session'.dialect = session.dialect) := by
  have hrun : (run lab session script).2 =
      replay lab session (untilQuit (steps (linesOf script))) :=
    follow_eq_replay session (linesOf script)
  refine ⟨hrun, hrun ▸ exists_crashed_replay_iff, fun hbreaks => ?_⟩
  rw [hrun]
  match hreplay : replay lab session (untilQuit (steps (linesOf script))) with
  | .ok session' => exact ⟨session', rfl, dialect_replay hreplay⟩
  | .error (.failed e) => exact absurd hreplay replay_ne_failed
  | .error (.crashed crash) => exact absurd (exists_crashed_replay_iff.mp ⟨crash, hreplay⟩) hbreaks

/-- A learner's query crashes the loop in an exercise of the built-in lessons. -/
theorem run_of_kelvinSign :
    (run ⟨Lessons.builtin, .samples⟩ { dialect := .spl, lesson := 1 }
      "where a LI\u212aE x | head 1\n\n".toList).2 = .error (.crashed .insideCharacter) := by
  decide +kernel

-- A colon inside a block is no command, and the block ends with the script.
example : steps (linesOf ":next\n \nSELECT *\n:quit\n\n:q\nrest".toList) =
    [.command ":next", .query "SELECT *\n:quit\n", .command ":q", .query "rest"] := by
  decide +kernel

end LogLab.Practice
