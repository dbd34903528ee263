import LogLab.Lab
import LogLab.Query.Compile
import LogLab.Session
import LogLab.Table

/-! # The practice loop

A learner works through lessons by typing lines. A line that starts with a colon is a command; any
other line opens a query, which goes on to the next blank line and is then run and graded. Lines
that follow in a query are part of it whatever they start with. What has been written when the loop
halts stays written.
-/

namespace LogLab

namespace Practice

inductive Command where
  | quit
  | help
  | hint
  | next
  | previous
  | progress
  | unknown (text : String)
  deriving DecidableEq, Repr, Inhabited

/-- The place between two lines: the session, and the lines of a query that is not yet ended. -/
structure State where
  session : Session
  pending : String := ""
  deriving DecidableEq, Repr, Inhabited

/-- What the loop comes to. It fails if the session fails to record an attempt. -/
abbrev Result := Except (Halt CurriculumError)

def Command.ofText (text : String) : Command :=
  match text with
  | ":quit" | ":q" => quit
  | ":help" => help
  | ":hint" => hint
  | ":next" => next
  | ":prev" => previous
  | ":progress" => progress
  | _ => unknown text

def helpText : String :=
  "Commands: :hint :next :prev :progress :help :quit. End a query with a blank line."

/-- What is written before a line is read: nothing inside a query. -/
def prompt (state : State) : String :=
  if state.pending.isEmpty then "> " else ""

variable (lab : Lab)

def lessonHeading (session : Session) (lesson : Lesson) : String :=
  "== " ++ session.dialect.heading ++ " lesson " ++ toString (session.lesson + 1) ++ "/" ++
    toString (lab.curriculum.length session.dialect) ++ " [" ++ lesson.kind.tag ++ "] " ++
    lesson.title ++ (if session.isCompleted session.current then " (completed)" else "")

def exampleText (e : Example) : String :=
  "\n  " ++ e.description ++ "\n    " ++ e.query

def lessonLines (session : Session) (lesson : Lesson) : List String :=
  ["", lessonHeading lab session lesson, lesson.description] ++
    lesson.theory.map ("\n" ++ ·) ++
    lesson.examples.map exampleText ++
    (lesson.task.map ("\nTask: " ++ ·)).toList ++
    (lesson.source.map ("Data source: " ++ ·.name)).toList ++
    (lesson.starterQuery.map ("Starter: " ++ ·)).toList ++
    (if lesson.kind.isExercise then [] else ["\nType :next to continue."])

def lesson? (session : Session) : Option Lesson :=
  (lab.curriculum.lesson session.dialect session.lesson).toOption

def showLesson (session : Session) : String :=
  match lesson? lab session with
  | some lesson => String.join ((lessonLines lab session lesson).map (· ++ "\n"))
  | none => ""

def showProgress (session : Session) : String :=
  (session.progress lab.curriculum).display ++ "\n"

def obey (session : Session) : Command → String × Session
  | .quit => ("", session)
  | .help => (helpText ++ "\n", session)
  | .hint =>
    match (lesson? lab session).bind Lesson.hint with
    | some hint => ("Hint: " ++ hint ++ "\n", session)
    | none => ("No hint for this lesson.\n", session)
  | .next =>
    match session.nextLesson? lab.curriculum with
    | some session' => (showLesson lab session', session')
    | none => ("Already at the last lesson.\n", session)
  | .previous =>
    match session.previousLesson? with
    | some session' => (showLesson lab session', session')
    | none => ("Already at the first lesson.\n", session)
  | .progress => (showProgress lab session, session)
  | .unknown text => ("Unknown command " ++ text ++ ". " ++ helpText ++ "\n", session)

def showResults (results : Dataset) : String :=
  Table.render results ++ "(" ++ toString results.length ++ " rows)\n"

/-- What is said about an attempt; `session` is the one after it. -/
def verdict (outcome : Outcome) (session : Session) : String :=
  if outcome.passed then
    "Passed! " ++ showProgress lab session ++
      (if outcome.newlyCompleted then "Type :next for the next lesson.\n" else "")
  else "Not yet. Type :hint for a hint.\n"

/-- What is said if there is nothing to attempt. -/
def refusal (e : CurriculumError) : String :=
  e.message ++ ". Type :next to continue.\n"

/-- Runs a query for the current exercise and grades its results. -/
def attempt (session : Session) (query : String) : String × Result Session :=
  match lab.curriculum.exercise session.dialect session.lesson with
  | .error e => (refusal e, .ok session)
  | .ok exercise =>
    match Query.run session.dialect query (lab.store.get exercise.source) with
    | .error (.failed e) => ("Error: " ++ e.message ++ "\n", .ok session)
    | .error (.crashed crash) => ("", .error (.crashed crash))
    | .ok answer =>
      match session.recordAttempt lab.curriculum answer.results with
      | .error e => (showResults answer.results, .error (.failed e))
      | .ok (outcome, session') =>
        (showResults answer.results ++ verdict lab outcome session', .ok session')

/-- What a line gives: a text, and the place after it unless the line ends the loop. -/
def step (state : State) (line : List Char) : String × Result (Option State) :=
  let word := Text.trim line
  if state.pending.isEmpty && word.head? == some ':' then
    match Command.ofText (String.ofList word) with
    | .quit => ("", .ok none)
    | command =>
      let (text, session) := obey lab state.session command
      (text, .ok (some { session }))
  else if word.isEmpty then
    if state.pending.isEmpty then ("", .ok (some state))
    else
      let (text, result) := attempt lab state.session state.pending
      (text, result.map fun session => some { session })
  else ("", .ok (some { state with pending := state.pending ++ String.ofList line }))

/-- What the end of the input gives: a query that is not ended is graded all the same. -/
def finish (state : State) : String × Result Session :=
  if state.pending.isEmpty then ("", .ok state.session)
  else attempt lab state.session state.pending

/-- Goes through lines up to the one that ends the loop. -/
def follow (state : State) : List (List Char) → String × Result Session
  | [] =>
    let (text, result) := finish lab state
    (prompt state ++ text, result)
  | line :: lines =>
    match step lab state line with
    | (text, .error halt) => (prompt state ++ text, .error halt)
    | (text, .ok none) => (prompt state ++ text, .ok state.session)
    | (text, .ok (some state')) =>
      let (rest, result) := follow state' lines
      (prompt state ++ text ++ rest, result)

def opening (session : Session) : String :=
  helpText ++ "\n" ++ showLesson lab session

/-- The lines of a script, each with the line break that ends it. -/
def linesOf : List Char → List (List Char)
  | [] => []
  | c :: cs => if c = '\n' then ['\n'] :: linesOf cs else Text.consFirst c (linesOf cs)

def closing : Result Session → String
  | .ok session => showProgress lab session
  | .error _ => ""

/-- Everything that is written while a script is followed, and the session at its end. -/
def run (session : Session) (script : List Char) : String × Result Session :=
  let (text, result) := follow lab { session } (linesOf script)
  (opening lab session ++ text ++ closing lab result, result)

end Practice

end LogLab
