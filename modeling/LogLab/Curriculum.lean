import LogLab.Dialect
import LogLab.Lesson

/-! # Curricula

A curriculum holds a list of lessons for some of the dialects. In a document that is accepted every
lesson that is an exercise has a task, a source and a check.
-/

namespace LogLab

/-- The lessons of each dialect; a dialect may be missing. -/
structure Curriculum where
  sql : Option (List Lesson) := none
  spl : Option (List Lesson) := none
  kql : Option (List Lesson) := none
  sigma : Option (List Lesson) := none
  deriving Repr, Inhabited

inductive ExercisePart where
  | task
  | source
  | check
  deriving DecidableEq, Repr, Inhabited

inductive CurriculumError where
  | invalid
  | incomplete (dialect : Dialect) (index : Nat) (missing : ExercisePart)
  | unknownLesson (dialect : Dialect) (index : Nat)
  | noExercise (dialect : Dialect) (index : Nat)
  deriving DecidableEq, Repr, Inhabited

/-- A lesson that can be attempted, with the source and the check of the task. -/
structure Exercise where
  lesson : Lesson
  source : Source
  check : Check
  deriving Repr, Inhabited

def ExercisePart.name : ExercisePart → String
  | task => "task"
  | source => "data source"
  | check => "check"

def CurriculumError.message : CurriculumError → String
  | invalid => "Invalid curriculum document"
  | incomplete dialect index missing =>
    s!"{dialect} lesson {index} is an exercise but has no " ++ missing.name
  | unknownLesson dialect index => s!"No {dialect} lesson at index {index}"
  | noExercise dialect index => s!"{dialect} lesson {index} has no exercise"

namespace Lesson

/-- The first part that an exercise needs and the lesson lacks. -/
def missingPart? (l : Lesson) : Option ExercisePart :=
  if !l.kind.isExercise then none
  else if l.task.isNone then some .task
  else if l.source.isNone then some .source
  else if l.check.isNone then some .check
  else none

end Lesson

namespace Curriculum

def get? (c : Curriculum) : Dialect → Option (List Lesson)
  | .sql => c.sql
  | .spl => c.spl
  | .kql => c.kql
  | .sigma => c.sigma

def set (c : Curriculum) (dialect : Dialect) (lessons : List Lesson) : Curriculum :=
  match dialect with
  | .sql => { c with sql := some lessons }
  | .spl => { c with spl := some lessons }
  | .kql => { c with kql := some lessons }
  | .sigma => { c with sigma := some lessons }

def lessons (c : Curriculum) (dialect : Dialect) : List Lesson :=
  (c.get? dialect).getD []

def length (c : Curriculum) (dialect : Dialect) : Nat :=
  (c.lessons dialect).length

def isEmpty (c : Curriculum) : Bool :=
  Dialect.all.all fun d => (c.lessons d).isEmpty

def lesson (c : Curriculum) (dialect : Dialect) (index : Nat) : Except CurriculumError Lesson :=
  match (c.lessons dialect)[index]? with
  | some l => .ok l
  | none => .error (.unknownLesson dialect index)

def exercise (c : Curriculum) (dialect : Dialect) (index : Nat) :
    Except CurriculumError Exercise :=
  match c.lesson dialect index with
  | .error e => .error e
  | .ok l =>
    match l.source, l.check with
    | some source, some check =>
      if l.kind.isExercise then .ok ⟨l, source, check⟩ else .error (.noExercise dialect index)
    | _, _ => .error (.noExercise dialect index)

/-- The first incomplete exercise among lessons whose first one has an index. -/
def firstIncomplete? (dialect : Dialect) (index : Nat) : List Lesson → Option CurriculumError
  | [] => none
  | l :: ls =>
    match l.missingPart? with
    | some missing => some (.incomplete dialect index missing)
    | none => firstIncomplete? dialect (index + 1) ls

/-- Accepts a curriculum whose exercises are complete; otherwise tells the first that is not. -/
def validate (c : Curriculum) : Except CurriculumError Unit :=
  match Dialect.all.findSome? fun d => firstIncomplete? d 0 (c.lessons d) with
  | some e => .error e
  | none => .ok ()

def toJson (c : Curriculum) : Json :=
  .object (Dialect.all.flatMap fun d =>
    Json.ifSome d.tag ((c.get? d).map fun ls => .array (ls.map Lesson.toJson)))

/-- Takes a field of a document into the curriculum. -/
def addField? (c : Curriculum) (field : String × Json) : Option Curriculum := do
  let dialect ← Dialect.ofTag? field.1
  let lessons ← field.2.list? Lesson.ofJson?
  pure (c.set dialect lessons)

def ofJson? : Json → Option Curriculum
  | .object fields => fields.foldlM addField? {}
  | _ => none

def shape : Json.Shape :=
  .table (.list Lesson.shape)

/-- The curriculum that a document describes. No part may be written twice, but inside the values
that checks compare with, the last of repeated names counts. -/
def decode? (text : List Char) : Option Curriculum := do
  let raw ← Json.parseShaped? shape text
  let _ ← ofJson? raw
  ofJson? raw.collapse

def ofText (text : List Char) : Except CurriculumError Curriculum :=
  match decode? text with
  | none => .error .invalid
  | some c => c.validate.map fun _ => c

end Curriculum

end LogLab
