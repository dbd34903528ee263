import LogLab.Check
import LogLab.Json.Shape
import LogLab.Source

/-! # Lessons

A lesson teaches something and, unless it is pure theory, sets a task: a query to write, the source
it runs on, and a check of its results.
-/

namespace LogLab

/-- The kinds of lesson; all but the first set a task. -/
inductive LessonKind where
  | theory
  | guided
  | practical
  | challenge
  deriving DecidableEq, Repr, Inhabited

structure Example where
  description : String
  query : String
  deriving DecidableEq, Repr, Inhabited

structure Lesson where
  kind : LessonKind
  title : String
  description : String
  theory : List String := []
  examples : List Example := []
  task : Option String := none
  source : Option Source := none
  starterQuery : Option String := none
  hint : Option String := none
  check : Option Check := none
  deriving Repr, Inhabited

namespace LessonKind

def all : List LessonKind := [theory, guided, practical, challenge]

def tag : LessonKind → String
  | theory => "theory"
  | guided => "guided"
  | practical => "practical"
  | challenge => "challenge"

def ofTag? (s : String) : Option LessonKind :=
  all.find? (·.tag == s)

theorem ofTag?_tag (k : LessonKind) : ofTag? k.tag = some k := by
  cases k <;> decide

def isExercise : LessonKind → Bool
  | theory => false
  | guided | practical | challenge => true

end LessonKind

namespace Example

def toJson (e : Example) : Json :=
  .object [("description", .string e.description), ("query", .string e.query)]

def shape : Json.Shape :=
  .parts [("description", .whole), ("query", .whole)]

def ofJson? (v : Json) : Option Example := do
  let part ← v.parts? ["description", "query"]
  pure ⟨← (← part "description").string?, ← (← part "query").string?⟩

end Example

namespace Lesson

/-- A list as a field, left out if it is empty. -/
def ifNonempty (name : String) (items : List Json) : List (String × Json) :=
  if items.isEmpty then [] else [(name, .array items)]

/-- The fields of a lesson in order; empty lists and missing parts are left out. -/
def fields (l : Lesson) : List (String × Json) :=
  [("kind", .string l.kind.tag), ("title", .string l.title),
    ("description", .string l.description)] ++
  ifNonempty "theory" (l.theory.map .string) ++
  ifNonempty "examples" (l.examples.map Example.toJson) ++
  Json.ifSome "task" (l.task.map .string) ++
  Json.ifSome "data_source" (l.source.map fun s => .string s.name) ++
  Json.ifSome "starter_query" (l.starterQuery.map .string) ++
  Json.ifSome "hint" (l.hint.map .string) ++
  Json.ifSome "check" (l.check.map Check.toJson)

def toJson (l : Lesson) : Json :=
  .object l.fields

def partNames : List String :=
  ["kind", "title", "description", "theory", "examples", "task", "data_source", "starter_query",
    "hint", "check"]

def shape : Json.Shape :=
  .parts (partNames.map fun name =>
    (name, if name = "examples" then .list Example.shape else .whole))

def ofJson? (v : Json) : Option Lesson := do
  let part ← v.parts? partNames
  let kind ← ((← part "kind").symbol? false).bind LessonKind.ofTag?
  let title ← (← part "title").string?
  let description ← (← part "description").string?
  let theory ← Json.withDefault? [] (Json.list? Json.string?) (part "theory")
  let examples ← Json.withDefault? [] (Json.list? Example.ofJson?) (part "examples")
  let task ← Json.optional? Json.string? (part "task")
  let source ← Json.optional? (fun v => (v.symbol? false).bind Source.ofName?) (part "data_source")
  let starterQuery ← Json.optional? Json.string? (part "starter_query")
  let hint ← Json.optional? Json.string? (part "hint")
  let check ← Json.optional? (Check.ofJson? false) (part "check")
  pure { kind, title, description, theory, examples, task, source, starterQuery, hint, check }

end Lesson

end LogLab
