import LogLab.Lab
import LogLab.Query.Compile
import LogLab.Service.Request

/-! # Answers of the service

What the service does with a request that has been read: it runs queries, shows lessons and grades
attempts. It keeps no session, so grading depends on the request alone.
-/

namespace LogLab

/-- Why the service turns down a request. -/
inductive Rejection where
  | emptyQuery
  | unsupportedDialect (e : UnsupportedDialect)
  | unknownSource (e : UnknownSource)
  | curriculum (e : CurriculumError)
  | query (e : QueryError)
  deriving DecidableEq, Repr

structure Graded where
  passed : Bool
  results : Dataset
  deriving Repr

namespace Rejection

def status : Rejection → Nat
  | emptyQuery => 422
  | unsupportedDialect _ => 400
  | unknownSource _ => 404
  | curriculum (.unknownLesson ..) => 404
  | curriculum (.noExercise ..) => 400
  | curriculum .invalid | curriculum (.incomplete ..) => 500
  | query _ => 400

def kind : Rejection → String
  | emptyQuery => "validation_error"
  | unsupportedDialect _ => "unsupported_dialect"
  | unknownSource _ => "unknown_data_source"
  | curriculum (.unknownLesson ..) => "unknown_lesson"
  | curriculum (.noExercise ..) => "no_exercise"
  | curriculum .invalid | curriculum (.incomplete ..) => "curriculum_error"
  | query _ => "parse_error"

def message : Rejection → String
  | emptyQuery => "query: query must not be empty"
  | unsupportedDialect e => e.message
  | unknownSource e => e.message
  | curriculum e => e.message
  | query e => e.message

def toJson (r : Rejection) : Json :=
  .object [("error", .string r.kind), ("message", .string r.message)]

end Rejection

def Query.Answer.toJson (a : Query.Answer) : Json :=
  .object [("results", a.results.toJson), ("returned_count", .int a.results.length),
    ("columns", .array (a.results.columns.map .string)), ("pipeline", a.pipeline.toJson)]

def Graded.toJson (g : Graded) : Json :=
  .object [("passed", .bool g.passed), ("returned_count", .int g.results.length),
    ("results", g.results.toJson)]

namespace Lab

/-- The source of a query that names none. -/
def defaultSource : Source := .authLogs

def readDialect (text : String) : Except Rejection Dialect :=
  (Dialect.ofText text).mapError .unsupportedDialect

def checkQuery (query : String) : Except Rejection Unit :=
  if query.isEmpty then .error .emptyQuery else .ok ()

variable (lab : Lab)

/-- The records that a query runs on: its own, or those of the source it names. -/
def recordsFor (request : QueryRequest) : Except Rejection Dataset :=
  match request.dataset with
  | some records => .ok records
  | none =>
    (lab.store.getNamed (request.source.getD defaultSource.name)).mapError .unknownSource

def answer (request : QueryRequest) : Except (Halt Rejection) Query.Answer := do
  checkQuery request.query
  let dialect ← readDialect request.dialect
  let records ← lab.recordsFor request
  (Query.run dialect request.query records).mapError (.map .query)

/-- Grades a query for the exercise of a dialect at an index. -/
def grade (dialect : String) (index : Nat) (query : String) : Except (Halt Rejection) Graded := do
  checkQuery query
  let dialect ← readDialect dialect
  let exercise ← (lab.curriculum.exercise dialect index).mapError fun e => .failed (.curriculum e)
  let answer ← (Query.run dialect query (lab.store.get exercise.source)).mapError (.map .query)
  pure ⟨exercise.check.passes answer.results, answer.results⟩

def summary (index : Nat) (lesson : Lesson) : Json :=
  .object ([("index", .int index), ("kind", .string lesson.kind.tag),
    ("title", .string lesson.title)] ++
    Json.ifSome "data_source" (lesson.source.map fun s => .string s.name))

def listLessons (dialect : String) : Except Rejection Json := do
  let dialect ← readDialect dialect
  let lessons := (lab.curriculum.lessons dialect).zipIdx.map fun (lesson, i) => summary i lesson
  pure (.object [("dialect", .string dialect.tag), ("lessons", .array lessons)])

def showLesson (dialect : String) (index : Nat) : Except Rejection Json := do
  let dialect ← readDialect dialect
  let lesson ← (lab.curriculum.lesson dialect index).mapError .curriculum
  pure (.object ([("dialect", .string dialect.tag), ("index", .int index),
    ("total", .int (lab.curriculum.length dialect))] ++ lesson.fields))

end Lab

end LogLab
