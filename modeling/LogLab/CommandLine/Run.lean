import LogLab.CommandLine.Help
import LogLab.Lessons.Builtin
import LogLab.Practice

/-! # Running commands

What a command prints, and how it ends: well, with an error, with a crash, or because its arguments
are wrong.
-/

namespace LogLab.CommandLine

inductive Failure where
  | noQuery
  | unreadable (path : String)
  | notJson (path : String)
  | notRecords (path : String)
  | query (e : QueryError)
  | lesson (e : LessonOutOfRange)
  | curriculum (e : CurriculumError)
  deriving DecidableEq, Repr

def Failure.message : Failure → String
  | noQuery => "No query on stdin"
  | unreadable path => "Failed to read " ++ path
  | notJson path => path ++ " is not valid JSON"
  | notRecords path => path ++ " must hold an array of objects"
  | query e => e.message
  | lesson e => e.message
  | curriculum e => e.message

/-- How a run of the program ends, and what it has printed. -/
inductive Ending where
  | done (output : String)
  | failed (output : String) (why : Failure)
  | crashed (output : String)
  | misused
  deriving DecidableEq, Repr

def Ending.exitCode : Ending → Nat
  | done _ => 0
  | failed .. => 1
  | misused => 2
  | crashed _ => 101

def Ending.output : Ending → String
  | done output | failed output _ | crashed output => output
  | misused => ""

/-- The ending of a run that printed a text and came to this result. -/
def Ending.ofResult (output : String) : Except (Halt Failure) Unit → Ending
  | .ok _ => done output
  | .error (.failed why) => failed output why
  | .error (.crashed _) => crashed output

/-- What a command can see: the input, and the texts of files by their paths. -/
structure Surroundings where
  input : String
  read : String → Option String

def versionText : String := "siemlab 0.1.0\n"

def pathIn (directory name : String) : String :=
  if directory.endsWith "/" then directory ++ name else directory ++ "/" ++ name

/-- The data of a run: the samples, or what the files of a directory hold. -/
def openStore (s : Surroundings) : Option String → Store
  | some directory => Store.ofFiles fun name => s.read (pathIn directory name)
  | none => Store.samples

def Invocation.paths (i : Invocation) : List String :=
  (match i.dataDir with
    | some directory => Source.all.map fun source => pathIn directory (Store.fileName source)
    | none => []) ++
  match i.command with
  | .run _ _ (some data) _ _ => [data]
  | _ => []

/-- The query of a run; a single dash stands for the input. -/
def readQuery (s : Surroundings) (query : String) : Except Failure String :=
  if query != "-" then .ok query
  else if (Text.trim s.input.toList).isEmpty then .error .noQuery
  else .ok s.input

def loadRecords (s : Surroundings) (path : String) : Except Failure Dataset :=
  match s.read path with
  | none => .error (.unreadable path)
  | some text =>
    match Json.parse? text.toList with
    | none => .error (.notJson path)
    | some v =>
      match Dataset.ofJson? v with
      | none => .error (.notRecords path)
      | some data => .ok data

def recordsFor (s : Surroundings) (store : Store) (source : Source) (data : Option String) :
    Except Failure Dataset :=
  match data with
  | some path => loadRecords s path
  | none => .ok (store.get source)

def showResults (json : Bool) (results : Dataset) : String :=
  if json then results.toJson.renderLines 0 ++ "\n" else Practice.showResults results

def padEnd (width : Nat) (s : String) : String :=
  s ++ String.ofList (List.replicate (width - s.length) ' ')

def padStart (width : Nat) (s : String) : String :=
  String.ofList (List.replicate (width - s.length) ' ') ++ s

def lessonLine (number : Nat) (lesson : Lesson) : String :=
  padStart 3 (toString number) ++ ". " ++ padEnd 12 ("[" ++ lesson.kind.tag ++ "]") ++ " " ++
    lesson.title ++
    (match lesson.source with
      | some source => "  (" ++ source.name ++ ")"
      | none => "") ++ "\n"

def lessonList (curriculum : Curriculum) (dialect : Dialect) : String :=
  dialect.heading ++ " lessons (" ++ toString (curriculum.length dialect) ++ ")\n" ++
    String.join ((curriculum.lessons dialect).zipIdx.map fun (lesson, i) =>
      lessonLine (i + 1) lesson)

/-- The session at a lesson, which is numbered from one on. -/
def startSession (curriculum : Curriculum) (dialect : Dialect) (lesson : Nat) :
    Except Failure Session :=
  (({ dialect } : Session).selectLesson curriculum (lesson - 1)).mapError .lesson

def runQuery (s : Surroundings) (store : Store) (dialect : Dialect) (source : Source)
    (data : Option String) (json : Bool) (query : String) : Except (Halt Failure) String := do
  let query ← readQuery s query
  let records ← recordsFor s store source data
  let answer ← (Query.run dialect query records).mapError (.map .query)
  pure (showResults json answer.results)

/-- What a command prints, and what it comes to. -/
def execute (s : Surroundings) (lab : Lab) : Command → String × Except (Halt Failure) Unit
  | .run dialect source data json query =>
    match runQuery s lab.store dialect source data json query with
    | .ok output => (output, .ok ())
    | .error halt => ("", .error halt)
  | .lessons dialect => (lessonList lab.curriculum dialect, .ok ())
  | .practice dialect lesson =>
    match startSession lab.curriculum dialect lesson with
    | .error why => ("", .error (.failed why))
    | .ok session =>
      let (text, result) := Practice.run lab session s.input.toList
      (text, (result.map fun _ => ()).mapError (.map .curriculum))

def openLab (s : Surroundings) (dataDir : Option String) : Lab :=
  ⟨Lessons.builtin, openStore s dataDir⟩

/-- How a run with arguments ends; `environment` is the directory with the data that is used if the
arguments give none. -/
def run (s : Surroundings) (environment : Option String) (args : List String) : Ending :=
  match parse environment args with
  | .error .wrong => .misused
  | .error (.help topic) => .done (help environment topic)
  | .error .version => .done versionText
  | .ok invocation =>
    let (output, result) := execute s (openLab s invocation.dataDir) invocation.command
    .ofResult output result

end LogLab.CommandLine
