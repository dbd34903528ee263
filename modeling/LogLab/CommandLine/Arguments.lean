import LogLab.Dialect
import LogLab.Number.Decimal
import LogLab.Source

/-! # Command line arguments

The commands and their options. Arguments are read from left to right; the first one that is wrong,
or that asks for help, ends the reading.
-/

namespace LogLab.CommandLine

/-- An option: its names, the name of its value if it takes one, and what it is for. -/
structure OptionSpec where
  long : String
  short : Option Char := none
  value : Option String := none
  purpose : String
  deriving Repr

inductive Topic where
  | program
  | run
  | lessons
  | practice
  | help
  deriving DecidableEq, Repr, Inhabited

inductive Command where
  | run (dialect : Dialect) (source : Source) (data : Option String) (json : Bool) (query : String)
  | lessons (dialect : Dialect)
  | practice (dialect : Dialect) (lesson : Nat)
  deriving DecidableEq, Repr, Inhabited

/-- Why the reading of arguments ends early. -/
inductive Stop where
  | wrong
  | help (topic : Topic)
  | version
  deriving DecidableEq, Repr, Inhabited

/-- A command, and the directory with the data, if it is not the samples. -/
structure Invocation where
  dataDir : Option String
  command : Command
  deriving DecidableEq, Repr, Inhabited

def helpOption : OptionSpec := { long := "help", short := some 'h', purpose := "Print help" }

def versionOption : OptionSpec :=
  { long := "version", short := some 'V', purpose := "Print version" }

def dataDirOption : OptionSpec :=
  { long := "data-dir", value := some "DATA_DIR",
    purpose := "Directory holding <source>.json datasets (default: bundled samples)" }

def dialectOption : OptionSpec :=
  { long := "dialect", short := some 'd', value := some "DIALECT",
    purpose := "Query dialect: sql, spl, kql or sigma" }

def sourceOption : OptionSpec :=
  { long := "source", short := some 's', value := some "SOURCE",
    purpose := "Named data source to query" }

def dataOption : OptionSpec :=
  { long := "data", value := some "DATA",
    purpose := "JSON file holding an array of records to query instead" }

def jsonOption : OptionSpec := { long := "json", purpose := "Print results as JSON" }

def lessonOption : OptionSpec :=
  { long := "lesson", short := some 'l', value := some "LESSON",
    purpose := "Lesson number to start at (1-based)" }

namespace Topic

def commands : List Topic := [run, lessons, practice, help]

def name : Topic → String
  | program => "siemlab"
  | run => "run"
  | lessons => "lessons"
  | practice => "practice"
  | help => "help"

def ofName? (s : String) : Option Topic :=
  commands.find? (·.name == s)

def options : Topic → List OptionSpec
  | program => [dataDirOption, helpOption, versionOption]
  | run => [dialectOption, dataDirOption, sourceOption, dataOption, jsonOption, helpOption]
  | lessons => [dialectOption, dataDirOption, helpOption]
  | practice => [dialectOption, dataDirOption, lessonOption, helpOption]
  | help => []

end Topic

/-- What an argument is: an option with its value, an option that still needs one, the end of the
options, or anything else. -/
inductive Argument where
  | option (name : String) (value : Option String)
  | awaiting (name : String)
  | endOfOptions
  | operand
  | invalid
  deriving DecidableEq, Repr

/-- An argument with its value, as it is taken up by a command. The value of an option is apart if
it is an argument of its own. -/
inductive Item where
  | option (name : String) (value : Option String) (isApart : Bool)
  | operand (text : String)
  | endOfOptions
  | invalid
  deriving DecidableEq, Repr

/-- Whether an argument cannot be the value of an option in front of it. -/
def isOptionLike (arg : String) : Bool :=
  arg.startsWith "-" && arg != "-"

def Argument.ofOption (spec : OptionSpec) (attached : Option String) : Argument :=
  match spec.value, attached with
  | some _, some value => option spec.long (some value)
  | some _, none => awaiting spec.long
  | none, some _ => invalid
  | none, none => option spec.long none

def Argument.ofLong (options : List OptionSpec) (s : List Char) : Argument :=
  let name := String.ofList (s.takeWhile (· != '='))
  let attached := match s.dropWhile (· != '=') with
    | '=' :: value => some (String.ofList value)
    | _ => none
  match options.find? (·.long == name) with
  | some spec => .ofOption spec attached
  | none => .invalid

/-- A short option, after its dash; a value may follow at once or after an equals sign. What
follows an option without a value does not matter, because such an option ends the reading. -/
def Argument.ofShort (options : List OptionSpec) (c : Char) (rest : List Char) : Argument :=
  match options.find? (·.short == some c) with
  | none => .invalid
  | some spec =>
    if spec.value.isNone then .option spec.long none
    else match rest with
      | [] => .awaiting spec.long
      | '=' :: value => .option spec.long (some (String.ofList value))
      | value => .option spec.long (some (String.ofList value))

def Argument.read (options : List OptionSpec) (arg : String) : Argument :=
  match arg.toList with
  | ['-', '-'] => .endOfOptions
  | '-' :: '-' :: name => .ofLong options name
  | '-' :: c :: rest => .ofShort options c rest
  | _ => .operand

/-- Arguments as operands, each with those after it. -/
def operands : List String → List (Item × List String)
  | [] => []
  | arg :: rest => (.operand arg, rest) :: operands rest

def items (options : List OptionSpec) : List String → List (Item × List String)
  | [] => []
  | arg :: rest =>
    match Argument.read options arg with
    | .option name value => (.option name value false, rest) :: items options rest
    | .awaiting name =>
      match rest with
      | value :: rest' =>
        if isOptionLike value then [(.invalid, rest)]
        else (.option name (some value) true, rest') :: items options rest'
      | [] => [(.invalid, [])]
    | .endOfOptions => (.endOfOptions, rest) :: operands rest
    | .operand => (.operand arg, rest) :: items options rest
    | .invalid => [(.invalid, rest)]

structure Draft where
  dialect : Option Dialect := none
  source : Option Source := none
  data : Option String := none
  json : Bool := false
  lesson : Option Nat := none
  dataDir : Option String := none
  operand : Option String := none
  deriving Repr, Inhabited

/-- A setting that is read from a text and may not be given twice. -/
def once {α : Type} (old : Option α) (read : String → Option α) (value : Option String) :
    Except Stop (Option α) :=
  match old, value.bind read with
  | none, some a => .ok (some a)
  | _, _ => .error .wrong

def path? (s : String) : Option String :=
  if s.isEmpty then none else some s

/-- The number of a lesson, from one on. -/
def lessonNumber? (s : String) : Option Nat :=
  (Numeral.natural? UInt16.size s.toList).filter (0 < ·)

namespace Draft

def takeOption (d : Draft) (topic : Topic) (name : String) (value : Option String) :
    Except Stop Draft :=
  match name with
  | "help" => .error (.help topic)
  | "version" => .error .version
  | "dialect" => do pure { d with dialect := ← once d.dialect Dialect.parse? value }
  | "source" => do pure { d with source := ← once d.source Source.parse? value }
  | "data" => do pure { d with data := ← once d.data path? value }
  | "json" => if d.json then .error .wrong else .ok { d with json := true }
  | "lesson" => do pure { d with lesson := ← once d.lesson lessonNumber? value }
  | "data-dir" => do pure { d with dataDir := ← once d.dataDir path? value }
  | _ => .error .wrong

/-- Takes up an item of a command; only the command that runs a query has an operand. -/
def take (topic : Topic) (d : Draft) (item : Item) : Except Stop Draft :=
  match item with
  | .option name value _ => d.takeOption topic name value
  | .operand text =>
    if topic = .run && d.operand.isNone then .ok { d with operand := some text }
    else .error .wrong
  | .endOfOptions => .ok d
  | .invalid => .error .wrong

/-- A command from its settings. A file with records excludes a source. -/
def command? (d : Draft) : Topic → Option Command
  | .run => do
    let dialect ← d.dialect
    let query ← d.operand
    if d.source.isSome && d.data.isSome then none
    else pure (.run dialect (d.source.getD .authLogs) d.data d.json query)
  | .lessons => d.dialect.map .lessons
  | .practice => d.dialect.map fun dialect => .practice dialect (d.lesson.getD 1)
  | .program | .help => none

end Draft

/-- The directory with the data: given after the command, before it, or by the environment. A name
from the environment that is empty is wrong where it would count. -/
def chooseDataDir (environment before after : Option String) : Except Stop (Option String) :=
  if environment = some "" && (before.isNone || after.isNone) then .error .wrong
  else .ok (after <|> before <|> environment)

def helpTopic (names : List String) : Except Stop Invocation :=
  match names with
  | [] => .error (.help .program)
  | [name] =>
    match Topic.ofName? name with
    | some topic => .error (.help topic)
    | none => .error .wrong
  | _ => .error .wrong

def readCommand (environment before : Option String) (name : String) (args : List String) :
    Except Stop Invocation :=
  match Topic.ofName? name with
  | none => .error .wrong
  | some .help => helpTopic args
  | some topic => do
    let d ← ((items topic.options args).map Prod.fst).foldlM (Draft.take topic) {}
    match d.command? topic with
    | none => .error .wrong
    | some command =>
      let dataDir ← chooseDataDir environment before d.dataDir
      pure ⟨dataDir, command⟩

/-- Reads the items in front of the name of a command into a draft. A value that is apart is looked
at when the next option follows or else after the command, so help on the command comes first. -/
def readItems (environment : Option String) (d : Except Stop Draft) :
    List (Item × List String) → Except Stop Invocation
  | [] | (.endOfOptions, _) :: _ | (.invalid, _) :: _ => .error .wrong
  | (.operand name, rest) :: _ => do
    let invocation ← readCommand environment (d.toOption.bind Draft.dataDir) name rest
    let _ ← d
    pure invocation
  | (.option name value isApart, _) :: more => do
    let taken := (← d).takeOption .program name value
    if isApart then readItems environment taken more
    else readItems environment (.ok (← taken)) more

/-- Reads all arguments; `environment` is a directory with the data that is used if they give
none. -/
def parse (environment : Option String) (args : List String) : Except Stop Invocation :=
  readItems environment (.ok {}) (items Topic.program.options args)

end LogLab.CommandLine
