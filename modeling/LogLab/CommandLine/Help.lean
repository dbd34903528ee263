import LogLab.CommandLine.Arguments

/-! # Help

What is printed about the program and its commands. Names stand in a column that is as wide as the
longest of them.
-/

namespace LogLab.CommandLine

structure HelpEntry where
  name : String
  purpose : String
  deriving Repr

def OptionSpec.longText (o : OptionSpec) : String :=
  "--" ++ o.long ++ match o.value with
    | some value => " <" ++ value ++ ">"
    | none => ""

namespace Topic

def about : Topic → String
  | program => "SIEM Query Lab - practice SQL, SPL, KQL and Sigma against security logs"
  | run => "Run one query and print its results"
  | lessons => "List the lessons of a dialect"
  | practice => "Work through lessons interactively"
  | help => "Print this message or the help of the given subcommand(s)"

def usage : Topic → String
  | program => "siemlab [OPTIONS] <COMMAND>"
  | run => "siemlab run [OPTIONS] --dialect <DIALECT> <QUERY>"
  | lessons => "siemlab lessons [OPTIONS] --dialect <DIALECT>"
  | practice => "siemlab practice [OPTIONS] --dialect <DIALECT>"
  | help => "siemlab help [COMMAND]..."

/-- What stands behind the purpose of an option: where its value comes from if it is not given. -/
def note (environment : Option String) (o : OptionSpec) : String :=
  if o.long = "data-dir" then " [env: SIEMLAB_DATA_DIR=" ++ environment.getD "" ++ "]"
  else if o.long = "source" then " [default: auth_logs]"
  else if o.long = "lesson" then " [default: 1]"
  else ""

def optionEntry (environment : Option String) (o : OptionSpec) : HelpEntry :=
  let start := match o.short with
    | some c => String.ofList ['-', c, ',', ' ']
    | none => "    "
  ⟨start ++ o.longText, o.purpose ++ note environment o⟩

def sections (environment : Option String) (topic : Topic) : List (String × List HelpEntry) :=
  let options := ("Options", topic.options.map (optionEntry environment))
  match topic with
  | program => [("Commands", commands.map fun c => ⟨c.name, c.about⟩), options]
  | run => [("Arguments", [⟨"<QUERY>", "Query text, or - to read it from stdin"⟩]), options]
  | lessons | practice => [options]
  | help => [("Arguments", [⟨"[COMMAND]...", "Print help for the subcommand(s)"⟩])]

end Topic

def blanks (n : Nat) : String :=
  String.ofList (List.replicate n ' ')

/-- A text whose lines after the first one are indented. -/
def indentLines (n : Nat) (s : String) : String :=
  ("\n" ++ blanks n).intercalate ((Text.cutAt (· == '\n') s.toList).map String.ofList)

def entryLines (entries : List HelpEntry) : String :=
  let width := (entries.map fun e => e.name.length).foldl max 0
  String.join (entries.map fun e =>
    "  " ++ e.name ++ blanks (width - e.name.length + 2) ++ indentLines (width + 4) e.purpose ++
      "\n")

def help (environment : Option String) (topic : Topic) : String :=
  topic.about ++ "\n\nUsage: " ++ topic.usage ++ "\n" ++
    String.join ((topic.sections environment).map fun s =>
      "\n" ++ s.1 ++ ":\n" ++ entryLines s.2)

end LogLab.CommandLine
