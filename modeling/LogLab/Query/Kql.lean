import LogLab.Query.Split

/-! # Table pipelines

A query is a table name, which does not matter, and a list of commands between bars, each compiled
to one operation. Unknown commands, and commands whose arguments cannot be understood, are left
out.
-/

namespace LogLab.Query.Kql

open Scan

def commands : List String := ["where", "summarize", "project", "take", "sort"]

/-- Whether a segment is a name that is not a command word. -/
def isTableName (segment : List Char) : Bool :=
  match whole? name (Text.trim segment) with
  | some word => !commands.any fun command => Text.eqIgnoringCase command.toList word
  | none => false

/-- The single predicate of a filter; what follows it is ignored. -/
def filter? (args : List Char) : Except Crash (Option Operation) := do
  let found ← predicate.first? (Text.trim args)
  pure (found.map fun p => .filter ⟨[p]⟩)

/-- A name and an equals sign in front of what is named. -/
def assignment : Scan (List Char) := do
  let label ← name
  gaps
  char '='
  gaps
  pure label

/-- The call that counts rows, with a name for the result. -/
def countCall? (item : List Char) : Option Aggregate :=
  match maybe assignment (Text.trim item) with
  | some (label, call) =>
    if Text.eqIgnoringCase (call.filter fun c => !Text.isBlank c) "count()".toList then
      some (.countRows (label.map String.ofList))
    else none
  | none => none

/-- The pieces between commas that are not blank. -/
def listItems (s : List Char) : List (List Char) :=
  (splitTopLevel ',' s).filter fun item => !(Text.trim item).isEmpty

/-- Counting by a field: the computed columns, the word `by`, and the field. Columns other than
counts are passed over. -/
def summarize? (args : List Char) : Option Operation :=
  match splitPhrase ["by"] args with
  | aggregates :: group :: _ =>
    (first? name (Text.trim group)).map fun field =>
      .group ⟨some (String.ofList field), (listItems aggregates).filterMap countCall?⟩
  | _ => none

def renamed : Scan Projection := do
  let label ← assignment
  let field ← name
  pure ⟨String.ofList field, some (String.ofList label)⟩

/-- A column of a projection; a text of any other form is taken as a field name. -/
def readColumn (item : List Char) : Projection :=
  (whole? renamed (Text.trim item)).getD ⟨String.ofList (Text.trim item), none⟩

/-- The columns of a projection, at least one. -/
def project? (args : List Char) : Option Operation :=
  if (listItems args).isEmpty then none
  else some (.project ((listItems args).map readColumn))

def sort? (args : List Char) : Option Operation :=
  match keyword "by" args with
  | some (_, key) => (sortKey? key .asc).map .sort
  | none => none

def operation? (word args : List Char) : Except Crash (Option Operation) :=
  if word = "where".toList then filter? args
  else if word = "summarize".toList then .ok (summarize? args)
  else if word = "project".toList then .ok (project? args)
  else if word = "take".toList then .ok ((count? args).map fun n => .limit ⟨n, .head⟩)
  else if word = "sort".toList then .ok (sort? args)
  else .ok none

def readSegment? (segment : List Char) : Except Crash (Option Operation) :=
  operation? (command segment).1 (command segment).2

/-- The segments without a table name at the start. -/
def dropTable (segments : List (List Char)) : List (List Char) :=
  match segments with
  | [] => []
  | s :: rest => if isTableName s then rest else s :: rest

def compile (query : List Char) : Except Crash Pipeline :=
  ((dropTable (splitPipeline query)).filterMapM readSegment?).map .mk

end LogLab.Query.Kql
