import LogLab.Pipeline.Basic
import LogLab.Yaml.Node

/-! # Detection rules

A rule is a YAML document with a selection: entries that all have to hold of a record. An entry
names a field and how its value is matched. Only the selection counts; the condition is kept as
text.
-/

namespace LogLab.Query.Sigma

open Yaml (Node)

/-- How the value of an entry is matched with the text of a field. -/
inductive Modifier where
  | contains
  | startsWith
  | endsWith
  deriving DecidableEq, Repr, Inhabited

structure Entry where
  field : String
  modifier : Modifier
  value : String
  deriving DecidableEq, Repr, Inhabited

/-- The parts of a rule that are read. -/
structure Rule where
  title : Option String
  selection : List Entry
  condition : Option String
  deriving DecidableEq, Repr, Inhabited

namespace Modifier

def tag : Modifier → String
  | contains => "contains"
  | startsWith => "startswith"
  | endsWith => "endswith"

/-- The modifier that a word names, in any letter case. Any other word means `contains`. -/
def ofWord (word : List Char) : Modifier :=
  if Text.asciiLower word = "startswith".toList then startsWith
  else if Text.asciiLower word = "endswith".toList then endsWith
  else contains

end Modifier

namespace Entry

def toPredicate (e : Entry) : Predicate :=
  match e.modifier with
  | .contains => ⟨e.field, .contains, e.value⟩
  | .startsWith => ⟨e.field, .like, e.value ++ "%"⟩
  | .endsWith => ⟨e.field, .like, "%" ++ e.value⟩

/-- The field and the modifier of a key, which bars separate. Further modifiers are ignored. -/
def readKey? (key : List Char) : Option (String × Modifier) :=
  match Text.cutAt (· == '|') key with
  | [] => none
  | field :: words =>
    if field.isEmpty then none
    else some (String.ofList field, (words.head?.map Modifier.ofWord).getD .contains)

/-- The text of a key, with or without a tag. -/
def keyText? (key : Node) : Option (List Char) :=
  match key.untagged with
  | .string s => some s
  | _ => none

/-- The entry of a selection, if its key is a string and its value a scalar. -/
def ofNode? (key value : Node) : Option Entry := do
  let (field, modifier) ← readKey? (← keyText? key)
  pure ⟨field, modifier, String.ofList (← value.text?)⟩

end Entry

namespace Rule

/-- The filter that the rule stands for; an empty selection keeps every record. -/
def toPipeline (r : Rule) : Pipeline :=
  ⟨[.filter ⟨r.selection.map Entry.toPredicate⟩]⟩

/-- The entries of a selection, which is a mapping or empty. -/
def readSelection? : Node → Option (List Entry)
  | .mapping entries => some (entries.filterMap fun e => Entry.ofNode? e.1 e.2)
  | .null => some []
  | _ => none

def partText? (v : Node) (key : String) : Option String :=
  ((v.get? key.toList).bind Node.text?).map String.ofList

/-- The rule that a document holds, if there is a selection in its detection. -/
def ofNode? (document : Node) : Option Rule := do
  let detection ← document.get? "detection".toList
  let selection ← readSelection? (← detection.get? "selection".toList)
  pure ⟨partText? document "title", selection, partText? detection "condition"⟩

def parse? (s : List Char) : Option Rule :=
  (Node.parse? s).bind ofNode?

end Rule

end LogLab.Query.Sigma
