import LogLab.Json.Basic

/-! # Taking values apart

A structure is written as an object with a field for each of its parts, or as an array of its
parts in order. Unknown fields are ignored, and a known field may not stand twice. A part that is
a choice between names is written as the name, or as an object with a field of that name that holds
nothing. A value may be set aside until something after it tells what it describes; there an empty
object holds nothing, and elsewhere only `null` does.
-/

namespace LogLab.Json

def repeats (names : List String) (fields : List (String × Json)) : Bool :=
  names.any fun name => decide (1 < (fields.filter fun f => f.1 == name).length)

/-- The parts of a structure by name; a part that is not written is none. -/
def parts? (names : List String) : Json → Option (String → Option Json)
  | object fields => if repeats names fields then none else some fun name => fields.lookup name
  | array items =>
    if items.length ≤ names.length then some fun name => (names.zip items).lookup name else none
  | _ => none

/-- The name that stands for a choice, in a value that was set aside or not. -/
def symbol? (setAside : Bool) : Json → Option String
  | string s => some s
  | object [(s, null)] => some s
  | object [(s, object [])] => if setAside then some s else none
  | _ => none

/-- Whether the first field with one name stands in front of the first one with another. -/
def isBefore (first second : String) : Json → Bool
  | object fields =>
    (fields.map Prod.fst).find? (fun name => name == first || name == second) == some first
  | _ => false

def isArray : Json → Bool
  | array _ => true
  | _ => false

def string? : Json → Option String
  | string s => some s
  | _ => none

def count? : Json → Option UInt64
  | int (.ofNat n) => if n < UInt64.size then some (UInt64.ofNat n) else none
  | _ => none

def list? {α : Type} (decode : Json → Option α) : Json → Option (List α)
  | array items => items.mapM decode
  | _ => none

/-- A part that may be missing or `null`. -/
def optional? {α : Type} (decode : Json → Option α) : Option Json → Option (Option α)
  | none | some null => some none
  | some v => (decode v).map some

/-- A part that may be missing but not `null`. -/
def withDefault? {α : Type} (default : α) (decode : Json → Option α) : Option Json → Option α
  | none => some default
  | some v => decode v

def ofCount (n : UInt64) : Json :=
  int n.toNat

/-- A field that is written only if there is something to write. -/
def ifSome (name : String) : Option Json → List (String × Json)
  | some v => [(name, v)]
  | none => []

end LogLab.Json
