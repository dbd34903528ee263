import LogLab.Json.Basic

/-! # Records

A record is one row of a log: named values in order, each name once. The order is the order of the
columns. A `null` counts as an absent field wherever a field is looked up by `field?`.
-/

namespace LogLab

/-- One row: values under names, no name twice. -/
structure Record where
  entries : Entries Json
  nodup : entries.keys.Nodup
  deriving Repr

abbrev Dataset := List Record

namespace Record

def empty : Record := ⟨[], by simp [Entries.keys]⟩

instance : Inhabited Record := ⟨empty⟩

def keys (r : Record) : List String :=
  r.entries.keys

/-- The value under a name, `null` included. -/
def get? (r : Record) (name : String) : Option Json :=
  r.entries.lookup name

/-- The value under a name, where a `null` counts as nothing. -/
def field? (r : Record) (name : String) : Option Json :=
  (r.get? name).filter fun v => !v.isNull

def contains (r : Record) (name : String) : Bool :=
  (r.get? name).isSome

/-- Puts a value under a name: in place of the old value, or as the last column. -/
def insert (r : Record) (name : String) (value : Json) : Record :=
  ⟨r.entries.insert name value, Entries.nodup_keys_insert r.nodup⟩

/-- Fields in order; of two values under one name the later one, at the place of the first. -/
def ofList (pairs : List (String × Json)) : Record :=
  pairs.foldl (fun r pair => r.insert pair.1 pair.2) empty

def toJson (r : Record) : Json :=
  .object r.entries

def ofJson? : Json → Option Record
  | .object fields => some (ofList fields)
  | _ => none

end Record

namespace Dataset

def toJson (data : Dataset) : Json :=
  .array (data.map Record.toJson)

def ofJson? : Json → Option Dataset
  | .array items => items.mapM Record.ofJson?
  | _ => none

/-- The column names of the first row. -/
def columns (data : Dataset) : List String :=
  match data with
  | [] => []
  | r :: _ => r.keys

end Dataset

end LogLab
