import LogLab.Entries
import LogLab.Number.Binary64

/-! # JSON values

A JSON value keeps the order of object fields and keeps integers apart from floating numbers. A
value read from a text may hold a field name twice; `collapse` leaves each name once.
-/

namespace LogLab

/-- A JSON value. Integers are those from `-2 ^ 63` to below `2 ^ 64`; floats are finite. -/
inductive Json where
  | null
  | bool (b : Bool)
  | int (n : Int)
  | float (x : Float)
  | string (s : String)
  | array (items : List Json)
  | object (fields : List (String × Json))
  deriving Inhabited, Repr

namespace Json

def isNull : Json → Bool
  | null => true
  | _ => false

def isNumber : Json → Bool
  | int _ | float _ => true
  | _ => false

mutual

/-- Leaves every field name once, with the last value at the first place. -/
def collapse : Json → Json
  | array items => array (collapseItems items)
  | object fields => object (Entries.insertAll [] (collapseFields fields))
  | v => v

@[inherit_doc collapse]
def collapseItems : List Json → List Json
  | [] => []
  | v :: vs => collapse v :: collapseItems vs

@[inherit_doc collapse]
def collapseFields : List (String × Json) → List (String × Json)
  | [] => []
  | (k, v) :: fs => (k, collapse v) :: collapseFields fs

end

mutual

/-- Equality of values: numbers by value within their kind, objects up to the order of fields. -/
def same : Json → Json → Bool
  | null, null => true
  | bool a, bool b => a == b
  | int m, int n => m == n
  | float x, float y => Binary64.rank x == Binary64.rank y
  | string s, string t => s == t
  | array xs, array ys => sameItems xs ys
  | object fs, object gs => fs.length == gs.length && sameFields fs gs
  | _, _ => false

@[inherit_doc same]
def sameItems : List Json → List Json → Bool
  | [], [] => true
  | x :: xs, y :: ys => same x y && sameItems xs ys
  | _, _ => false

/-- Whether every field of the first list stands in the second with the same value. -/
def sameFields : List (String × Json) → List (String × Json) → Bool
  | [], _ => true
  | (k, v) :: fs, gs =>
    (match gs.lookup k with
      | some w => same v w
      | none => false) && sameFields fs gs

end

end Json

end LogLab
