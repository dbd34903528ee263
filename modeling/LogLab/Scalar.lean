import LogLab.Json.Printer
import LogLab.Number.Decimal
import LogLab.Text.Blank

/-! # Field values as text and as numbers

Every field value has a text, and some have a number: the numbers themselves and the strings that
hold a finite numeral. Values are ordered numbers first, then by text, absent values last.
-/

namespace LogLab.Json

/-- The text of a value: a string as it is, anything else as JSON. -/
def text : Json → String
  | string s => s
  | v => render v

/-- The number of a numeral with blanks around it, if it is finite. -/
def numberOfText? (s : String) : Option Float :=
  (Numeral.read? (Text.trim s.toList)).bind Numeral.toFinite?

/-- The number that a value is, or that its string holds. -/
def number? : Json → Option Float
  | int n => some (Float.ofInt n)
  | float x => some x
  | string s => numberOfText? s
  | _ => none

/-- Whole numbers below this bound are emitted as integers. -/
def integerBound : Nat := 9000000000000000

/-- A computed number as a value: an integer if it is a whole number below the bound, `null` if it
is not finite. -/
def ofNumber (x : Float) : Json :=
  if Binary64.isFinite x then
    match Binary64.toInt? x with
    | some n => if n.natAbs < integerBound then int n else float x
    | none => float x
  else null

/-- The order of two present values: numbers by value before everything else, and everything else
by text. -/
def comparePresent (a b : Json) : Ordering :=
  match a.number?, b.number? with
  | some x, some y => compare (Binary64.totalRank x) (Binary64.totalRank y)
  | some _, none => .lt
  | none, some _ => .gt
  | none, none => compare a.text b.text

/-- The order of two field values, absent ones last. -/
def compareFields : Option Json → Option Json → Ordering
  | none, none => .eq
  | none, some _ => .gt
  | some _, none => .lt
  | some a, some b => comparePresent a b

end LogLab.Json
