import LogLab.Number.Binary64

/-! # Decimal numerals

A numeral is an optional sign, digits with an optional point, and an optional power of ten. It is
read exactly and then rounded to the nearest double, ties to even.
-/

namespace LogLab

/-- The number `± digits * 10 ^ scale`. -/
structure Numeral where
  negative : Bool
  digits : Nat
  scale : Int
  deriving DecidableEq, Repr

namespace Numeral

def isDigit (c : Char) : Bool :=
  '0' ≤ c && c ≤ '9'

def digitsValue (ds : List Char) : Nat :=
  ds.foldl (fun n c => n * 10 + (c.toNat - '0'.toNat)) 0

/-- The number below a bound that digits with an optional plus write. -/
def natural? (bound : Nat) (s : List Char) : Option Nat :=
  let digits := if s.head? = some '+' then s.tail else s
  if digits.isEmpty || !digits.all isDigit then none
  else if digitsValue digits < bound then some (digitsValue digits)
  else none

/-- An optional sign: whether it is a minus, and what follows. -/
def readSign : List Char → Bool × List Char
  | '-' :: cs => (true, cs)
  | '+' :: cs => (false, cs)
  | cs => (false, cs)

/-- The digits after a point, if there is a point. -/
def readFraction : List Char → List Char × List Char
  | '.' :: cs => (cs.takeWhile isDigit, cs.dropWhile isDigit)
  | cs => ([], cs)

/-- The power of ten at the end of a numeral; nothing may follow it. -/
def readPower : List Char → Option Int
  | [] => some 0
  | c :: cs =>
    if c = 'e' ∨ c = 'E' then
      let (negative, ds) := readSign cs
      if ds.isEmpty || !ds.all isDigit then none
      else some (if negative then -(digitsValue ds : Int) else digitsValue ds)
    else none

/-- Reads a numeral that takes up the whole text. At least one digit stands before or after the
point. -/
def read? (text : List Char) : Option Numeral :=
  let (negative, cs) := readSign text
  let whole := cs.takeWhile isDigit
  let (fraction, rest) := readFraction (cs.dropWhile isDigit)
  if whole.isEmpty && fraction.isEmpty then none
  else (readPower rest).map fun power =>
    ⟨negative, digitsValue (whole ++ fraction), power - fraction.length⟩

def toFloat (n : Numeral) : Float :=
  let x := Float.ofScientific n.digits (n.scale < 0) n.scale.natAbs
  if n.negative then -x else x

def toFinite? (n : Numeral) : Option Float :=
  if Binary64.isFinite n.toFloat then some n.toFloat else none

end Numeral

end LogLab
