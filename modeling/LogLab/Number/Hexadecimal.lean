/-! # Hexadecimal digits

Digits in base sixteen, read in either letter case and written in lower case.
-/

namespace LogLab.Hexadecimal

def value? (c : Char) : Option Nat :=
  if '0' ≤ c ∧ c ≤ '9' then some (c.toNat - '0'.toNat)
  else if 'a' ≤ c ∧ c ≤ 'f' then some (c.toNat - 'a'.toNat + 10)
  else if 'A' ≤ c ∧ c ≤ 'F' then some (c.toNat - 'A'.toNat + 10)
  else none

def isDigit (c : Char) : Bool :=
  (value? c).isSome

def digit (n : Nat) : Char :=
  Nat.digitChar n

def numberOf? (digits : List Char) : Option Nat :=
  (digits.mapM value?).map fun values => values.foldl (fun n d => n * 16 + d) 0

end LogLab.Hexadecimal
