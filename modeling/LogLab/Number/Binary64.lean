/-! # Double precision numbers

A double is read through its sixty-four bits: a sign, and a magnitude whose order is the order of
the absolute values. Everything here is about finite doubles; comparing, taking the integer value
and printing use integers only.
-/

namespace LogLab.Binary64

def signBit : Nat := 0x8000000000000000

/-- The weight of the lowest bit of the exponent, which is also the bit in front of the fraction of
a double that is not very small. -/
def exponentBit : Nat := 0x10000000000000

def isNegative (x : Float) : Bool :=
  decide (signBit ≤ x.toBits.toNat)

/-- The bits below the sign, which grow with the absolute value. -/
def magnitude (x : Float) : Nat :=
  x.toBits.toNat % signBit

/-- The infinities and the values that are not numbers have all exponent bits set. -/
def isFinite (x : Float) : Bool :=
  decide (magnitude x < 2047 * exponentBit)

/-- The absolute value of a finite double is `significand * 2 ^ exponent`. -/
def significand (x : Float) : Nat :=
  if magnitude x < exponentBit then magnitude x else exponentBit + magnitude x % exponentBit

@[inherit_doc significand]
def exponent (x : Float) : Int :=
  if magnitude x < exponentBit then -1074 else (magnitude x / exponentBit : Nat) - 1075

/-- The place of a finite double in numeric order; the two zeros share one. -/
def rank (x : Float) : Int :=
  if isNegative x then -(magnitude x : Int) else magnitude x

/-- The place of a double in the order that puts the negative zero just before the positive one. -/
def totalRank (x : Float) : Int :=
  if isNegative x then -(magnitude x : Int) - 1 else magnitude x

def toInt? (x : Float) : Option Int :=
  let sign : Int := if isNegative x then -1 else 1
  match exponent x with
  | .ofNat q => some (sign * (significand x * Nat.pow 2 q : Nat))
  | .negSucc q =>
    let unit := Nat.pow 2 (q + 1)
    if significand x % unit = 0 then some (sign * (significand x / unit : Nat)) else none

def min (x y : Float) : Float :=
  if rank y < rank x then y else x

def max (x y : Float) : Float :=
  if rank x < rank y then y else x

end LogLab.Binary64
