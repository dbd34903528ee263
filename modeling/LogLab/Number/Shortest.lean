import LogLab.Number.Binary64

/-! # Shortest decimals

A finite double is written with the fewest significant digits that read back as the same double,
and of the numbers with that many digits the one nearest to it. The search runs over one to
seventeen digits in exact integer arithmetic.
-/

namespace LogLab.Shortest

open Binary64

/-- The number `digits * 10 ^ scale`. -/
structure Decimal where
  digits : Nat
  scale : Int
  deriving DecidableEq, Repr

def length (n : Nat) : Nat :=
  (Nat.toDigits 10 n).length

/-- The least `p` with `significand * 2 ^ exponent < 10 ^ p`. -/
def pointPlace (m : Nat) (q : Int) : Int :=
  let num := m * Nat.pow 2 q.toNat
  let den := Nat.pow 2 (-q).toNat
  if den ≤ num then length (num / den) else 1 - (length ((den - 1) / num) : Int)

/-- The distance in quarter units between a double and the lower end of what rounds to it: half a
unit, or a quarter where the next smaller double is closer. -/
def lowerGap (m : Nat) (q : Int) : Nat :=
  if m = exponentBit ∧ -1074 < q then 1 else 2

/-- Compares `c * 10 ^ t` with `x * 2 ^ (q - 2)`. -/
def compareScaled (c : Nat) (t : Int) (x : Nat) (q : Int) : Ordering :=
  compare (c * Nat.pow 10 t.toNat * Nat.pow 2 (2 - q).toNat)
    (x * Nat.pow 10 (-t).toNat * Nat.pow 2 (q - 2).toNat)

/-- Whether `c * 10 ^ t` rounds to the double `m * 2 ^ q`; the ends round to it if `m` is even. -/
def roundsTo (m : Nat) (q : Int) (c : Nat) (t : Int) : Bool :=
  let low := compareScaled c t (4 * m - lowerGap m q) q
  let high := compareScaled c t (4 * m + 2) q
  (low == .gt && high == .lt) || (m % 2 == 0 && (low == .eq || high == .eq))

/-- The multiple of `10 ^ t` just below `m * 2 ^ q`, in units of `10 ^ t`. -/
def floorAt (m : Nat) (q : Int) (t : Int) : Nat :=
  (m * Nat.pow 2 q.toNat * Nat.pow 10 (-t).toNat) / (Nat.pow 10 t.toNat * Nat.pow 2 (-q).toNat)

/-- The nearest of the two neighbours on the grid of multiples of `10 ^ t` that rounds to the
double, the even one of two equally near. -/
def neighbour? (m : Nat) (q : Int) (t : Int) : Option Nat :=
  let c := floorAt m q t
  match roundsTo m q c t, roundsTo m q (c + 1) t with
  | false, false => none
  | true, false => some c
  | false, true => some (c + 1)
  | true, true =>
    match compareScaled (2 * c + 1) t (8 * m) q with
    | .gt => some c
    | .lt => some (c + 1)
    | .eq => some (if c % 2 = 0 then c else c + 1)

def stripZeros (fuel : Nat) (d : Decimal) : Decimal :=
  match fuel with
  | 0 => d
  | fuel + 1 =>
    if d.digits % 10 = 0 then stripZeros fuel ⟨d.digits / 10, d.scale + 1⟩ else d

/-- The shortest decimal of `m * 2 ^ q`, for a positive `m`. -/
def ofScaled (m : Nat) (q : Int) : Decimal :=
  let p := pointPlace m q
  let found := (List.range 17).findSome? fun n =>
    let t := p - (n + 1 : Nat)
    (neighbour? m q t).map fun c => (⟨c, t⟩ : Decimal)
  stripZeros 17 (found.getD ⟨floorAt m q (p - 17), p - 17⟩)

def ofFloat (x : Float) : Decimal :=
  ofScaled (significand x) (exponent x)

/-- How an exponent is written: with a plus sign or without, where it is not negative. -/
structure Style where
  plusSign : Bool
  deriving DecidableEq, Repr

/-- The digits with the point after `10 ^ 16 > x`, zeros filled in and a zero kept after a point at
the end. -/
def positional (digits : List Char) (point : Int) : List Char :=
  let len : Int := digits.length
  if len ≤ point then digits ++ List.replicate (point - len).toNat '0' ++ ['.', '0']
  else if 0 < point then digits.take point.toNat ++ '.' :: digits.drop point.toNat
  else '0' :: '.' :: (List.replicate (-point).toNat '0' ++ digits)

def scientific (style : Style) (digits : List Char) (point : Int) : List Char :=
  let power := point - 1
  let sign := if power < 0 then ['-'] else if style.plusSign then ['+'] else []
  digits.take 1 ++ (if digits.length ≤ 1 then [] else '.' :: digits.drop 1) ++
    'e' :: (sign ++ Nat.toDigits 10 power.natAbs)

/-- The text of a finite double: positional from `10 ^ -5` to below `10 ^ 16`, else scientific. -/
def write (style : Style) (x : Float) : List Char :=
  let sign := if isNegative x then ['-'] else []
  if magnitude x = 0 then sign ++ ['0', '.', '0']
  else
    let d := ofFloat x
    let digits := Nat.toDigits 10 d.digits
    let point := digits.length + d.scale
    sign ++ if -5 < point ∧ point ≤ 16 then positional digits point
      else scientific style digits point

end LogLab.Shortest
