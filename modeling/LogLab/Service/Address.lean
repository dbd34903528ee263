import LogLab.Number.Decimal
import LogLab.Number.Hexadecimal
import LogLab.Scan

/-! # Addresses

Internet addresses of both families as text, alone and with a port. An address of the sixth version
stands between brackets in front of a port and may name a scope.
-/

namespace LogLab

structure Ipv4 where
  a : UInt8
  b : UInt8
  c : UInt8
  d : UInt8
  deriving DecidableEq, Repr, Inhabited

structure Ipv6 where
  groups : List UInt16
  length_eq : groups.length = 8
  deriving DecidableEq, Repr

inductive IpAddress where
  | v4 (ip : Ipv4)
  | v6 (ip : Ipv6)
  deriving DecidableEq, Repr

inductive SocketAddress where
  | v4 (ip : Ipv4) (port : UInt16)
  | v6 (ip : Ipv6) (scope : UInt32) (port : UInt16)
  deriving DecidableEq, Repr

namespace Ipv4

/-- A number from 0 to 255 without a zero in front. -/
def scanOctet : Scan UInt8 := do
  let digits ← Scan.takeWhile1 Numeral.isDigit
  if 3 < digits.length || (digits.head? = some '0' && 1 < digits.length) then failure
  else if Numeral.digitsValue digits < 256 then pure (UInt8.ofNat (Numeral.digitsValue digits))
  else failure

def scan : Scan Ipv4 := do
  let a ← scanOctet
  Scan.char '.'
  let b ← scanOctet
  Scan.char '.'
  let c ← scanOctet
  Scan.char '.'
  let d ← scanOctet
  pure ⟨a, b, c, d⟩

def parse? (s : List Char) : Option Ipv4 :=
  Scan.whole? scan s

def display (ip : Ipv4) : String :=
  s!"{ip.a}.{ip.b}.{ip.c}.{ip.d}"

/-- The address as two groups of sixteen bits. -/
def groups (ip : Ipv4) : List UInt16 :=
  [ip.a.toUInt16 * 256 + ip.b.toUInt16, ip.c.toUInt16 * 256 + ip.d.toUInt16]

end Ipv4

namespace Ipv6

/-- One to four hexadecimal digits. -/
def scanGroup : Scan UInt16 := do
  let digits ← Scan.takeWhile1 Hexadecimal.isDigit
  if 4 < digits.length then failure
  else match Hexadecimal.numberOf? digits with
    | some n => pure (UInt16.ofNat n)
    | none => failure

/-- What stands at this place of a list whose parts have colons between them. -/
def separated {α : Type} (isFirst : Bool) (scan : Scan α) : Scan α := do
  if !isFirst then Scan.char ':'
  scan

/-- At most `limit` groups with colons between them, as many as there are; whether the last two were
written in the style of the fourth version; and the rest of the text. -/
def readGroups : (limit : Nat) → (isFirst : Bool) → List Char → List UInt16 × Bool × List Char
  | 0, _, s => ([], false, s)
  | limit + 1, isFirst, s =>
    match if 0 < limit then separated isFirst Ipv4.scan s else none with
    | some (ip, rest) => (ip.groups, true, rest)
    | none =>
      match separated isFirst scanGroup s with
      | some (group, rest) =>
        let (groups, dotted, rest') := readGroups limit false rest
        (group :: groups, dotted, rest')
      | none => ([], false, s)

/-- The address whose groups have a run of zeros between them. -/
def withGap (front back : List UInt16) : Option Ipv6 :=
  let groups := front ++ List.replicate (8 - front.length - back.length) 0 ++ back
  if h : groups.length = 8 then some ⟨groups, h⟩ else none

/-- Eight groups, or fewer with two colons in place of at least one group of zeros. Dotted octets
may stand for the last two groups. -/
def scan : Scan Ipv6 := fun s =>
  let (front, dotted, rest) := readGroups 8 true s
  if h : front.length = 8 then some (⟨front, h⟩, rest)
  else if dotted then none
  else match rest with
    | ':' :: ':' :: rest' =>
      let (back, _, rest'') := readGroups (7 - front.length) true rest'
      (withGap front back).map fun ip => (ip, rest'')
    | _ => none

def parse? (s : List Char) : Option Ipv6 :=
  Scan.whole? scan s

def groupText (group : UInt16) : String :=
  String.ofList (Nat.toDigits 16 group.toNat)

def groupsText (groups : List UInt16) : String :=
  ":".intercalate (groups.map groupText)

def zerosAtStart (groups : List UInt16) : Nat :=
  (groups.takeWhile (· == 0)).length

/-- The first of the longest runs of zeros: where it starts and its length. -/
def longestZeros : List UInt16 → Nat × Nat
  | [] => (0, 0)
  | g :: gs =>
    let (start, length) := longestZeros gs
    if length ≤ zerosAtStart (g :: gs) then (0, zerosAtStart (g :: gs)) else (start + 1, length)

/-- The octets of the fourth version that an address stands for, if it is one of those. -/
def mapped? (ip : Ipv6) : Option Ipv4 :=
  match ip.groups with
  | [0, 0, 0, 0, 0, 0xFFFF, high, low] =>
    some ⟨(high / 256).toUInt8, high.toUInt8, (low / 256).toUInt8, low.toUInt8⟩
  | _ => none

/-- The address as text, with two colons in place of the first longest run of several zeros. -/
def display (ip : Ipv6) : String :=
  match ip.mapped? with
  | some v4 => "::ffff:" ++ v4.display
  | none =>
    let (start, length) := longestZeros ip.groups
    if 1 < length then
      groupsText (ip.groups.take start) ++ "::" ++ groupsText (ip.groups.drop (start + length))
    else groupsText ip.groups

end Ipv6

namespace IpAddress

def parse? (s : List Char) : Option IpAddress :=
  match Ipv4.parse? s with
  | some ip => some (v4 ip)
  | none => (Ipv6.parse? s).map v6

end IpAddress

namespace SocketAddress

/-- A number below a bound; zeros may stand in front. -/
def scanNumber (bound : Nat) : Scan Nat := do
  let digits ← Scan.takeWhile1 Numeral.isDigit
  if Numeral.digitsValue digits < bound then pure (Numeral.digitsValue digits) else failure

def scanPort : Scan UInt16 := do
  Scan.char ':'
  pure (UInt16.ofNat (← scanNumber UInt16.size))

def scanScope : Scan UInt32 := do
  Scan.char '%'
  pure (UInt32.ofNat (← scanNumber UInt32.size))

def scanV4 : Scan SocketAddress := do
  let ip ← Ipv4.scan
  let port ← scanPort
  pure (v4 ip port)

/-- Groups between brackets, with a scope or without, and a port. -/
def scanV6 : Scan SocketAddress := do
  Scan.char '['
  let ip ← Ipv6.scan
  let scope ← Scan.maybe scanScope
  Scan.char ']'
  let port ← scanPort
  pure (v6 ip (scope.getD 0) port)

def parse? (s : List Char) : Option SocketAddress :=
  match Scan.whole? scanV4 s with
  | some address => some address
  | none => Scan.whole? scanV6 s

/-- The address as text; the scope is left out if it is zero. -/
def display : SocketAddress → String
  | v4 ip port => ip.display ++ ":" ++ toString port
  | v6 ip scope port =>
    "[" ++ ip.display ++ (if scope = 0 then "" else "%" ++ toString scope) ++ "]:" ++ toString port

end SocketAddress

end LogLab
