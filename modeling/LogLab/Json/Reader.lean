import LogLab.Json.Basic
import LogLab.Number.Decimal
import LogLab.Number.Hexadecimal
import LogLab.Reader

/-! # Reading JSON text

Values may be nested up to a depth, and field names may repeat. Numbers with a point or an
exponent, and integers that are too large, are read as floats by the quick method of `quickFloat`.
-/

namespace LogLab.Json

/-- The blanks of JSON. -/
def isSpace (c : Char) : Bool :=
  c == ' ' || c == '\n' || c == '\t' || c == '\r'

/-- The next character that is not a blank, left in place. -/
def peek : Reader Char Char := do
  match (← get).dropWhile isSpace with
  | [] => Reader.malformed
  | c :: cs => set (c :: cs); pure c

def unescape? (c : Char) : Option Char :=
  if c = '\x22' ∨ c = '\x5c' ∨ c = '/' then some c
  else if c = 'b' then some '\x08'
  else if c = 'f' then some '\x0c'
  else if c = 'n' then some '\n'
  else if c = 'r' then some '\r'
  else if c = 't' then some '\t'
  else none

/-- The code unit and the rest of the text after a backslash and the letter `u`. -/
def codeUnit? : List Char → Option (Nat × List Char)
  | a :: b :: c :: d :: rest => (Hexadecimal.numberOf? [a, b, c, d]).map fun n => (n, rest)
  | _ => none

def joinPair (high low : Nat) : Char :=
  Char.ofNat (0x10000 + (high - 0xD800) * 0x400 + (low - 0xDC00))

/-- The character after a backslash, and the rest of the text. A half of a pair stands for a
character only together with the other half. -/
def escaped? : List Char → Option (Char × List Char)
  | 'u' :: cs => do
    let (n, rest) ← codeUnit? cs
    if n < 0xD800 ∨ 0xDFFF < n then pure (Char.ofNat n, rest)
    else if 0xDBFF < n then none
    else match rest with
      | '\x5c' :: 'u' :: cs' =>
        let (m, rest') ← codeUnit? cs'
        if 0xDC00 ≤ m ∧ m ≤ 0xDFFF then pure (joinPair n m, rest') else none
      | _ => none
  | c :: cs => (unescape? c).map fun d => (d, cs)
  | [] => none

def stringBody : Reader Char (List Char) :=
  (List.reverse ·) <$> Reader.iterate (fun acc => do
    let c ← Reader.next
    if c = '\x22' then pure (.inr acc)
    else if c.toNat < 0x20 then Reader.malformed
    else if c = '\x5c' then
      match escaped? (← get) with
      | some (d, rest) => set rest; pure (.inl (d :: acc))
      | none => Reader.malformed
    else pure (.inl (c :: acc))) []

/-- Extends a number below `2 ^ 64` by digits while it stays below; also says how many were used. -/
def extendDigits (n used : Nat) : List Char → Nat × Nat
  | [] => (n, used)
  | c :: cs =>
    let m := n * 10 + (c.toNat - '0'.toNat)
    if m < UInt64.size then extendDigits m (used + 1) cs else (n, used)

/-- Scales a double by a power of ten in steps of at most `10 ^ 308`, each of which rounds. None
if the result is too large. -/
def scaleQuick (fuel : Nat) (x : Float) (power : Int) : Option Float :=
  if power.natAbs ≤ 308 then
    let ten := Float.ofScientific 1 false power.natAbs
    let y := if power < 0 then x / ten else x * ten
    if Binary64.isFinite y then some y else none
  else if Binary64.magnitude x = 0 then some x
  else if 0 < power then none
  else match fuel with
    | 0 => some 0
    | fuel + 1 => scaleQuick fuel (x / Float.ofScientific 1 false 308) (power + 308)

/-- The double of a decimal by the quick method: the digits that fit into sixty-four bits are
rounded to a double, which is then scaled by a power of ten. -/
def quickFloat (negative : Bool) (whole fraction : List Char) (power : Int) : Option Float :=
  let (n, used) := extendDigits 0 0 whole
  let (m, usedFraction) := extendDigits n 0 fraction
  (scaleQuick 4 (Float.ofNat m) (power + (whole.length - used : Nat) - usedFraction)).map fun x =>
    if negative then -x else x

/-- The digits after a point, which are at least one; none without a point. -/
def fractionDigits : Reader Char (Option (List Char)) := do
  match ← get with
  | '.' :: cs =>
    set cs
    let ds ← Reader.takeWhile Numeral.isDigit
    if ds.isEmpty then Reader.malformed else pure (some ds)
  | _ => pure none

def powerOfTen : Reader Char (Option Int) := do
  match ← get with
  | c :: cs =>
    if c = 'e' ∨ c = 'E' then
      let (negative, rest) := Numeral.readSign cs
      set rest
      let ds ← Reader.takeWhile Numeral.isDigit
      if ds.isEmpty then Reader.malformed
      else
        let n : Int := Numeral.digitsValue ds
        pure (some (if negative then -n else n))
    else pure none
  | [] => pure none

/-- An integer as a value, if it is in range and is not a negative zero. -/
def ofInteger? (negative : Bool) (n : Nat) : Option Json :=
  if negative then
    if 0 < n ∧ n ≤ UInt64.size / 2 then some (int (-(n : Int))) else none
  else if n < UInt64.size then some (int n) else none

/-- A number as it is written: the digits in front of the point and behind it, and the power of ten
after the letter `e`. -/
structure Written where
  negative : Bool
  whole : List Char
  fraction : Option (List Char)
  power : Option Int
  deriving DecidableEq, Repr

/-- A number, with no zero in front of other digits and with digits on both sides of a point. -/
def written : Reader Char Written := do
  let negative := (← get).head? == some '-'
  if negative then let _ ← Reader.next
  let whole ← Reader.takeWhile Numeral.isDigit
  if whole.isEmpty || (1 < whole.length && whole.head? == some '0') then Reader.malformed
  let fraction ← fractionDigits
  pure ⟨negative, whole, fraction, ← powerOfTen⟩

/-- The value of a number, which may be too large to have one. -/
def Written.value? (w : Written) : Option Json :=
  let exact := if w.fraction.isNone && w.power.isNone then
    ofInteger? w.negative (Numeral.digitsValue w.whole) else none
  match exact with
  | some v => some v
  | none => (quickFloat w.negative w.whole (w.fraction.getD []) (w.power.getD 0)).map float

def number : Reader Char Json := do
  match (← written).value? with
  | some v => pure v
  | none => Reader.malformed

/-- A value that is no list and no object; `c` is its first character, still in place. -/
def scalar (c : Char) : Reader Char Json := do
  if c = '\x22' then
    let _ ← Reader.next
    string <$> String.ofList <$> stringBody
  else if c = 'n' then Reader.exactly ['n', 'u', 'l', 'l']; pure null
  else if c = 't' then Reader.exactly ['t', 'r', 'u', 'e']; pure (bool true)
  else if c = 'f' then Reader.exactly ['f', 'a', 'l', 's', 'e']; pure (bool false)
  else if c = '-' || Numeral.isDigit c then number
  else Reader.malformed

/-- Takes parts between brackets, separated by commas, into a state; the opening bracket has been
read. -/
def foldSeparated {σ : Type} (closing : Char) (part : σ → Reader Char σ) (state : σ) :
    Reader Char σ :=
  Reader.iterate (fun (isFirst, acc) => do
    let c ← peek
    if c = closing then
      let _ ← Reader.next
      pure (.inr acc)
    else if isFirst then pure (.inl (false, ← part acc))
    else if c = ',' then
      let _ ← Reader.next
      pure (.inl (false, ← part acc))
    else Reader.malformed) (true, state)

/-- The parts between brackets, separated by commas, after the opening bracket. -/
def separated {α : Type} (closing : Char) (part : Reader Char α) : Reader Char (List α) :=
  (List.reverse ·) <$> foldSeparated closing (fun acc => (· :: acc) <$> part) []

def key : Reader Char String := do
  if (← peek) = '\x22' then
    let _ ← Reader.next
    String.ofList <$> stringBody
  else Reader.malformed

def colon : Reader Char Unit := do
  if (← peek) = ':' then
    let _ ← Reader.next
  else Reader.malformed

/-- A field name, the colon after it, and what `value` reads for that name. -/
def member {α : Type} (value : String → Reader Char α) : Reader Char α := do
  let name ← key
  colon
  value name

/-- A value whose lists and objects are nested at most `depth` deep. -/
def value (depth : Nat) : Reader Char Json := do
  let c ← peek
  match depth with
  | 0 => if c = '[' || c = '{' then Reader.malformed else scalar c
  | depth + 1 =>
    if c = '[' then
      let _ ← Reader.next
      array <$> separated ']' (value depth)
    else if c = '{' then
      let _ ← Reader.next
      object <$> separated '}' (member fun key => (key, ·) <$> value depth)
    else scalar c

def maxDepth : Nat := 127

/-- The value that a text holds, with repeated field names as written. -/
def parseRaw? (text : List Char) : Option Json :=
  (Reader.runAll isSpace (value maxDepth) text).toOption

def parse? (text : List Char) : Option Json :=
  (parseRaw? text).map collapse

end LogLab.Json
