import LogLab.Number.Hexadecimal

/-! # Percent signs

In an address of the web, a percent sign and two hexadecimal digits stand for an octet of the UTF-8
form of a text.
-/

namespace LogLab.Text

def octetOfHex? (a b : UInt8) : Option UInt8 :=
  (Hexadecimal.numberOf? [Char.ofNat a.toNat, Char.ofNat b.toNat]).map UInt8.ofNat

/-- Octets with every percent sign and its two digits replaced; a percent sign without them stands
for itself. -/
def percentDecode : List UInt8 → List UInt8
  | 0x25 :: a :: b :: rest =>
    match octetOfHex? a b with
    | some octet => octet :: percentDecode rest
    | none => 0x25 :: percentDecode (a :: b :: rest)
  | octet :: rest => octet :: percentDecode rest
  | [] => []

/-- The text with every percent sign replaced, unless that leaves the form of a text. -/
def percentDecode? (s : String) : Option String :=
  String.fromUTF8? ⟨(percentDecode s.toUTF8.toList).toArray⟩

end LogLab.Text
