import LogLab.Number.Hexadecimal
import LogLab.Yaml.Token

/-! # YAML tags

A tag is written as a handle and a suffix, or as a whole between angle brackets. Percent signs write
octets, which have to have the form of UTF-8. The text of a tag ends in front of a null character;
what has the form of UTF-8 and is no character stands in it as one.
-/

namespace LogLab.Yaml.Tag

/-- A character of a tag. Between angle brackets some more are allowed. -/
def isTagChar (verbatim : Bool) (c : Char) : Bool :=
  isWordChar c || ";/?:@&=+$.!~*\x27()".toList.contains c || (verbatim && ",[]".toList.contains c)

/-- The octets of a tag and what follows it. A percent sign and two hexadecimal digits write one. -/
def octets? (verbatim : Bool) : List Char → Option (List Nat × List Char)
  | [] => some ([], [])
  | '%' :: a :: b :: cs => do
    let octet := (← Hexadecimal.value? a) * 16 + (← Hexadecimal.value? b)
    let (octets, rest) ← octets? verbatim cs
    pure (octet :: octets, rest)
  | c :: cs =>
    if c = '%' then none
    else if isTagChar verbatim c then
      (octets? verbatim cs).map fun (octets, rest) => (c.toNat :: octets, rest)
    else some ([], c :: cs)

/-- The number of octets in the form of UTF-8 that starts with an octet, and the part of the number
of the character that the octet gives. -/
def lead? (octet : Nat) : Option (Nat × Nat) :=
  if octet < 0x80 then some (1, octet)
  else if octet < 0xC0 then none
  else if octet < 0xE0 then some (2, octet - 0xC0)
  else if octet < 0xF0 then some (3, octet - 0xE0)
  else if octet < 0xF8 then some (4, octet - 0xF0)
  else none

def leastOf (width : Nat) : Nat :=
  if width = 1 then 0 else if width = 2 then 0x80 else if width = 3 then 0x800 else 0x10000

/-- The character with a number, if it takes up so many octets, and else the null character. -/
def charOf (width n : Nat) : Char :=
  if leastOf width ≤ n then Char.ofNat n else '\x00'

/-- The characters of octets, where `missing` octets are still to come of a character of `width`
octets, and `n` is the number they have given so far. -/
def charsFrom? (width missing n : Nat) : List Nat → Option (List Char)
  | [] => if missing = 0 then some [] else none
  | octet :: octets =>
    match missing with
    | 0 => do
      let (width, n) ← lead? octet
      if width = 1 then (Char.ofNat n :: ·) <$> charsFrom? 1 0 0 octets
      else charsFrom? width (width - 1) n octets
    | missing + 1 =>
      let n := n * 0x40 + (octet - 0x80)
      if octet < 0x80 ∨ 0xBF < octet then none
      else if missing = 0 then (charOf width n :: ·) <$> charsFrom? 1 0 0 octets
      else charsFrom? width missing n octets

/-- The text that octets have, up to the first that is zero. -/
def text? (octets : List Nat) : Option (List Char) := do
  let _ ← charsFrom? 1 0 0 octets
  charsFrom? 1 0 0 (octets.takeWhile (· ≠ 0))

def read? (verbatim : Bool) (s : List Char) : Option (List Char × List Char) := do
  let (octets, rest) ← octets? verbatim s
  if octets.isEmpty then none
  pure (← text? octets, rest)

def verbatim? (s : List Char) : Option (Token × List Char) := do
  let (suffix, rest) ← read? true s.tail
  match rest with
  | '>' :: rest' => pure (.tag [] suffix, rest')
  | _ => none

/-- A tag with or without a handle, from its exclamation mark on. -/
def shorthand? (s : List Char) : Option (Token × List Char) :=
  let word := s.tail.takeWhile isWordChar
  match s.tail.dropWhile isWordChar with
  | '!' :: rest => do
    let (suffix, rest') ← read? false rest
    pure (.tag ('!' :: word ++ ['!']) suffix, rest')
  | _ => do
    let (octets, rest) ← octets? false s.tail
    let suffix ← text? octets
    pure (if suffix.isEmpty then (.tag [] ['!'], rest) else (.tag ['!'] suffix, rest))

def handle? (s : List Char) : Option (List Char × List Char) :=
  match s with
  | '!' :: cs =>
    let word := cs.takeWhile isWordChar
    match cs.dropWhile isWordChar with
    | '!' :: rest => some ('!' :: word ++ ['!'], rest)
    | rest => if word.isEmpty then some (['!'], rest) else none
  | _ => none

def directive? (s : List Char) : Option (Token × List Char) := do
  let (handle, rest) ← handle? (s.dropWhile isBlank)
  if !rest.head?.any isBlank then none
  let (replacement, rest') ← read? true (rest.dropWhile isBlank)
  if !atBlank rest' then none
  pure (.tagHandle handle replacement, rest')

end LogLab.Yaml.Tag
