/-! # YAML tokens

The pieces that a YAML text is made of, the places at which they stand, and the classes of
characters that tell them apart.
-/

namespace LogLab.Yaml

/-- A line and a column, both counted from zero, and the number of octets of UTF-8 that stand in
front of it on its line. -/
structure Place where
  line : Nat := 0
  column : Nat := 0
  octets : Nat := 0
  deriving DecidableEq, Repr, Inhabited

namespace Place

def past (p : Place) (c : Char) : Place :=
  ⟨p.line, p.column + 1, p.octets + c.utf8Size⟩

def pastAll (p : Place) (s : List Char) : Place :=
  s.foldl past p

def down (p : Place) : Place :=
  ⟨p.line + 1, 0, 0⟩

end Place

/-- A piece of a YAML text. A scalar is plain if it is written without quotes on its lines. -/
inductive Token where
  | version (major minor : Nat)
  | tagHandle (handle replacement : List Char)
  | documentStart
  | documentEnd
  | blockSequenceStart
  | blockMappingStart
  | blockEnd
  | flowSequenceStart
  | flowSequenceEnd
  | flowMappingStart
  | flowMappingEnd
  | blockEntry
  | flowEntry
  | key
  | value
  | reference (name : List Char)
  | anchor (name : List Char)
  | tag (handle suffix : List Char)
  | scalar (isPlain : Bool) (text : List Char)
  deriving DecidableEq, Repr, Inhabited

def isBlank (c : Char) : Bool :=
  c == ' ' || c == '\t'

def isBreak (c : Char) : Bool :=
  c == '\n' || c == '\u2028' || c == '\u2029'

def isBlankOrBreak (c : Char) : Bool :=
  isBlank c || isBreak c

def atBreak (s : List Char) : Bool :=
  s.head?.all isBreak

def atBlank (s : List Char) : Bool :=
  s.head?.all isBlankOrBreak

def isWordChar (c : Char) : Bool :=
  c.isAlphanum || c == '_' || c == '-'

def isAllowed (c : Char) : Bool :=
  c == '\t' || c == '\n' || c == '\r' || c.toNat == 0x85 ||
    (0x20 ≤ c.toNat && c.toNat ≤ 0x7E) || (0xA0 ≤ c.toNat && c.toNat ≤ 0xFFFD) || 0x10000 ≤ c.toNat

/-- Writes every line break as a line feed, apart from the two Unicode separators. -/
def unifyBreaks : List Char → List Char
  | [] => []
  | '\r' :: '\n' :: cs => '\n' :: unifyBreaks cs
  | c :: cs => (if c = '\r' ∨ c = '\u0085' then '\n' else c) :: unifyBreaks cs

/-- The mark that may stand at the start of a line, where it takes up a column. -/
def byteOrderMark : Char := '\ufeff'

/-- Whether three of the character stand at the start of a line as a word of their own. -/
def atDocumentMark (mark : Char) (place : Place) (s : List Char) : Bool :=
  place.column == 0 && s.take 3 == [mark, mark, mark] && atBlank (s.drop 3)

end LogLab.Yaml
