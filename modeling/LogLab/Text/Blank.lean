/-! # Blanks

White space as Unicode has it, the narrower set that separates the words of a statement, and the
two ways a text is freed of blanks: trimming its ends and cutting it into words.
-/

namespace LogLab.Text

/-- A character with the property White_Space. -/
def isBlank (c : Char) : Bool :=
  c.toNat ≤ 0x20 && (c.toNat == 0x20 || (0x9 ≤ c.toNat && c.toNat ≤ 0xD)) ||
  c.toNat == 0x85 || c.toNat == 0xA0 || c.toNat == 0x1680 ||
  (0x2000 ≤ c.toNat && c.toNat ≤ 0x200A) ||
  c.toNat == 0x2028 || c.toNat == 0x2029 || c.toNat == 0x202F || c.toNat == 0x205F ||
  c.toNat == 0x3000

/-- A space, tab, carriage return or newline: what may stand between the tokens of a statement. -/
def isGap (c : Char) : Bool :=
  c == ' ' || c == '\t' || c == '\r' || c == '\n'

theorem isBlank_of_isGap {c : Char} (h : isGap c = true) : isBlank c = true := by
  simp only [isGap, Bool.or_eq_true, beq_iff_eq] at h
  rcases h with ((rfl | rfl) | rfl) | rfl <;> decide

def trimStart (s : List Char) : List Char :=
  s.dropWhile isBlank

def trimEnd (s : List Char) : List Char :=
  (s.reverse.dropWhile isBlank).reverse

def trim (s : List Char) : List Char :=
  trimEnd (trimStart s)

def firstWord (s : List Char) : List Char :=
  (trimStart s).takeWhile fun c => !isBlank c

/-- Puts a character in front of the first piece. -/
def consFirst (c : Char) : List (List Char) → List (List Char)
  | [] => [[c]]
  | piece :: pieces => (c :: piece) :: pieces

/-- The pieces between the characters that satisfy `p`; there is one more than such characters. -/
def cutAt (p : Char → Bool) : List Char → List (List Char)
  | [] => [[]]
  | c :: cs => if p c then [] :: cutAt p cs else consFirst c (cutAt p cs)

def fieldsAt (p : Char → Bool) (s : List Char) : List (List Char) :=
  (cutAt p s).filter fun piece => !piece.isEmpty

end LogLab.Text
