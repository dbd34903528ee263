import LogLab.Text.Opening

/-! # Display widths

How many columns of a terminal a line of text takes. Most characters take one, East Asian wide
characters two, combining marks none. Letters that melt into one sign and emoji that are shown as
one take the columns of one.
-/

namespace LogLab.Text

/-- What a character adds to the columns of the text behind it, which is negative if it takes some
back, and the opening of both together. -/
abbrev Step := Int × Opening

/-- The step of a character that ends a sign with what is behind it. -/
def complete (columns : Int) : Step :=
  (columns, {})

/-- The step of a character in front of a ligand, with a joiner between them or without, if it is a
part of the same sign. -/
def Ligand.before? (part : Ligand) (joined : Bool) (c : Char) : Option Step :=
  let goOn (columns : Int) (part : Ligand) : Option Step := some (columns, { head := .ligand part })
  match part with
  | arabicAlef =>
    if inRanges [(0x644, 0x644), (0x6B5, 0x6B8), (0x76A, 0x76A), (0x8A6, 0x8A6), (0x8C7, 0x8C7)] c
    then some (complete 0)
    else if isTransparent c then goOn 0 arabicAlef
    else none
  | hebrewLamed => if joined && c == '\u05d0' then some (complete 0) else none
  | khmerSubscript => if c = khmerSign then some (complete (-1)) else none
  | bugineseYa => if joined && c == '\u1a17' then goOn 0 bugineseVowelYa else none
  | bugineseVowelYa => if c = '\u1a15' then some (complete 0) else none
  | tifinagh =>
    if c = tifinaghJoiner then goOn 1 joinedTifinagh
    else if joined && isTifinagh c then some (complete 0)
    else none
  | joinedTifinagh => if isTifinagh c then some (complete (-1)) else none
  | lisuTone => if inRanges [(0xA4F8, 0xA4FB)] c then some (complete 0) else none
  | turkicI => if joined && c.toNat == 0x10C32 then some (complete 0) else none
  | kiratE =>
    if c.toNat = 0x16D63 ∨ c.toNat = 0x16D69 then some (complete 0)
    else if c.toNat = 0x16D67 then goOn 0 kiratAi
    else if c.toNat = 0x16D68 then goOn 1 kiratE
    else none
  | kiratAi => if c.toNat = 0x16D63 then some (complete 0) else none

def flagBefore? (h : Head) (c : Char) : Option Step :=
  if isFlagLetter c then
    match h with
    | .flagLetter | .flag => some (1, { head := .flag })
    | .joinedPicture => some (1, { head := .joinedFlagLetter })
    | .joinedFlagLetter | .joinedFlags true => some (-1, { head := .joinedFlags false })
    | .joinedFlags false => some (3, { head := .joinedFlags true })
    | _ => none
  else none

/-- The step of a character in front of the tags of a region, if it is a tag or the black flag that
starts them. Digits stand in front of at most four letters, and there are three of them. -/
def tagBefore? (letters digits : Nat) (c : Char) : Option Step :=
  if digits = 0 ∧ letters < 6 ∧ inRanges [(0xE0061, 0xE007A)] c then
    some (0, { head := .joinedTags (letters + 1) 0 })
  else if digits < 3 ∧ letters < 5 ∧ inRanges [(0xE0030, 0xE0039)] c then
    some (0, { head := .joinedTags letters (digits + 1) })
  else if (digits = 3 ∨ digits = 0 ∧ 3 ≤ letters) ∧ c.toNat = 0x1F3F4 then
    some (0, { head := .picture })
  else none

def Head.before? (h : Head) (c : Char) : Option Step :=
  if let some step := flagBefore? h c then some step
  else match h with
    | ligand _ | other | lineFeed | flagLetter | joinedKeycap | joinedFlagLetter => none
    | picture | flag | joinedFlags _ =>
      if c = joiner then some (0, { head := joinedPicture }) else none
    | skinTone =>
      if inRanges tintableRanges c then some (0, { head := picture })
      else if c = joiner then some (0, { head := joinedPicture })
      else none
    | joinedPicture =>
      if c = keycap then some (0, { head := joinedKeycap })
      else if isSkinTone c then some (0, { head := skinTone })
      else if c.toNat = 0xE007F then some (0, { head := joinedTags 0 0 })
      else if isPicture c then some (0, { head := picture })
      else none
    | joinedTags letters digits => tagBefore? letters digits c

/-- The step of a character of the first block, all of which stand for themselves; a carriage return
in front of a line feed takes no column. -/
def basicBefore (o : Opening) (c : Char) : Step :=
  if c = '\n' then (1, { head := .lineFeed })
  else complete (if c = '\r' ∧ o.head = .lineFeed then 0 else 1)

def Opening.before (o : Opening) (c : Char) : Step :=
  let alone : Step := (charColumns c, .ofChar c)
  match o.head with
  | .ligand part =>
    if part ≠ .arabicAlef ∧ c = joiner then (0, { o with joined := true })
    else if part ≠ .arabicAlef ∧ isIgnorableMark c then (0, o)
    else (part.before? o.joined c).getD alone
  | h => (h.before? c).getD alone

/-- The step of a character in front of a text with an opening. -/
def step (c : Char) (o : Opening) : Step :=
  if o.selector = some .picture ∧ takesPictureSelector c then
    (if o.head.isJoined then 0 else 2, { head := .picture })
  else if c.toNat ≤ 0xA0 then basicBefore o.unselected c
  else if let some selector := Selector.ofChar? c then
    (0, (if o.selector = some .picture then o.unselected else o).select selector)
  else if o.selector = some .text ∧ takesTextSelector c then complete 1
  else if o.selector = some .wide ∧ takesWideSelector c then complete 2
  else o.unselected.before c

/-- The columns that a line takes, read from its end on. -/
def columns (s : List Char) : Nat :=
  (s.foldr (fun c read => let (n, o) := step c read.2; (read.1 + n, o)) (complete 0)).1.toNat

end LogLab.Text
