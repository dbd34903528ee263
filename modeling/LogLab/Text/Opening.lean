import LogLab.Text.ColumnTable

/-! # What a text opens with

The columns of a character may depend on what stands behind it: letters that melt into one sign,
emoji that are joined or tinted, and selectors. An opening keeps of a text what matters to a
character in front of it.
-/

namespace LogLab.Text

/-- The last part of a sign that several letters melt into. -/
inductive Ligand where
  | arabicAlef
  | hebrewLamed
  | khmerSubscript
  | bugineseYa
  | bugineseVowelYa
  | tifinagh
  | joinedTifinagh
  | lisuTone
  | turkicI
  | kiratE
  | kiratAi
  deriving DecidableEq, Repr

/-- The first thing in a text after a selector. What is called joined has a joiner and an emoji
behind it; a flag is made of two letters, and `joinedFlags` tells whether their number is odd. Tags
are read from their end on and name a region by letters and digits. -/
inductive Head where
  | other
  | lineFeed
  | ligand (part : Ligand)
  | picture
  | skinTone
  | flagLetter
  | flag
  | joinedPicture
  | joinedKeycap
  | joinedFlagLetter
  | joinedFlags (odd : Bool)
  | joinedTags (letters digits : Nat)
  deriving DecidableEq, Repr

/-- A sign that chooses how the character in front of it is shown. -/
inductive Selector where
  | text
  | picture
  | wide
  deriving DecidableEq, Repr

/-- What a text opens with: a selector if it starts with one, a joiner in front of a ligand if there
is one, and the first thing after them. -/
structure Opening where
  head : Head := .other
  joined : Bool := false
  selector : Option Selector := none
  deriving DecidableEq, Repr

def joiner : Char := '\u200d'

/-- The sign that puts the Khmer letter after it below the one in front of it. -/
def khmerSign : Char := '\u17d2'

def tifinaghJoiner : Char := '\u2d7f'

def keycap : Char := '\u20e3'

def isFlagLetter (c : Char) : Bool :=
  inRanges [(0x1F1E6, 0x1F1FF)] c

def isSkinTone (c : Char) : Bool :=
  inRanges [(0x1F3FB, 0x1F3FF)] c

def isTifinagh (c : Char) : Bool :=
  inRanges [(0x2D31, 0x2D65), (0x2D6F, 0x2D6F)] c

/-- A mark that is not shown and does not part the letters of a sign. -/
def isIgnorableMark (c : Char) : Bool :=
  inRanges [(0x34F, 0x34F), (0x17B4, 0x17B5), (0x180B, 0x180D), (0x180F, 0x180F), (0xFE00, 0xFE0F),
    (0xE0100, 0xE01EF)] c

def isPicture (c : Char) : Bool :=
  inRanges pictureRanges c

def takesPictureSelector (c : Char) : Bool :=
  inRanges selectablePictureRanges c || inRanges textPictureRanges c

/-- A picture that a selector shows as a sign of the text; squared ideographs stay as wide as they
are. -/
def takesTextSelector (c : Char) : Bool :=
  inRanges textPictureRanges c && !inRanges [(0x1F200, 0x1F2FF)] c

def takesWideSelector (c : Char) : Bool :=
  inRanges [(0x2018, 0x2019), (0x201C, 0x201D)] c

/-- The columns of a character that stands for itself. -/
def charColumns (c : Char) : Nat :=
  if inRanges zeroColumnRanges c then 0
  else if inRanges twoColumnRanges c then 2
  else if c = '\u17a4' then 2
  else if c = '\u17d8' then 3
  else 1

/-- A character without columns that does not part the Arabic letters around it. -/
def isTransparent (c : Char) : Bool :=
  charColumns c == 0 && !inRanges partingRanges c

namespace Selector

def ofChar? (c : Char) : Option Selector :=
  if c = '\ufe0e' then some text
  else if c = '\ufe0f' then some picture
  else if c = '\ufe01' then some wide
  else none

end Selector

namespace Ligand

def ofChar? (c : Char) : Option Ligand :=
  if inRanges [(0x622, 0x623), (0x625, 0x625), (0x627, 0x627), (0x671, 0x673), (0x675, 0x675),
    (0x773, 0x774), (0x870, 0x882)] c then some arabicAlef
  else if c = '\u05dc' then some hebrewLamed
  else if inRanges [(0x1780, 0x1782), (0x1784, 0x1787), (0x1789, 0x178C), (0x178E, 0x1793),
    (0x1795, 0x1798), (0x179B, 0x179D), (0x17A0, 0x17A0), (0x17A2, 0x17A2), (0x17A7, 0x17A7),
    (0x17AB, 0x17AC), (0x17AF, 0x17AF)] c then some khmerSubscript
  else if c = '\u1a10' then some bugineseYa
  else if isTifinagh c then some tifinagh
  else if inRanges [(0xA4FC, 0xA4FD)] c then some lisuTone
  else if c.toNat = 0x10C03 then some turkicI
  else if c.toNat = 0x16D67 then some kiratE
  else if c.toNat = 0x16D68 then some kiratAi
  else none

end Ligand

namespace Head

def ofChar (c : Char) : Head :=
  if isFlagLetter c then flagLetter
  else if isSkinTone c then skinTone
  else if isPicture c then picture
  else match Ligand.ofChar? c with
    | some part => ligand part
    | none => other

def isLigand : Head → Bool
  | ligand _ => true
  | _ => false

/-- Whether the character in front of the start is joined with an emoji behind it. -/
def isJoined : Head → Bool
  | joinedPicture | joinedKeycap => true
  | _ => false

end Head

namespace Opening

def ofChar (c : Char) : Opening :=
  { head := .ofChar c, selector := Selector.ofChar? c }

/-- The opening without the selector. Only a ligand can be seen through one that came to nothing. -/
def unselected (o : Opening) : Opening :=
  if o.selector.isNone then o
  else if o.head.isLigand then { o with selector := none }
  else {}

/-- The opening with a selector in front. Ligands can be seen through all selectors, and what is
joined with an emoji through the one for pictures. -/
def select (o : Opening) (selector : Selector) : Opening :=
  if o.head.isLigand || (selector == .picture && o.head.isJoined) then
    { o with selector := some selector }
  else { selector := some selector }

end Opening

end LogLab.Text
