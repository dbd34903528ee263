import LogLab.Number.Decimal
import LogLab.Number.Hexadecimal
import LogLab.Yaml.Token

/-! # YAML scalars

The three ways in which a text is written: plain, between quotes, and as a block of indented lines.
Line breaks inside plain and quoted texts are folded: a single one becomes a space, and of several
the first one is dropped.
-/

namespace LogLab.Yaml

/-- A text that was read, whether a line break stood at its end, and where it ends. -/
structure Scanned where
  text : List Char
  endsBroken : Bool := false
  place : Place
  rest : List Char
  deriving Repr

/-- What stands between two words of a text: blanks on one line, or line breaks, of which the first
one is missing if it was escaped. -/
inductive Fold where
  | blanks (cs : Array Char)
  | breaks (first : Option Char) (others : Array Char)
  deriving Repr

namespace Fold

def empty : Fold :=
  blanks #[]

def isBroken : Fold → Bool
  | blanks _ => false
  | breaks .. => true

def isEmpty : Fold → Bool
  | blanks cs => cs.isEmpty
  | breaks .. => false

/-- What the blanks and line breaks are folded to. -/
def text : Fold → Array Char
  | blanks cs => cs
  | breaks none others => others
  | breaks (some c) others =>
    if c = '\n' then (if others.isEmpty then #[' '] else others) else #[c] ++ others

/-- Takes in a blank, which counts only before the first line break. -/
def addBlank (c : Char) : Fold → Fold
  | blanks cs => blanks (cs.push c)
  | breaks first others => breaks first others

def addBreak (c : Char) : Fold → Fold
  | blanks _ => breaks (some c) #[]
  | breaks first others => breaks first (others.push c)

end Fold

def atAnyDocumentMark (place : Place) (s : List Char) : Bool :=
  atDocumentMark '-' place s || atDocumentMark '.' place s

def isFlowEnd (c : Char) : Bool :=
  c == ',' || c == '[' || c == ']' || c == '{' || c == '}'

/-- Whether a colon that stands between brackets may not be followed by this text. -/
def afterBadColon (s : List Char) : Bool :=
  s.head?.any fun c => isFlowEnd c || c == '?'

/-- Whether a plain text ends in front of a word: at a comment, in a line of a block that is not
indented, and between documents. -/
def endsPlain (inFlow : Bool) (indent : Nat) (place : Place) (s : List Char) : Bool :=
  s.head? == some '#' || (!inFlow && place.column < indent) || atAnyDocumentMark place s

/-- The rest of a plain text; `text` is what was read of it and `f` what was folded since. A tab may
not stand at the start of a line in front of the column `indent`. -/
def plainFrom (inFlow : Bool) (indent : Nat) (text : Array Char) (f : Fold) (place : Place) :
    List Char → Option Scanned
  | [] => some ⟨text.toList, f.isBroken, place, []⟩
  | c :: cs =>
    if isBreak c then plainFrom inFlow indent text (f.addBreak c) place.down cs
    else if isBlank c then
      if f.isBroken && place.column < indent && c == '\t' then none
      else plainFrom inFlow indent text (f.addBlank c) (place.past c) cs
    else if !f.isEmpty && endsPlain inFlow indent place (c :: cs) then
      some ⟨text.toList, f.isBroken, place, c :: cs⟩
    else if inFlow && c == ':' && afterBadColon cs then none
    else if (c == ':' && atBlank cs) || (inFlow && isFlowEnd c) then
      some ⟨text.toList, f.isBroken, place, c :: cs⟩
    else plainFrom inFlow indent ((text ++ f.text).push c) .empty (place.past c) cs

def scanPlain (inFlow : Bool) (indent : Nat) (place : Place) (s : List Char) : Option Scanned :=
  plainFrom inFlow indent #[] .empty place s

def unescape? (c : Char) : Option Char :=
  match c with
  | '0' => some '\x00'
  | 'a' => some '\x07'
  | 'b' => some '\x08'
  | 't' | '\t' => some '\t'
  | 'n' => some '\n'
  | 'v' => some '\x0b'
  | 'f' => some '\x0c'
  | 'r' => some '\r'
  | 'e' => some '\x1b'
  | ' ' => some ' '
  | '\x22' => some '\x22'
  | '/' => some '/'
  | '\x5c' => some '\x5c'
  | 'N' => some '\u0085'
  | '_' => some '\u00a0'
  | 'L' => some '\u2028'
  | 'P' => some '\u2029'
  | _ => none

def hexLength? (c : Char) : Option Nat :=
  if c = 'x' then some 2 else if c = 'u' then some 4 else if c = 'U' then some 8 else none

def hexChar? (digits : List Char) : Option Char := do
  let n ← Hexadecimal.numberOf? digits
  if n.isValidChar then pure (Char.ofNat n) else none

/-- The character after a backslash, what stands for it, and the rest. -/
def escaped? : List Char → Option (Char × List Char × List Char)
  | [] => none
  | c :: cs =>
    match hexLength? c with
    | some n =>
      if (cs.take n).length < n then none
      else (hexChar? (cs.take n)).map fun d => (d, c :: cs.take n, cs.drop n)
    | none => (unescape? c).map fun d => (d, [c], cs)

theorem length_lt_of_escaped? {s read rest : List Char} {d : Char}
    (h : escaped? s = some (d, read, rest)) : rest.length < s.length := by
  cases s with
  | nil => simp [escaped?] at h
  | cons c cs =>
    simp only [escaped?] at h
    split at h
    · split at h
      · simp at h
      · obtain ⟨_, _, h⟩ := Option.map_eq_some_iff.1 h
        simp only [Prod.mk.injEq] at h
        simp only [← h.2.2, List.length_drop, List.length_cons]
        omega
    · obtain ⟨_, _, h⟩ := Option.map_eq_some_iff.1 h
      simp only [Prod.mk.injEq] at h
      simp [← h.2.2]

/-- The rest of a quoted text; `text` is what was read of it and `f` what was folded since. A line
break after a backslash is dropped, and so is what stands at the start of the next line. -/
def quotedFrom (single : Bool) (text : Array Char) (f : Fold) (place : Place) (s : List Char) :
    Option Scanned :=
  match s with
  | [] => none
  | c :: cs =>
    if isBreak c then quotedFrom single text (f.addBreak c) place.down cs
    else if isBlank c then quotedFrom single text (f.addBlank c) (place.past c) cs
    else if atAnyDocumentMark place (c :: cs) then none
    else if single && c == '\x27' then
      match cs with
      | '\x27' :: cs' =>
        quotedFrom single ((text ++ f.text).push c) .empty ((place.past c).past c) cs'
      | _ => some ⟨(text ++ f.text).toList, false, place.past c, cs⟩
    else if !single && c == '\x22' then
      some ⟨(text ++ f.text).toList, false, place.past c, cs⟩
    else if !single && c == '\x5c' then
      match cs with
      | [] => none
      | b :: cs' =>
        if isBreak b then quotedFrom single (text ++ f.text) (.breaks none #[]) place.down cs'
        else
          match _ : escaped? (b :: cs') with
          | none => none
          | some (d, read, rest) =>
            quotedFrom single ((text ++ f.text).push d) .empty ((place.past c).pastAll read) rest
    else quotedFrom single ((text ++ f.text).push c) .empty (place.past c) cs
termination_by s.length
decreasing_by
  any_goals simp only [List.length_cons]; omega
  have := length_lt_of_escaped? ‹_›
  simp only [List.length_cons] at this ⊢
  omega

def scanQuoted (single : Bool) (place : Place) (s : List Char) : Option Scanned :=
  quotedFrom single #[] .empty (place.past (if single then '\x27' else '\x22')) s.tail

/-- What happens to the line breaks at the end of a block text: all are dropped, one is kept, or
all are kept. -/
inductive Chomping where
  | strip
  | clip
  | keep
  deriving DecidableEq, Repr, Inhabited

def chomping? (c : Char) : Option Chomping :=
  if c = '+' then some .keep else if c = '-' then some .strip else none

/-- A digit for the indentation of a block text, which may not be zero. -/
def increment? (c : Char) : Option Nat :=
  if Numeral.isDigit c && c != '0' then some (c.toNat - '0'.toNat) else none

/-- The signs after the indicator of a block text: chomping, indentation, and their number. -/
def blockHeader? : List Char → Option (Chomping × Nat × List Char)
  | [] => some (.clip, 0, [])
  | c :: cs =>
    match chomping? c with
    | some chomping =>
      match cs with
      | d :: ds =>
        if Numeral.isDigit d then (increment? d).map fun n => (chomping, n, ds)
        else some (chomping, 0, cs)
      | [] => some (chomping, 0, [])
    | none =>
      if Numeral.isDigit c then
        (increment? c).map fun n =>
          match cs with
          | d :: ds =>
            match chomping? d with
            | some chomping => (chomping, n, ds)
            | none => (.clip, n, cs)
          | [] => (.clip, n, [])
      else some (.clip, 0, c :: cs)

/-- The indentation and empty lines at the start of a line of a block text. -/
structure Margin where
  breaks : Array Char := #[]
  widest : Nat := 0
  place : Place
  rest : List Char
  deriving Repr

/-- Passes over indentation up to a column, or any indentation if it is zero, and over empty lines.
There may be no tab in the indentation. -/
def scanMargin (indent : Nat) (breaks : Array Char) (widest : Nat) (place : Place) :
    List Char → Option Margin
  | [] => some ⟨breaks, max widest place.column, place, []⟩
  | c :: cs =>
    let inMargin := indent == 0 || place.column < indent
    if inMargin && c == ' ' then scanMargin indent breaks widest (place.past c) cs
    else if inMargin && c == '\t' then none
    else if isBreak c then
      scanMargin indent (breaks.push c) (max widest place.column) place.down cs
    else some ⟨breaks, max widest place.column, place, c :: cs⟩

theorem length_le_of_scanMargin {indent widest : Nat} {breaks : Array Char} {place : Place}
    {s : List Char} {m : Margin} (h : scanMargin indent breaks widest place s = some m) :
    m.rest.length ≤ s.length := by
  fun_induction scanMargin indent breaks widest place s <;> grind

/-- The lines of a block text that start at column `indent`. `lead` is the break before the line,
`blank` says whether the line before starts with a blank. -/
def blockLines (literal : Bool) (indent : Nat) (text : Array Char) (lead : List Char)
    (blank : Bool) (margin : Margin) : Option (Array Char × List Char × Margin) :=
  match _ : margin.rest with
  | [] => some (text, lead, margin)
  | c :: cs =>
    if margin.place.column = indent then
      let folds := !literal && lead == ['\n'] && !blank && !isBlank c
      let joined := if folds then (if margin.breaks.isEmpty then [' '] else []) else lead
      let line := (c :: cs).takeWhile fun d => !isBreak d
      let rest := (c :: cs).dropWhile fun d => !isBreak d
      let place := if rest.isEmpty then margin.place.pastAll line else margin.place.down
      match _ : scanMargin indent #[] 0 place rest.tail with
      | none => none
      | some margin' =>
        blockLines literal indent (text ++ joined ++ margin.breaks ++ line) (rest.take 1)
          (isBlank c) margin'
    else some (text, lead, margin)
termination_by margin.rest.length
decreasing_by
  have := length_le_of_scanMargin ‹_›
  have : rest.length ≤ (c :: cs).length := (List.dropWhile_sublist _).length_le
  rw [‹margin.rest = _›]
  simp only [List.length_tail, List.length_cons] at *
  omega

def dropComment (place : Place) (s : List Char) : Place × List Char :=
  let place' := place.pastAll (s.takeWhile isBlank)
  let s' := s.dropWhile isBlank
  if s'.head? = some '#' then
    (place'.pastAll (s'.takeWhile fun c => !isBreak c), s'.dropWhile fun c => !isBreak c)
  else (place', s')

/-- A block text, from its indicator on, inside a block that is indented by `parent`. -/
def scanBlock (literal : Bool) (parent : Int) (place : Place) (s : List Char) : Option Scanned := do
  let (chomping, increment, afterHeader) ← blockHeader? s.tail
  let header := s.take (s.length - afterHeader.length)
  let (place', rest) := dropComment (place.pastAll header) afterHeader
  if !atBreak rest then none
  let start := if rest.isEmpty then place' else place'.down
  let given := if increment = 0 then 0 else (max parent 0).toNat + increment
  let margin ← scanMargin given #[] 0 start rest.tail
  let indent := if given = 0 then max (max margin.widest (parent + 1).toNat) 1 else given
  let (text, lead, last) ← blockLines literal indent #[] [] false margin
  let ending := match chomping with
    | .strip => #[]
    | .clip => lead.toArray
    | .keep => lead.toArray ++ last.breaks
  pure ⟨(text ++ ending).toList, false, last.place, last.rest⟩

end LogLab.Yaml
