import LogLab.Yaml.Scalar
import LogLab.Yaml.Tag

/-! # Cutting a YAML text into tokens

Indentation opens and closes block collections. A scalar or collection may turn out to be a key
when a colon follows it; then a key token is put in front of it, and a block mapping is opened
there if the column asks for it.
-/

namespace LogLab.Yaml

/-- A place where a key may have started, and the number of tokens before it. A required key stands
at the start of a line of a block mapping. -/
structure Candidate where
  place : Place
  position : Nat
  required : Bool
  deriving Repr

/-- What the scanner has read and where it stands. `indents` are the columns of the open blocks,
innermost first, and `candidates` belongs to the open brackets, innermost first, and the block
around them. -/
structure Scanner where
  rest : List Char
  place : Place := {}
  indents : List Nat := []
  candidates : List (Option Candidate) := [none]
  keyAllowed : Bool := true
  tokens : Array Token := #[]
  deriving Repr

namespace Scanner

def inFlow (s : Scanner) : Bool :=
  !s.candidates.tail.isEmpty

/-- The column of the innermost block, `-1` outside all blocks. -/
def indent (s : Scanner) : Int :=
  match s.indents with
  | [] => -1
  | i :: _ => i

def push (s : Scanner) (token : Token) : Scanner :=
  { s with tokens := s.tokens.push token }

def insertAt (s : Scanner) (position : Nat) (token : Token) : Scanner :=
  { s with tokens := s.tokens.insertIdxIfInBounds position token }

def skip (s : Scanner) (n : Nat := 1) : Scanner :=
  { s with rest := s.rest.drop n, place := s.place.pastAll (s.rest.take n) }

def closeBlocks (s : Scanner) (column : Int) : Scanner :=
  if s.inFlow then s
  else
    let closed := s.indents.takeWhile fun i : Nat => decide (column < i)
    { s with
      indents := s.indents.drop closed.length
      tokens := s.tokens ++ closed.map fun _ => Token.blockEnd }

/-- Opens a block at a column if it is indented more than the innermost one. The token goes to a
position among the tokens. -/
def openBlock (s : Scanner) (column position : Nat) (token : Token) : Scanner :=
  if s.inFlow || decide ((column : Int) ≤ s.indent) then s
  else { s.insertAt position token with indents := column :: s.indents }

/-- Gives up the candidate inside the innermost brackets, which may not be a required one. -/
def dropCandidate (s : Scanner) : Option Scanner :=
  match s.candidates with
  | some c :: cs => if c.required then none else some { s with candidates := none :: cs }
  | _ => some s

/-- Makes the current place a candidate for a key, if a key may start here. -/
def addCandidate (s : Scanner) : Option Scanner :=
  if s.keyAllowed then do
    let s ← s.dropCandidate
    let required := !s.inFlow && s.indent == (s.place.column : Int)
    let candidate := ⟨s.place, s.tokens.size, required⟩
    pure { s with candidates := some candidate :: s.candidates.tail }
  else some s

/-- A key stands on one line and is at most this many octets of UTF-8 long. -/
def maxKeyLength : Nat := 1024

/-- Whether a candidate is too far away for a colon at a place to make it a key. -/
def Candidate.isStale (c : Candidate) (place : Place) : Bool :=
  decide (c.place.line < place.line ∨ c.place.octets + maxKeyLength < place.octets)

def dropStale (s : Scanner) : Option Scanner := do
  let candidates ← s.candidates.mapM fun
    | some c =>
      if Candidate.isStale c s.place then (if c.required then none else some none)
      else some (some c)
    | none => some none
  pure { s with candidates }

/-- Passes over blanks, comments and line breaks. A tab may not stand where a key may start, and
after a line break outside brackets a key may start. -/
def skipBlanks (s : Scanner) : Scanner :=
  go s.keyAllowed s.place s.rest
where
  go (keyAllowed : Bool) (place : Place) (text : List Char) : Scanner :=
    match text with
    | [] => { s with keyAllowed, place, rest := [] }
    | c :: cs =>
      if c = ' ' ∨ (c = '\t' ∧ (s.inFlow ∨ !keyAllowed)) then go keyAllowed (place.past c) cs
      else if c = byteOrderMark ∧ place.column = 0 then go keyAllowed (place.past c) cs
      else if isBreak c then go (keyAllowed || !s.inFlow) place.down cs
      else if c = '#' then comment keyAllowed (place.past c) cs
      else { s with keyAllowed, place, rest := c :: cs }
  comment (keyAllowed : Bool) (place : Place) (text : List Char) : Scanner :=
    match text with
    | [] => { s with keyAllowed, place, rest := [] }
    | c :: cs =>
      if isBreak c then go (keyAllowed || !s.inFlow) place.down cs
      else comment keyAllowed (place.past c) cs

/-- Reads one of the marks between documents, or the sign of a directive, which end all blocks. -/
def endBlocks (s : Scanner) : Option Scanner := do
  let s ← (s.closeBlocks (-1)).dropCandidate
  pure { s with keyAllowed := false }

def openFlow (s : Scanner) (token : Token) : Option Scanner := do
  let s ← s.addCandidate
  let s := { s with candidates := none :: s.candidates, keyAllowed := true }
  pure (s.skip.push token)

def closeFlow (s : Scanner) (token : Token) : Option Scanner := do
  let s ← s.dropCandidate
  let s := { s with
    candidates := if s.inFlow then s.candidates.tail else s.candidates
    keyAllowed := false }
  pure (s.skip.push token)

def flowEntry (s : Scanner) : Option Scanner := do
  let s ← s.dropCandidate
  pure ({ s with keyAllowed := true }.skip.push .flowEntry)

/-- Opens a block for an indicator at the current place, which may stand only where a key may. -/
def openHere (s : Scanner) (token : Token) : Option Scanner :=
  if s.inFlow then some s
  else if s.keyAllowed then some (s.openBlock s.place.column s.tokens.size token)
  else none

def blockEntry (s : Scanner) : Option Scanner := do
  let s ← s.openHere .blockSequenceStart
  let s ← s.dropCandidate
  pure ({ s with keyAllowed := true }.skip.push .blockEntry)

def key (s : Scanner) : Option Scanner := do
  let s ← s.openHere .blockMappingStart
  let s ← s.dropCandidate
  pure ({ s with keyAllowed := !s.inFlow }.skip.push .key)

/-- Reads the colon in front of a value. A candidate becomes a key. -/
def value (s : Scanner) : Option Scanner := do
  match s.candidates with
  | some c :: cs =>
    let s := s.insertAt c.position .key
    let s := s.openBlock c.place.column c.position .blockMappingStart
    pure ({ s with candidates := none :: cs, keyAllowed := false }.skip.push .value)
  | _ =>
    let s ← s.openHere .blockMappingStart
    pure ({ s with keyAllowed := !s.inFlow }.skip.push .value)

def endsName (s : List Char) : Bool :=
  atBlank s || s.head?.any fun c =>
    c == '?' || c == ':' || c == ',' || c == ']' || c == '}' || c == '%' || c == '@' || c == '\x60'

def anchorOrReference (s : Scanner) (token : List Char → Token) : Option Scanner := do
  let s ← s.addCandidate
  let name := s.rest.tail.takeWhile isWordChar
  if name.isEmpty || !endsName (s.rest.drop (name.length + 1)) then none
  pure ({ s with keyAllowed := false }.skip (name.length + 1) |>.push (token name))

def tag (s : Scanner) : Option Scanner := do
  let s ← s.addCandidate
  let (token, rest) ←
    if s.rest.tail.head? = some '<' then Tag.verbatim? s.rest.tail else Tag.shorthand? s.rest
  if !(atBlank rest || (s.inFlow && rest.head? == some ',')) then none
  pure ({ s with keyAllowed := false }.skip (s.rest.length - rest.length) |>.push token)

def afterScalar (s : Scanner) (isPlain : Bool) (scanned : Scanned) : Scanner :=
  { s with rest := scanned.rest, place := scanned.place, keyAllowed := scanned.endsBroken }.push
    (.scalar isPlain scanned.text)

/-- Reads a block text, after which a key may start. -/
def blockScalar (s : Scanner) (literal : Bool) : Option Scanner := do
  let s ← s.dropCandidate
  let scanned ← scanBlock literal s.indent s.place s.rest
  pure { s.afterScalar false scanned with keyAllowed := true }

def quotedScalar (s : Scanner) (single : Bool) : Option Scanner := do
  let s ← s.addCandidate
  let scanned ← scanQuoted single s.place s.rest
  pure (s.afterScalar false scanned)

def plainScalar (s : Scanner) : Option Scanner := do
  let s ← s.addCandidate
  let scanned ← scanPlain s.inFlow (s.indent + 1).toNat s.place s.rest
  pure (s.afterScalar true scanned)

/-- A number of a version, at most nine digits long. -/
def versionNumber (s : List Char) : Option (Nat × List Char) :=
  let digits := s.takeWhile Numeral.isDigit
  if digits.isEmpty || 9 < digits.length then none
  else some (Numeral.digitsValue digits, s.dropWhile Numeral.isDigit)

def versionDirective (s : List Char) : Option (Token × List Char) := do
  let (major, rest) ← versionNumber (s.dropWhile isBlank)
  match rest with
  | '.' :: rest' =>
    let (minor, rest'') ← versionNumber rest'
    pure (.version major minor, rest'')
  | _ => none

def directive (s : Scanner) : Option Scanner := do
  let s ← s.endBlocks
  let name := s.rest.tail.takeWhile isWordChar
  let rest := s.rest.drop (name.length + 1)
  if name.isEmpty || !atBlank rest then none
  let (token, rest') ←
    if name = "YAML".toList then versionDirective rest
    else if name = "TAG".toList then Tag.directive? rest
    else none
  let s := s.skip (s.rest.length - rest'.length)
  let (place, rest'') := dropComment s.place s.rest
  if !atBreak rest'' then none
  let place := if rest''.isEmpty then place else place.down
  pure ({ s with place, rest := rest''.tail }.push token)

def documentMark (s : Scanner) (token : Token) : Option Scanner := do
  let s ← s.endBlocks
  pure (s.skip 3 |>.push token)

def isIndicator (c : Char) : Bool :=
  "-?:,[]\x7b\x7d#&*!|>\x27\x22%@\x60".toList.contains c

/-- Whether a plain text starts here: with no indicator, or with a dash, and outside brackets also
a question mark or colon, that a blank does not follow. -/
def startsPlain (s : Scanner) (c : Char) (cs : List Char) : Bool :=
  !(isBlankOrBreak c || isIndicator c) ||
    (c == '-' && !cs.head?.any isBlank) ||
    (!s.inFlow && (c == '?' || c == ':') && !atBlank cs)

def token (s : Scanner) (c : Char) (cs : List Char) : Option Scanner :=
  if s.place.column = 0 ∧ c = '%' then s.directive
  else if atDocumentMark '-' s.place s.rest then s.documentMark .documentStart
  else if atDocumentMark '.' s.place s.rest then s.documentMark .documentEnd
  else if c = '[' then s.openFlow .flowSequenceStart
  else if c = '{' then s.openFlow .flowMappingStart
  else if c = ']' then s.closeFlow .flowSequenceEnd
  else if c = '}' then s.closeFlow .flowMappingEnd
  else if c = ',' then s.flowEntry
  else if c = '-' ∧ atBlank cs then s.blockEntry
  else if c = '?' ∧ (s.inFlow ∨ atBlank cs) then s.key
  else if c = ':' ∧ (s.inFlow ∨ atBlank cs) then s.value
  else if c = '*' then s.anchorOrReference .reference
  else if c = '&' then s.anchorOrReference .anchor
  else if c = '!' then s.tag
  else if c = '|' ∧ !s.inFlow then s.blockScalar true
  else if c = '>' ∧ !s.inFlow then s.blockScalar false
  else if c = '\x27' then s.quotedScalar true
  else if c = '\x22' then s.quotedScalar false
  else if s.startsPlain c cs then s.plainScalar
  else none

/-- Gets ready for the next token: blanks are passed over and blocks that have ended are closed. -/
def prepare (s : Scanner) : Option Scanner := do
  let s ← s.skipBlanks.dropStale
  pure (s.closeBlocks s.place.column)

def finish (s : Scanner) : Option (List Token) := do
  let s ← (s.closeBlocks (-1)).dropCandidate
  pure s.tokens.toList

def runFor : Nat → Scanner → Option (List Token)
  | 0, _ => none
  | steps + 1, s => do
    let s ← s.prepare
    match s.rest with
    | [] => s.finish
    | c :: cs => runFor steps (← s.token c cs)

/-- The tokens of the rest of the text, after those that were read. Each takes up a character. -/
def run (s : Scanner) : Option (List Token) :=
  runFor (s.rest.length + 1) s

end Scanner

def tokens? (text : List Char) : Option (List Token) :=
  if text.all isAllowed then Scanner.run { rest := unifyBreaks text } else none

end LogLab.Yaml
