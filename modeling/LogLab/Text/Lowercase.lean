import LogLab.Text.CaseTable

/-! # Lower case

The lower case of a text is taken character by character with two exceptions: a dotted capital I
becomes two characters, and a capital sigma that ends a word becomes a final sigma.
-/

namespace LogLab.Text

/-- The lower case of one character, where it is one character. -/
def lowerChar (c : Char) : Char :=
  if c.toNat < 0x80 then c.toLower
  else match caseRuns.find? (·.covers c.toNat) with
    | some run => Char.ofNat ((c.toNat : Int) + run.shift).toNat
    | none => c

def startsCased (s : List Char) : Bool :=
  match s.dropWhile (inRanges caseIgnorableRanges) with
  | [] => false
  | c :: _ => inRanges casedRanges c

/-- The capital sigma, whose lower case depends on its neighbours. -/
def capitalSigma : Char := '\u03a3'

/-- The dotted capital I, whose lower case is two characters. -/
def capitalDottedI : Char := '\u0130'

/-- The lower case of `c` between the text `before` it, read backwards, and the text after it. -/
def lowerIn (before : List Char) (c : Char) (after : List Char) : List Char :=
  if c = capitalSigma then
    if startsCased before && !startsCased after then ['\u03c2'] else ['\u03c3']
  else if c = capitalDottedI then ['i', '\u0307']
  else [lowerChar c]

def lowerAfter (before : List Char) : List Char → List Char
  | [] => []
  | c :: cs => lowerIn before c cs ++ lowerAfter (c :: before) cs

def lower (s : List Char) : List Char :=
  lowerAfter [] s

def lowercase (s : String) : String :=
  String.ofList (lower s.toList)

/-- The lower case of the letters `A` to `Z`; everything else is kept. -/
def asciiLower (s : List Char) : List Char :=
  s.map Char.toLower

def eqIgnoringCase (s t : List Char) : Bool :=
  asciiLower s == asciiLower t

end LogLab.Text
