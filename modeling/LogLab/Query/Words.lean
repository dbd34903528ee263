import LogLab.Pipeline.Basic
import LogLab.Scan
import LogLab.Text.Alphanumeric
import LogLab.Text.Lowercase

/-! # Words of queries

The small pieces that the query languages share: field names, keywords, literals, comparisons and
counts.
-/

namespace LogLab

namespace Scan

def isNameChar (c : Char) : Bool :=
  Text.isAlphanumeric c || c == '_' || c == '.'

/-- Spaces, tabs and line ends, if there are any. -/
def gaps : Scan Unit := fun s =>
  some ((), s.dropWhile Text.isGap)

def gaps1 : Scan Unit := fun s =>
  match s with
  | c :: cs => if Text.isGap c then some ((), cs.dropWhile Text.isGap) else none
  | [] => none

/-- The text after a word, which may be in any letter case. -/
def dropWord? : (word s : List Char) → Option (List Char)
  | [], s => some s
  | w :: ws, c :: cs => if w.toLower = c.toLower then dropWord? ws cs else none
  | _ :: _, [] => none

/-- A word in any letter case, not followed by a character of a field name. Its letters are compared
as those of ASCII: only `k` has the lower case of a character that is not. -/
def keyword (word : String) : Scan Unit := fun s =>
  match dropWord? word.toList s with
  | some [] => some ((), [])
  | some (c :: cs) => if isNameChar c then none else some ((), c :: cs)
  | none => none

def name : Scan (List Char) :=
  takeWhile1 isNameChar

/-- The word `AS` and a name, with gaps before both. -/
def labelSuffix : Scan (List Char) := do
  gaps1
  keyword "AS"
  gaps1
  name

/-- The text up to a closing quote, after the opening one. -/
def upTo (quote : Char) : Scan (List Char) := fun s =>
  if s.contains quote then some (s.takeWhile (· != quote), (s.dropWhile (· != quote)).tail)
  else none

theorem leavesEnd_gaps : LeavesEnd gaps := by
  refine ⟨fun h => ?_⟩
  simp only [gaps, Option.some.injEq, Prod.mk.injEq] at h
  exact h.2 ▸ List.dropWhile_suffix Text.isGap

theorem leavesEnd_gaps1 : LeavesEnd gaps1 := by
  refine ⟨fun {s a rest} h => ?_⟩
  match s with
  | [] => simp [gaps1] at h
  | c :: cs =>
    simp only [gaps1] at h
    split at h
    · simp only [Option.some.injEq, Prod.mk.injEq] at h
      exact h.2 ▸ (List.dropWhile_suffix Text.isGap).trans (List.suffix_cons c cs)
    · simp at h

theorem suffix_of_dropWord? {word s rest : List Char} (h : dropWord? word s = some rest) :
    rest <:+ s := by
  fun_induction dropWord? word s with
  | case1 s => simp_all
  | case2 w ws c cs _ ih => exact (ih h).trans (List.suffix_cons c cs)
  | case3 | case4 => simp at h

theorem length_of_dropWord? {word s rest : List Char} (h : dropWord? word s = some rest) :
    rest.length + word.length = s.length := by
  fun_induction dropWord? word s with
  | case1 s => simp_all
  | case2 w ws c cs _ ih => simp [← ih h, Nat.add_assoc]
  | case3 | case4 => simp at h

theorem dropWord?_of_keyword {word : String} {s rest : List Char} {u : Unit}
    (h : keyword word s = some (u, rest)) : dropWord? word.toList s = some rest := by
  simp only [keyword] at h
  split at h <;> grind

theorem leavesEnd_keyword (word : String) : LeavesEnd (keyword word) :=
  ⟨fun h => suffix_of_dropWord? (dropWord?_of_keyword h)⟩

theorem leavesEnd_labelSuffix : LeavesEnd labelSuffix :=
  leavesEnd_gaps1.bind fun _ => (leavesEnd_keyword "AS").bind fun _ =>
    leavesEnd_gaps1.bind fun _ => leavesEnd_takeWhile1 isNameChar

theorem leavesEnd_upTo (quote : Char) : LeavesEnd (upTo quote) := by
  refine ⟨fun h => ?_⟩
  simp only [upTo] at h
  split at h
  · simp only [Option.some.injEq, Prod.mk.injEq] at h
    exact h.2 ▸ (List.tail_suffix _).trans (List.dropWhile_suffix _)
  · simp at h

def isQuote (c : Char) : Bool :=
  c == '\x27' || c == '\x22'

/-- A quoted text, without its quotes. -/
def quoted : Scan (List Char) := fun s =>
  match s with
  | c :: cs => if isQuote c then upTo c cs else none
  | [] => none

/-- A quoted text, or a run of characters that are neither blanks nor quotes. -/
def literal : Scan (List Char) :=
  orElse quoted (takeWhile1 fun c => !Text.isBlank c && !isQuote c)

/-- A count below `2 ^ 64`. -/
def count : Scan UInt64 := do
  let digits ← takeWhile1 Numeral.isDigit
  if Numeral.digitsValue digits < UInt64.size then
    pure (UInt64.ofNat (Numeral.digitsValue digits))
  else failure

def count? (s : List Char) : Option UInt64 :=
  whole? count (Text.trim s)

/-- The signs of comparisons, longer ones first. -/
def comparisonSign : Scan Comparison := fun s =>
  match s with
  | '!' :: '=' :: rest | '<' :: '>' :: rest => some (.notEq, rest)
  | '>' :: '=' :: rest => some (.gtEq, rest)
  | '<' :: '=' :: rest => some (.ltEq, rest)
  | '=' :: '=' :: rest | '=' :: rest => some (.eq, rest)
  | '>' :: rest => some (.gt, rest)
  | '<' :: rest => some (.lt, rest)
  | _ => none

/-- Whether two texts have the same characters in lower case, up to the end of the shorter one. -/
def agree : (word s : List Char) → Bool
  | w :: word, c :: s => Text.lower [w] == Text.lower [c] && agree word s
  | _, _ => true

/-- The text after a word in the lower case of Unicode. As many octets are cut off as the word has,
although characters with the same lower case may have more. -/
def dropFolded? (word s : List Char) : Option (Except Crash (List Char)) :=
  if agree word s then dropOctets (octets word) s else none

def foldedWord (word : List Char) : RiskyScan Unit := ExceptT.mk fun s =>
  (dropFolded? word s).map fun
    | .ok rest => (.ok (), rest)
    | .error crash => (.error crash, s)

/-- Nothing, if no name goes on. -/
def nameEnd : Scan Unit := fun s =>
  match s with
  | c :: cs => if isNameChar c then none else some ((), c :: cs)
  | [] => some ((), [])

def comparisonWord (word : String) (comparison : Comparison) : RiskyScan Comparison := do
  foldedWord word.toList
  nameEnd
  pure comparison

def comparison : RiskyScan Comparison :=
  .orElse comparisonSign
    (.orElse (comparisonWord "LIKE" .like) (comparisonWord "CONTAINS" .contains))

/-- A field name, a comparison and a literal. -/
def predicate : RiskyScan Predicate := do
  let field ← name
  gaps
  let comparison ← comparison
  gaps
  let value ← literal
  pure ⟨String.ofList field, comparison, String.ofList value⟩

def direction? (word : List Char) : Option Direction :=
  if Text.eqIgnoringCase word "asc".toList then some .asc
  else if Text.eqIgnoringCase word "desc".toList then some .desc
  else none

/-- A field name and a direction; without the name of a direction the default is taken, and what
follows the direction is ignored. -/
def sortKey? (s : List Char) (default : Direction) : Option SortKey :=
  match name (Text.trim s) with
  | some (field, rest) =>
    some ⟨String.ofList field, (direction? (Text.firstWord rest)).getD default⟩
  | none => none

/-- The command word of a segment in lower case, and its arguments. -/
def command (segment : List Char) : List Char × List Char :=
  match name (Text.trim segment) with
  | some (word, rest) => (Text.asciiLower word, Text.trim rest)
  | none => ([], Text.trim segment)

end Scan

end LogLab
