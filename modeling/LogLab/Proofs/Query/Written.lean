import LogLab.Proofs.Query.Phrases

/-! # Written tokens

The tokens of queries as they are written: gaps, keywords in any letter case, names, comparisons and
literals. Each is read back as what it stands for, and none begins a phrase of reserved words.
-/

namespace LogLab.Query

open Scan Text

/-- Spaces, tabs and line ends, if there are any. -/
structure Spacing where
  chars : List Char
  isGap : ∀ c ∈ chars, isGap c = true

structure Gap extends Spacing where
  ne_nil : chars ≠ []

structure Keyword (word : String) where
  chars : List Char
  spelled : Spelled word chars

def Gap.space : Gap := ⟨⟨[' '], by decide⟩, by decide⟩

def Keyword.given (word : String) : Keyword word := ⟨word.toList, rfl⟩

/-- A field name that is none of the reserved words in any letter case. -/
structure Name (reserved : List String) where
  chars : List Char
  isName : IsName chars
  free : ∀ word ∈ reserved, ¬ Spelled word chars

def comparisonSigns : List (List Char × Comparison) :=
  [(['='], .eq), (['=', '='], .eq), (['!', '='], .notEq), (['<', '>'], .notEq), (['<'], .lt),
    (['<', '='], .ltEq), (['>'], .gt), (['>', '='], .gtEq)]

inductive Operator where
  | sign (chars : List Char) (comparison : Comparison)
      (mem : (chars, comparison) ∈ comparisonSigns)
  | like (word : Keyword "LIKE")
  | contains (word : Keyword "CONTAINS")

/-- Characters that may stand in a literal without quotes. -/
def isPlain (c : Char) : Bool := !isBlank c && !isQuote c

/-- A literal as it is written: between quotes, or a run of characters without blanks and quotes in
which no reserved word stands. -/
inductive Literal (reserved : List String) where
  | quoted (quote : Char) (value : List Char) (isQuote : isQuote quote = true)
      (free : quote ∉ value)
  | bare (value : List Char) (ne_nil : value ≠ [])
      (plain : ∀ c ∈ value, isPlain c = true)
      (free : ∀ run ∈ nameRuns value, ∀ word ∈ reserved, ¬ Spelled word run)

structure DirectionWord where
  before : Gap
  direction : Direction
  word : Keyword direction.name

/-- A field to sort by as it is written, with or without a direction. -/
structure Order (reserved : List String) where
  field : Name reserved
  direction : Option DirectionWord

/-- The word `AS` and a name, with gaps before both. -/
structure Label (reserved : List String) where
  before : Gap
  word : Keyword "AS"
  after : Gap
  name : Name reserved

structure Digits where
  chars : List Char
  isCount : IsCount chars

variable {α : Type} {reserved : List String} {word : String} {s t : List Char} {quote : Char}

namespace Operator

def chars : Operator → List Char
  | sign chars _ _ => chars
  | like word => word.chars
  | contains word => word.chars

def comparison : Operator → Comparison
  | sign _ comparison _ => comparison
  | like _ => .like
  | contains _ => .contains

end Operator

namespace Literal

def value : Literal reserved → List Char
  | quoted _ value _ _ => value
  | bare value _ _ _ => value

def chars : Literal reserved → List Char
  | quoted quote value _ _ => quotation quote value
  | bare value _ _ _ => value

end Literal

/-- A field name and a comparison as they are written, with a gap behind each. -/
structure Test (reserved : List String) where
  field : Name reserved
  before : Gap
  operator : Operator
  after : Gap

structure Term (reserved : List String) where
  test : Test reserved
  literal : Literal reserved

namespace Gap

variable (g : Gap)

theorem stops_isNameChar : Stops isNameChar (g.chars ++ t) :=
  stops_append_of_forall g.ne_nil fun c hc => isNameChar_of_isGap (g.isGap c hc)

theorem endsName_append (s : List Char) : EndsName (s ++ g.chars) := by
  have hlast := isNameChar_of_isGap (g.isGap _ (List.getLast_mem g.ne_nil))
  refine ⟨g.chars.getLast g.ne_nil, ?_, hlast⟩
  rw [List.getLast?_append, List.getLast?_eq_some_getLast g.ne_nil]
  rfl

theorem exists_cons : ∃ c s, g.chars = c :: s ∧ Text.isGap c = true := by
  obtain ⟨c, s, he⟩ := List.exists_cons_of_ne_nil g.ne_nil
  exact ⟨c, s, he, g.isGap c (by simp [he])⟩

end Gap

theorem Spacing.stops_isNameChar (g : Spacing) (ht : Stops isNameChar t) :
    Stops isNameChar (g.chars ++ t) :=
  Stops.append (fun c hc => isNameChar_of_isGap (g.isGap c (List.mem_of_mem_head? hc))) ht

theorem Spacing.allBlank (g : Spacing) : AllBlank g.chars := fun c hc =>
  isBlank_of_isGap (g.isGap c hc)

theorem stops_isGap_of_isName (hs : IsName s) : Stops Text.isGap (s ++ t) :=
  stops_append_of_forall hs.1 fun c hc => isGap_of_isNameChar (hs.2 c hc)

theorem Name.stops_isGap (n : Name reserved) : Stops Text.isGap (n.chars ++ t) :=
  stops_isGap_of_isName n.isName

theorem Keyword.stops_isGap (k : Keyword word) (hw : IsWord word) :
    Stops Text.isGap (k.chars ++ t) :=
  stops_isGap_of_isName (k.spelled.isName hw)

/-- The word `AS` and a name are read as the name. -/
theorem labelSuffix_written {n : List Char} (before : Gap) (word : Keyword "AS") (after : Gap)
    (hn : IsName n) (ht : Stops isNameChar t) :
    labelSuffix (before.chars ++ (word.chars ++ (after.chars ++ (n ++ t)))) = some (n, t) := by
  rw [labelSuffix, bind_eq (gaps1_append before.ne_nil before.isGap
      (word.stops_isGap (by decide))), bind_eq (keyword_append word.spelled
      after.stops_isNameChar), bind_eq (gaps1_append after.ne_nil after.isGap
      (stops_isGap_of_isName hn))]
  exact name_append hn ht

namespace Label

variable (l : Label reserved)

def chars : List Char :=
  l.before.chars ++ (l.word.chars ++ (l.after.chars ++ l.name.chars))

theorem labelSuffix_append (ht : Stops isNameChar t) :
    labelSuffix (l.chars ++ t) = some (l.name.chars, t) := by
  simp only [chars, List.append_assoc]
  exact labelSuffix_written l.before l.word l.after l.name.isName ht

theorem isNameChar_or_isGap : ∀ c ∈ l.chars, isNameChar c = true ∨ Text.isGap c = true := by
  intro c hc
  simp only [chars, List.mem_append] at hc
  rcases hc with hc | hc | hc | hc
  · exact .inr (l.before.isGap c hc)
  · exact .inl ((l.word.spelled.isName (by decide)).2 c hc)
  · exact .inr (l.after.isGap c hc)
  · exact .inl (l.name.isName.2 c hc)

end Label

def labelChars (label : Option (Label reserved)) : List Char :=
  (label.map Label.chars).getD []

section LabelChars

variable (label : Option (Label reserved))

theorem maybe_labelSuffix (hnone : labelSuffix t = none) (ht : Stops isNameChar t) :
    maybe labelSuffix (labelChars label ++ t) = some (label.map fun l => l.name.chars, t) := by
  cases label with
  | none => exact maybe_eq_none hnone
  | some l => exact maybe_eq (l.labelSuffix_append ht)

theorem stops_labelChars (ht : Stops isNameChar t) : Stops isNameChar (labelChars label ++ t) := by
  cases label with
  | none => exact ht
  | some l =>
    rw [labelChars, Option.map_some, Option.getD_some, Label.chars, List.append_assoc]
    exact l.before.stops_isNameChar

theorem isNameChar_or_isGap_labelChars :
    ∀ c ∈ labelChars label, isNameChar c = true ∨ isGap c = true := by
  cases label with
  | none => simp [labelChars]
  | some l => exact l.isNameChar_or_isGap

end LabelChars

theorem isWord_like : IsWord "LIKE" := by decide
theorem isWord_contains : IsWord "CONTAINS" := by decide

theorem Operator.stops_isGap (o : Operator) : Stops Text.isGap (o.chars ++ t) := by
  cases o with
  | sign chars comparison mem =>
    have h : ∀ p ∈ comparisonSigns, ∀ c ∈ p.1.head?, Text.isGap c = false := by decide
    have hne : ∀ p ∈ comparisonSigns, p.1 ≠ [] := by decide
    obtain ⟨c, s, rfl⟩ := List.exists_cons_of_ne_nil (hne _ mem)
    exact stops_cons.mpr (h _ mem c rfl)
  | like word => exact word.stops_isGap isWord_like
  | contains word => exact word.stops_isGap isWord_contains

theorem comparisonSign_append {p : List Char × Comparison} (hp : p ∈ comparisonSigns) {c : Char}
    (hc : Text.isGap c = true) : comparisonSign (p.1 ++ c :: t) = some (p.2, c :: t) := by
  have h : ∀ p ∈ comparisonSigns, comparisonSign (p.1 ++ c :: t) = some (p.2, c :: t) := by
    simp only [Text.isGap, Bool.or_eq_true, beq_iff_eq] at hc
    simp only [comparisonSigns, List.forall_mem_cons]
    rcases hc with ((rfl | rfl) | rfl) | rfl <;>
      exact ⟨rfl, rfl, rfl, rfl, rfl, rfl, rfl, rfl, by simp⟩
  exact h p hp

theorem comparison_append (o : Operator) (g : Gap) :
    Scan.comparison (o.chars ++ (g.chars ++ t)) = some (.ok o.comparison, g.chars ++ t) := by
  have hsign : ∀ {n}, IsName n → comparisonSign (n ++ (g.chars ++ t)) = none := fun {n} hn => by
    obtain ⟨c, n, rfl⟩ := List.exists_cons_of_ne_nil hn.1
    exact comparisonSign_eq_none (hn.2 c (by simp))
  cases o with
  | sign chars comparison mem =>
    obtain ⟨c, s, he, hc⟩ := g.exists_cons
    rw [he]
    exact RiskyScan.orElse_eq (RiskyScan.lift_eq (comparisonSign_append mem hc))
  | like word =>
    have hn := word.spelled.isName isWord_like
    refine (RiskyScan.orElse_eq_second (RiskyScan.lift_eq_none (hsign hn))).trans ?_
    exact RiskyScan.orElse_eq
      (comparisonWord_append isWord_like word.spelled g.stops_isNameChar)
  | contains word =>
    have hn := word.spelled.isName isWord_contains
    have hlike : comparisonWord "LIKE" .like (word.chars ++ (g.chars ++ t)) = none := by
      obtain ⟨c, s, he⟩ := List.exists_cons_of_ne_nil hn.1
      have hc : c.toLower = 'C'.toLower := (List.cons.inj (he ▸ word.spelled)).1
      have hk : c ≠ kelvinSign := by
        rintro rfl
        exact absurd hc (by decide)
      rw [he]
      exact comparisonWord_eq_none
        (dropFolded?_cons_of_ne (by decide) (by rw [hc]; decide) fun h => absurd h hk)
    refine (RiskyScan.orElse_eq_second (RiskyScan.lift_eq_none (hsign hn))).trans
      ((RiskyScan.orElse_eq_second hlike).trans ?_)
    exact comparisonWord_append isWord_contains word.spelled g.stops_isNameChar

theorem trimmed_quotation (hq : isQuote quote = true) : Trimmed (quotation quote s) :=
  have h : isBlank quote = false := isBlank_of_isQuote hq
  ⟨stops_cons.mpr h, by simpa [quotation, List.getLast?_cons] using h⟩

theorem isPlain_iff {c : Char} : isPlain c = true ↔ isBlank c = false ∧ isQuote c = false := by
  simp [isPlain]

namespace Literal

variable (l : Literal reserved)

theorem stops_isGap : Stops Text.isGap (l.chars ++ t) := by
  cases l with
  | quoted quote value isQuote free => exact stops_cons.mpr (isGap_of_isQuote isQuote)
  | bare value ne_nil plain free =>
    refine stops_append_of_forall ne_nil fun c hc => Bool.eq_false_iff.mpr fun h => ?_
    cases (isBlank_of_isGap h).symm.trans (isPlain_iff.mp (plain c hc)).1

theorem literal_append (ht : Stops isPlain t) :
    literal (l.chars ++ t) = some (l.value, t) := by
  cases l with
  | quoted quote value isQuote free =>
    simpa [chars, quotation, Literal.value] using literal_quoted isQuote free
  | bare value ne_nil plain free =>
    refine (orElse_eq_second ?_).trans (takeWhile1_append ne_nil plain ht)
    obtain ⟨c, s, rfl⟩ := List.exists_cons_of_ne_nil ne_nil
    have hc := (isPlain_iff.mp (plain c (by simp))).2
    simp only [chars, List.cons_append, Scan.quoted, hc, Bool.false_eq_true, if_false]

theorem trimmed : Trimmed l.chars := by
  cases l with
  | quoted quote value isQuote free => exact trimmed_quotation isQuote
  | bare value ne_nil plain free =>
    have h : ∀ c ∈ value, isBlank c = false := fun c hc => (isPlain_iff.mp (plain c hc)).1
    exact ⟨fun c hc => h c (List.mem_of_mem_head? hc), fun c hc => h c (List.mem_of_getLast? hc)⟩

theorem chars_ne_nil : l.chars ≠ [] := by
  cases l with
  | quoted quote value isQuote free => exact List.cons_ne_nil _ _
  | bare value ne_nil plain free => exact ne_nil

end Literal

namespace Test

variable (p : Test reserved)

def chars : List Char :=
  p.field.chars ++ (p.before.chars ++ (p.operator.chars ++ p.after.chars))

def predicate (value : List Char) : Predicate :=
  ⟨String.ofList p.field.chars, p.operator.comparison, String.ofList value⟩

theorem predicate_append {s value : List Char} (hs : Stops Text.isGap s)
    (h : literal s = some (value, t)) :
    Scan.predicate (p.chars ++ s) = some (.ok (p.predicate value), t) := by
  simp only [chars, List.append_assoc]
  rw [Scan.predicate,
    RiskyScan.lift_bind_eq (name_append p.field.isName p.before.stops_isNameChar),
    RiskyScan.lift_bind_eq (gaps_append p.before.isGap p.operator.stops_isGap),
    RiskyScan.bind_eq (comparison_append p.operator p.after),
    RiskyScan.lift_bind_eq (gaps_append p.after.isGap hs), RiskyScan.lift_bind_eq h]
  rfl

theorem chars_ne_nil : p.chars ≠ [] :=
  List.append_ne_nil_of_left_ne_nil p.field.isName.1 _

/-- What is written behind the comparison ends the whole. -/
theorem trimmed_append {s : List Char} (hs : Trimmed s) (hne : s ≠ []) :
    Trimmed (p.chars ++ s) := by
  have h := p.field.isName.trimmed.between
    (g := p.before.chars ++ (p.operator.chars ++ p.after.chars)) p.field.isName.1 hs hne
  simpa only [chars, List.append_assoc] using h

end Test

namespace Term

variable (p : Term reserved)

def chars : List Char :=
  p.test.chars ++ p.literal.chars

def predicate : Predicate :=
  p.test.predicate p.literal.value

theorem predicate_append (ht : Stops isPlain t) :
    Scan.predicate (p.chars ++ t) = some (.ok p.predicate, t) := by
  rw [chars, List.append_assoc]
  exact p.test.predicate_append p.literal.stops_isGap (p.literal.literal_append ht)

theorem first?_predicate : Scan.predicate.first? p.chars = .ok (some p.predicate) := by
  simpa using RiskyScan.first?_eq (p.predicate_append (t := []) stops_nil)

theorem chars_ne_nil : p.chars ≠ [] :=
  List.append_ne_nil_of_left_ne_nil p.test.chars_ne_nil _

theorem trimmed : Trimmed p.chars :=
  p.test.trimmed_append p.literal.trimmed p.literal.chars_ne_nil

end Term

theorem isWord_direction (d : Direction) : IsWord d.name := by
  cases d <;> decide

namespace Order

variable (o : Order reserved)

def directionChars : List Char :=
  (o.direction.map fun d => d.before.chars ++ d.word.chars).getD []

def chars : List Char :=
  o.field.chars ++ o.directionChars

def key (default : Direction) : SortKey :=
  ⟨String.ofList o.field.chars, (o.direction.map DirectionWord.direction).getD default⟩

theorem stops_directionChars : Stops isNameChar o.directionChars := by
  unfold directionChars
  cases o.direction with
  | none => exact stops_nil
  | some d => exact d.before.stops_isNameChar

theorem trimmed : Trimmed o.chars := by
  unfold chars directionChars
  cases o.direction with
  | none => simpa using o.field.isName.trimmed
  | some d =>
    have hn := d.word.spelled.isName (isWord_direction _)
    exact o.field.isName.trimmed.between o.field.isName.1 hn.trimmed hn.1

theorem direction?_of_spelled {d : Direction} {n : List Char} (h : Spelled d.name n) :
    direction? n = some d := by
  have hne : asciiLower "DESC".toList ≠ asciiLower "asc".toList := by decide
  cases d with
  | asc => exact if_pos (eqIgnoringCase_iff.mpr h)
  | desc =>
    refine (if_neg fun he => hne ?_).trans (if_pos (eqIgnoringCase_iff.mpr h))
    exact h.symm.trans (eqIgnoringCase_iff.mp he)

theorem direction?_directionChars :
    direction? (firstWord o.directionChars) = o.direction.map DirectionWord.direction := by
  unfold directionChars
  cases o.direction with
  | none => rfl
  | some d =>
    have hn := d.word.spelled.isName (isWord_direction _)
    have hword : firstWord (d.before.chars ++ d.word.chars) = d.word.chars := by
      rw [firstWord, trimStart_append d.before.allBlank, trimStart,
        dropWhile_of_stops hn.trimmed.head]
      simpa using takeWhile_append_of_stops (p := fun c => !isBlank c) (t := [])
        (fun c hc => by simp [isBlank_of_isNameChar (hn.2 c hc)]) stops_nil
    exact (congrArg direction? hword).trans (direction?_of_spelled d.word.spelled)

theorem sortKey?_eq (default : Direction) : sortKey? o.chars default = some (o.key default) := by
  rw [sortKey?, o.trimmed.trim_eq, chars, name_append o.field.isName o.stops_directionChars]
  simp only [o.direction?_directionChars, key]

end Order

/-- The phrases begin with reserved words, and not with a word that compares. -/
structure Reserves (reserved : List String) (phrases : List (α × List String)) : Prop
    extends WellFormed phrases where
  covers : ∀ phrase ∈ phrases, ∀ word ∈ phrase.2.head?, word ∈ reserved
  like : FreeOf phrases "LIKE".toList
  contains : FreeOf phrases "CONTAINS".toList

section Passes

variable {phrases : List (α × List String)}

theorem Spacing.passes (hw : WellFormed phrases) (g : Spacing) : Passes phrases g.chars t :=
  passes_of_stops hw fun c hc =>
    ⟨isNameChar_of_isGap (g.isGap c hc), isQuote_of_isGap (g.isGap c hc)⟩

theorem Keyword.passes (hw : WellFormed phrases) (k : Keyword word) (hk : IsWord word)
    (hf : FreeOf phrases word.toList) (ht : Stops isNameChar t) : Passes phrases k.chars t :=
  passes_name hw (k.spelled.isName hk) (hf.of_spelled k.spelled) ht

variable (hr : Reserves reserved phrases)

include hr

theorem Reserves.freeOf {n : List Char} (h : ∀ word ∈ reserved, ¬ Spelled word n) :
    FreeOf phrases n :=
  fun phrase hp word hw => h word (hr.covers phrase hp word hw)

theorem Name.passes (n : Name reserved) (ht : Stops isNameChar t) : Passes phrases n.chars t :=
  passes_name hr.toWellFormed n.isName (hr.freeOf n.free) ht

theorem Operator.passes (o : Operator) (ht : Stops isNameChar t) : Passes phrases o.chars t := by
  cases o with
  | sign chars comparison mem =>
    have h : ∀ p ∈ comparisonSigns, ∀ c ∈ p.1, isNameChar c = false ∧ isQuote c = false := by
      decide +kernel
    exact passes_of_stops hr.toWellFormed (h _ mem)
  | like word => exact word.passes hr.toWellFormed isWord_like hr.like ht
  | contains word => exact word.passes hr.toWellFormed isWord_contains hr.contains ht

theorem Literal.passes (l : Literal reserved) (ht : Stops isNameChar t) :
    Passes phrases l.chars t := by
  cases l with
  | quoted quote value isQuote free => exact passes_quotation isQuote free
  | bare value ne_nil plain free =>
    exact passes_of_nameRuns hr.toWellFormed (fun c hc => (isPlain_iff.mp (plain c hc)).2)
      (fun run hrun => hr.freeOf (free run hrun)) ht

theorem Test.passes (p : Test reserved) : Passes phrases p.chars t := by
  have hw := hr.toWellFormed
  refine (p.field.passes hr ?_).append ((p.before.passes hw).append
    ((p.operator.passes hr p.after.stops_isNameChar).append (p.after.passes hw)))
  simpa only [List.append_assoc] using p.before.stops_isNameChar

/-- No phrase begins in a predicate. -/
theorem Term.passes (p : Term reserved) (ht : Stops isNameChar t) : Passes phrases p.chars t :=
  (p.test.passes hr).append (p.literal.passes hr ht)

theorem Digits.passes (n : Digits) (ht : Stops isNameChar t) : Passes phrases n.chars t :=
  passes_name hr.toWellFormed n.isCount.isName (fun phrase hp _ hw => n.isCount.not_spelled
    (hr.isWord phrase hp _ (List.mem_of_mem_head? hw))) ht

/-- No phrase begins in a sort key, unless with the word for a direction. -/
theorem Order.passes (o : Order reserved) (hf : ∀ d : Direction, FreeOf phrases d.name.toList)
    (ht : Stops isNameChar t) : Passes phrases o.chars t := by
  refine (o.field.passes hr (o.stops_directionChars.append ht)).append ?_
  unfold directionChars
  cases o.direction with
  | none => exact passes_nil
  | some d =>
    exact (d.before.passes hr.toWellFormed).append
      (d.word.passes hr.toWellFormed (isWord_direction _) (hf _) ht)

/-- No phrase begins in a label, unless with the word `AS`. -/
theorem Label.passes (l : Label reserved) (hf : FreeOf phrases "AS".toList)
    (ht : Stops isNameChar t) : Passes phrases l.chars t := by
  have hw := hr.toWellFormed
  refine (l.before.passes hw).append ((l.word.passes hw (by decide) hf ?_).append
    ((l.after.passes hw).append (l.name.passes hr ht)))
  simpa only [List.append_assoc] using l.after.stops_isNameChar

theorem passes_labelChars (label : Option (Label reserved)) (hf : FreeOf phrases "AS".toList)
    (ht : Stops isNameChar t) : Passes phrases (labelChars label) t := by
  cases label with
  | none => exact passes_nil
  | some l => exact l.passes hr hf ht

end Passes

section Unbroken

variable {separator : Char}

theorem neutral_of_isNameChar {c : Char} (h : isNameChar c = true) : Nesting.Neutral c := by
  refine ⟨isQuote_of_isNameChar h, ?_, ?_⟩ <;> rintro rfl
  · cases (isNameChar_of_mem_signs '(' (by decide)).symm.trans h
  · cases (isNameChar_of_mem_signs ')' (by decide)).symm.trans h

theorem neutral_of_isGap {c : Char} (h : isGap c = true) : Nesting.Neutral c := by
  simp only [isGap, Bool.or_eq_true, beq_iff_eq] at h
  rcases h with ((rfl | rfl) | rfl) | rfl <;> decide

/-- A text of names and gaps is not cut. -/
theorem Unbroken.of_words (hn : isNameChar separator = false) (hg : isGap separator = false)
    (hs : ∀ c ∈ s, isNameChar c = true ∨ isGap c = true) : Unbroken separator s := by
  refine .of_neutral (fun c hc => (hs c hc).elim neutral_of_isNameChar neutral_of_isGap) ?_
  intro hc
  rcases hs separator hc with h | h
  · cases hn.symm.trans h
  · cases hg.symm.trans h

theorem neutral_of_isBlank {c : Char} (h : isBlank c = true) : Nesting.Neutral c ∧ c ≠ '|' := by
  have hall : ∀ k ∈ blankCodes, Nesting.Neutral (Char.ofNat k) ∧ Char.ofNat k ≠ '|' := by decide
  simpa using hall _ (mem_blankCodes_of_isBlank h)

theorem Unbroken.of_blanks (hs : AllBlank s) : Unbroken '|' s :=
  .of_neutral (fun c hc => (neutral_of_isBlank (hs c hc)).1) fun hc =>
    (neutral_of_isBlank (hs _ hc)).2 rfl

/-- A field name and a comparison are not cut. -/
theorem Test.unbroken (p : Test reserved) (hn : isNameChar separator = false)
    (hg : isGap separator = false) (hs : ∀ p ∈ comparisonSigns, separator ∉ p.1) :
    Unbroken separator p.chars := by
  have hword : ∀ {s}, IsName s → Unbroken separator s := fun h =>
    .of_words hn hg fun c hc => .inl (h.2 c hc)
  have hgap : ∀ g : Gap, Unbroken separator g.chars := fun g =>
    .of_words hn hg fun c hc => .inr (g.isGap c hc)
  have hoperator : Unbroken separator p.operator.chars := by
    cases p.operator with
    | sign chars comparison mem =>
      have h : ∀ p ∈ comparisonSigns, ∀ c ∈ p.1, Nesting.Neutral c := by decide
      exact .of_neutral (h _ mem) (hs _ mem)
    | like word => exact hword (word.spelled.isName isWord_like)
    | contains word => exact hword (word.spelled.isName isWord_contains)
  exact (hword p.field.isName).append ((hgap p.before).append (hoperator.append (hgap p.after)))

end Unbroken

end LogLab.Query
