import LogLab.Proofs.Query.SearchCommands

/-! # Table pipelines as they are written

The commands of a table pipeline as they are written, behind a table name or not. Each is compiled
to the one operation that it stands for, and commands between bars to their operations in order.
-/

namespace LogLab.Query.Kql

open Scan Text

/-- A name and an equals sign in front of what is named. -/
structure Assigned (reserved : List String) where
  name : Name reserved
  before : Spacing
  after : Spacing

/-- A computed column: a function with its argument, and a name for the result. -/
structure Column where
  label : Option (Assigned ["by"])
  function : Name ["by"]
  argument : Spl.Argument

structure Item where
  label : Option (Assigned [])
  field : Name []

/-- The word `and` behind a predicate, and a text that does not matter. -/
structure Ignored where
  word : Keyword "and"
  text : List Char
  neutral : ∀ c ∈ text, Nesting.Neutral c ∧ c ≠ '|'

inductive Arguments where
  | filter (test : Test []) (value : Spl.SearchValue) (more : Option Ignored)
  | summarize (columns : Joined Unit Column) (group : Name ["by"])
  | project (items : Joined Unit Item)
  | take (count : Digits)
  | sort (preposition : Keyword "by") (gap : Gap) (order : Order [])

variable {ι : Type} {reserved : List String} {separator : Char} {s t g : List Char}

/-- A separator that stands in no name and no gap, and is no sign of a column. -/
structure Separates (separator : Char) : Prop where
  isNameChar : isNameChar separator = false
  isGap : isGap separator = false
  notMem : separator ∉ "=()*".toList

theorem separates_comma : Separates ',' :=
  ⟨isNameChar_of_mem_signs _ (by decide), by decide, by decide⟩

theorem separates_bar : Separates '|' :=
  ⟨isNameChar_of_mem_signs _ (by decide), by decide, by decide⟩

namespace Separates

variable (h : Separates separator)

include h

theorem ne_sign {c : Char} (hc : c ∈ "=()*".toList) : separator ≠ c := by
  rintro rfl
  exact h.notMem hc

theorem unbroken_name (hs : IsName s) : Unbroken separator s :=
  .of_words h.isNameChar h.isGap fun c hc => .inl (hs.2 c hc)

theorem unbroken_spacing (g : Spacing) : Unbroken separator g.chars :=
  .of_words h.isNameChar h.isGap fun c hc => .inr (g.isGap c hc)

theorem unbroken_argument (a : Spl.Argument) : Unbroken separator a.chars := by
  refine unbroken_parenthesized (fun c hc => (a.neutral_inner c hc).1) ?_
  simp only [List.mem_cons, List.mem_append, List.not_mem_nil, or_false]
  rintro (hc | hc | hc)
  · exact h.ne_sign (by decide) hc
  · cases a with
    | empty => cases hc
    | star => exact h.ne_sign (by decide) (List.mem_singleton.mp hc)
    | field name => cases h.isNameChar.symm.trans (name.isName.2 _ hc)
  · exact h.ne_sign (by decide) hc

end Separates

theorem assignment_eq_none {n : List Char} (hn : IsName n) (hname : Stops isNameChar t)
    (hgap : Stops isGap t) (ht : Stops (· == '=') t) : assignment (n ++ t) = none := by
  have hchar : char '=' t = none := by
    cases t with
    | nil => rfl
    | cons c t => exact if_neg (by simpa using ht)
  rw [assignment, bind_eq (name_append hn hname)]
  exact (bind_eq (gaps_append (g := []) (by simp) hgap)).trans (bind_eq_none hchar)

namespace Assigned

variable (a : Assigned reserved)

def chars : List Char :=
  a.name.chars ++ (a.before.chars ++ '=' :: a.after.chars)

theorem stops_sign : Stops isNameChar (a.before.chars ++ '=' :: t) :=
  a.before.stops_isNameChar (stops_cons.mpr (isNameChar_of_mem_signs _ (by decide)))

theorem assignment_append (hs : Stops Text.isGap s) :
    assignment (a.chars ++ s) = some (a.name.chars, s) := by
  simp only [chars, List.append_assoc, List.cons_append]
  rw [assignment, bind_eq (name_append a.name.isName a.stops_sign),
    bind_eq (gaps_append a.before.isGap (stops_cons.mpr rfl)), bind_eq char_cons,
    bind_eq (gaps_append a.after.isGap hs)]
  rfl

theorem unbroken (h : Separates separator) : Unbroken separator a.chars := by
  have hsign : Unbroken separator ['='] :=
    .of_neutral (by decide) fun hc => h.ne_sign (by decide) (List.mem_singleton.mp hc)
  exact (h.unbroken_name a.name.isName).append ((h.unbroken_spacing a.before).append
    (hsign.append (h.unbroken_spacing a.after)))

theorem passes (a : Assigned ["by"]) : Passes byPhrase a.chars t := by
  have hw := wellFormed_byPhrase
  have hsign : isNameChar '=' = false := isNameChar_of_mem_signs _ (by decide)
  refine (a.name.passes Spl.reserves_byPhrase ?_).append
    ((a.before.passes hw).append ((passes_sign hw hsign rfl).append (a.after.passes hw)))
  rw [List.append_assoc]
  exact a.stops_sign

end Assigned

def labelChars (label : Option (Assigned reserved)) : List Char :=
  (label.map Assigned.chars).getD []

def labelName (label : Option (Assigned reserved)) : Option String :=
  label.map fun a => String.ofList a.name.chars

section Label

variable (label : Option (Assigned reserved))

theorem unbroken_labelChars (h : Separates separator) :
    Unbroken separator (labelChars label) := by
  cases label with
  | none => exact ⟨rfl, rfl⟩
  | some a => exact a.unbroken h

theorem trimmed_labelChars_append (hs : Trimmed s) (hne : s ≠ []) :
    Trimmed (labelChars label ++ s) := by
  cases label with
  | none => exact hs
  | some a =>
    have h := a.name.isName.trimmed.between (g := a.before.chars ++ '=' :: a.after.chars)
      a.name.isName.1 hs hne
    simpa only [labelChars, Assigned.chars, Option.map_some, Option.getD_some,
      List.append_assoc] using h

/-- A name in front of a column is found, and a column without one is not taken for a name. -/
theorem maybe_assignment_labelChars {n : List Char} (hn : IsName n) (hname : Stops isNameChar t)
    (hgap : Stops isGap t) (ht : Stops (· == '=') t) :
    maybe assignment (labelChars label ++ (n ++ t)) =
      some (label.map fun a => a.name.chars, n ++ t) := by
  cases label with
  | none =>
    rw [labelChars, Option.map_none, Option.getD_none, List.nil_append]
    exact maybe_eq_none (assignment_eq_none hn hname hgap ht)
  | some a => exact maybe_eq (a.assignment_append (stops_isGap_of_isName hn))

end Label

namespace Column

variable (c : Column)

def call : List Char :=
  c.function.chars ++ c.argument.chars

def chars : List Char :=
  labelChars c.label ++ c.call

/-- The count that the column stands for, if it is a call of `count` without an argument. -/
def count? : Option Aggregate :=
  if Spelled "count" c.function.chars ∧ c.argument.inner = [] then
    some (.countRows (labelName c.label))
  else none

theorem call_ne_nil : c.call ≠ [] :=
  List.append_ne_nil_of_left_ne_nil c.function.isName.1 _

theorem trimmed : Trimmed c.chars := by
  refine trimmed_labelChars_append c.label ?_ c.call_ne_nil
  exact ((isSegment_of_isName c.function.isName).append c.argument.isSegment).trimmed

theorem chars_ne_nil : c.chars ≠ [] :=
  List.append_ne_nil_of_right_ne_nil _ c.call_ne_nil

theorem unbroken (h : Separates separator) : Unbroken separator c.chars :=
  (unbroken_labelChars c.label h).append
    ((h.unbroken_name c.function.isName).append (h.unbroken_argument c.argument))

theorem isSegment : IsSegment c.chars :=
  ⟨c.unbroken separates_bar, c.trimmed, c.chars_ne_nil⟩

theorem passes : Passes byPhrase c.chars t := by
  have hcall : Passes byPhrase c.call t :=
    (c.function.passes Spl.reserves_byPhrase
      (stops_cons.mpr (isNameChar_of_mem_signs _ (by decide)))).append c.argument.passes
  refine Passes.append ?_ hcall
  cases c.label with
  | none => exact passes_nil
  | some a => exact a.passes

theorem isBlank_of_mem_call : ∀ d ∈ c.call, isBlank d = false := by
  have hinner : ∀ d ∈ c.argument.inner, isBlank d = false := by
    cases c.argument with
    | empty => exact fun d hd => nomatch hd
    | star => decide
    | field name => exact fun d hd => isBlank_of_isNameChar (name.isName.2 d hd)
  intro d hd
  simp only [call, Spl.Argument.chars, List.mem_append, List.mem_cons, List.not_mem_nil,
    or_false] at hd
  rcases hd with hd | rfl | hd | rfl
  · exact isBlank_of_isNameChar (c.function.isName.2 d hd)
  · decide
  · exact hinner d hd
  · decide

theorem spelled_call_iff : Spelled "count()" c.call ↔
    Spelled "count" c.function.chars ∧ c.argument.inner = [] := by
  have hopen : isNameChar '(' = false := isNameChar_of_mem_signs _ (by decide)
  constructor
  · intro h
    have hparts : asciiLower "count()".toList = asciiLower "count".toList ++ "()".toList := by
      decide
    obtain ⟨word, signs, hcall, hword, hsigns⟩ : ∃ word signs, c.call = word ++ signs ∧
        Spelled "count" word ∧ asciiLower signs = "()".toList :=
      List.map_eq_append_iff.mp (h.trans hparts)
    obtain ⟨x, signs, rfl, hx, hsigns⟩ := List.map_eq_cons_iff.mp hsigns
    obtain ⟨y, signs, rfl, hy, hsigns⟩ := List.map_eq_cons_iff.mp hsigns
    obtain rfl := List.map_eq_nil_iff.mp hsigns
    obtain rfl : x = '(' := eq_of_toLower_eq hx (by decide)
    obtain rfl : y = ')' := eq_of_toLower_eq hy (by decide)
    obtain ⟨rfl, hrest⟩ := run_unique c.function.isName.2 (stops_cons.mpr hopen)
      (hword.isName (by decide)).2 (stops_cons.mpr hopen) hcall
    exact ⟨hword, by simpa using hrest⟩
  · rintro ⟨hword, hinner⟩
    rw [call, Spl.Argument.chars, hinner, Spelled, asciiLower, List.map_append, ← asciiLower,
      hword]
    decide

theorem countCall?_chars : countCall? c.chars = c.count? := by
  have hassignment := maybe_assignment_labelChars c.label c.function.isName (t := c.argument.chars)
    (stops_cons.mpr (isNameChar_of_mem_signs _ (by decide))) (stops_cons.mpr rfl)
    (stops_cons.mpr rfl)
  have hcall : c.call.filter (fun d => !isBlank d) = c.call :=
    List.filter_eq_self.mpr fun d hd => by simp [c.isBlank_of_mem_call d hd]
  have hcount : eqIgnoringCase c.call "count()".toList = true ↔
      Spelled "count" c.function.chars ∧ c.argument.inner = [] :=
    eqIgnoringCase_iff.trans c.spelled_call_iff
  rw [countCall?, c.trimmed.trim_eq, chars, call, hassignment]
  dsimp only
  rw [← call, hcall]
  unfold count?
  split
  · next h => rw [if_pos (hcount.mp h), labelName, Option.map_map]; rfl
  · next h => rw [if_neg fun hc => h (hcount.mpr hc)]

end Column

namespace Item

variable (i : Item)

def chars : List Char :=
  labelChars i.label ++ i.field.chars

def projection : Projection :=
  ⟨String.ofList i.field.chars, labelName i.label⟩

theorem trimmed : Trimmed i.chars :=
  trimmed_labelChars_append i.label i.field.isName.trimmed i.field.isName.1

theorem chars_ne_nil : i.chars ≠ [] :=
  List.append_ne_nil_of_right_ne_nil _ i.field.isName.1

theorem unbroken (h : Separates separator) : Unbroken separator i.chars :=
  (unbroken_labelChars i.label h).append (h.unbroken_name i.field.isName)

theorem isSegment : IsSegment i.chars :=
  ⟨i.unbroken separates_bar, i.trimmed, i.chars_ne_nil⟩

theorem readColumn_chars : readColumn i.chars = i.projection := by
  have hname : name i.field.chars = some (i.field.chars, []) := name_eq i.field.isName
  rw [readColumn, i.trimmed.trim_eq, chars, projection, labelName]
  cases i.label with
  | none =>
    have h := assignment_eq_none (t := []) i.field.isName stops_nil stops_nil stops_nil
    rw [List.append_nil] at h
    rw [labelChars, Option.map_none, Option.getD_none, List.nil_append, whole?, renamed,
      bind_eq_none h]
    rfl
  | some a =>
    have hgap : Stops isGap i.field.chars := by simpa using i.field.stops_isGap (t := [])
    rw [labelChars, Option.map_some, Option.getD_some, whole?, renamed,
      bind_eq (a.assignment_append hgap), bind_eq hname]
    rfl

end Item

section Items

variable {item : ι → List Char} (items : Joined Unit ι)

def itemsChars (item : ι → List Char) : List Char :=
  items.chars (fun _ => ", ".toList) item

theorem isSegment_itemsChars (hitem : ∀ i, IsSegment (item i)) :
    IsSegment (itemsChars items item) :=
  items.isSegment (fun _ => ⟨by decide, by decide⟩) hitem

variable (hitem : ∀ i, Unbroken ',' (item i) ∧ Trimmed (item i)) (hg : AllBlank g)
  (hunbroken : Unbroken ',' g)

include hitem hg hunbroken

theorem map_trim_splitTopLevel :
    (splitTopLevel ',' (itemsChars items item ++ g)).map trim = items.items.map item := by
  unfold itemsChars
  induction items with
  | single i =>
    rw [Joined.chars_single, ((hitem i).1.append hunbroken).split, List.map_singleton,
      trim_append_blank hg, (hitem i).2.trim_eq]
    rfl
  | cons i x items ih =>
    have hspace : Unbroken ',' [' '] := ⟨by decide, by decide⟩
    have hsplit := (hitem i).1.splitTopLevel_cons (by decide) (by decide)
      (t := [' '] ++ (items.chars (fun _ => ", ".toList) item ++ g))
    rw [hspace.splitTopLevel_append] at hsplit
    rw [Joined.chars_cons, List.append_assoc, List.append_assoc]
    refine (congrArg (List.map trim) hsplit).trans ?_
    rw [List.map_cons, (hitem i).2.trim_eq, map_trim_modifyHead (by decide), ih]
    rfl

theorem map_trim_listItems (hne : ∀ i, item i ≠ []) :
    (listItems (itemsChars items item ++ g)).map trim = items.items.map item := by
  have hpieces := map_trim_splitTopLevel items hitem hg hunbroken
  have hall : ∀ piece ∈ splitTopLevel ',' (itemsChars items item ++ g),
      (!(trim piece).isEmpty) = true := by
    intro piece hpiece
    obtain ⟨i, -, hi⟩ := List.mem_map.mp (hpieces ▸ List.mem_map_of_mem hpiece)
    simpa [← hi] using hne i
  rw [listItems, List.filter_eq_self.mpr hall, hpieces]

/-- Items are read one by one, by a reader that does not look at the blanks around them. -/
theorem map_listItems {β : Type} {read : List Char → β} {value : ι → β}
    (hne : ∀ i, item i ≠ []) (htrim : ∀ s, read (trim s) = read s)
    (hread : ∀ i, read (item i) = value i) :
    (listItems (itemsChars items item ++ g)).map read = items.items.map value := by
  have hitems := map_trim_listItems items hitem hg hunbroken hne
  calc (listItems (itemsChars items item ++ g)).map read
      = ((listItems (itemsChars items item ++ g)).map trim).map read := by
        rw [List.map_map]
        exact congrArg (List.map · _) (funext htrim).symm
    _ = (items.items.map item).map read := by rw [hitems]
    _ = items.items.map value := by
        rw [List.map_map]
        exact congrArg (List.map · _) (funext hread)

end Items

theorem summarize?_chars (columns : Joined Unit Column) (group : Name ["by"]) :
    summarize? (itemsChars columns Column.chars ++ (" by ".toList ++ group.chars)) =
      some (.group ⟨some (String.ofList group.chars), columns.items.filterMap Column.count?⟩) := by
  have hpasses : ∀ t, Stops isNameChar t → Passes byPhrase (itemsChars columns Column.chars) t :=
    fun t ht => columns.passes
      (fun _ _ => passes_of_stops wellFormed_byPhrase (by decide +kernel))
      (fun _ _ => stops_cons.mpr (isNameChar_of_mem_signs _ (by decide)))
      (fun c _ _ => c.passes) ht
  have hsplit := splitPhrase_by hpasses group.isName (group.free "by" (by simp))
  have hcolumns := map_listItems columns (g := [' '])
    (fun c => ⟨c.unbroken separates_comma, c.trimmed⟩) (by decide) ⟨by decide, by decide⟩
    Column.chars_ne_nil (fun s => by rw [countCall?, trim_trim, countCall?]) Column.countCall?_chars
  have hcounts : (listItems (itemsChars columns Column.chars ++ [' '])).filterMap countCall? =
      columns.items.filterMap Column.count? := by
    simpa only [List.filterMap_map, Function.id_comp] using congrArg (List.filterMap id) hcolumns
  rw [summarize?, hsplit]
  simp only [first?_name_trim group.isName, hcounts, Option.map_some]

theorem project?_chars (items : Joined Unit Item) :
    project? (itemsChars items Item.chars) =
      some (.project (items.items.map Item.projection)) := by
  have hcolumns := map_listItems items (g := [])
    (fun i => ⟨i.unbroken separates_comma, i.trimmed⟩) allBlank_nil ⟨rfl, rfl⟩ Item.chars_ne_nil
    (fun s => by rw [readColumn, trim_trim, readColumn]) Item.readColumn_chars
  rw [List.append_nil] at hcolumns
  have hne : (listItems (itemsChars items Item.chars)).isEmpty = false := by
    rw [← List.isEmpty_map (f := readColumn), hcolumns]
    rfl
  rw [project?, hne, if_neg Bool.false_ne_true, hcolumns]

namespace Ignored

def chars (i : Ignored) : List Char :=
  ' ' :: (i.word.chars ++ ' ' :: i.text)

theorem neutral_chars (i : Ignored) : ∀ c ∈ i.chars, Nesting.Neutral c ∧ c ≠ '|' := by
  have hspace : Nesting.Neutral ' ' ∧ ' ' ≠ '|' := by decide
  intro c hc
  simp only [chars, List.mem_cons, List.mem_append] at hc
  rcases hc with rfl | hc | rfl | hc
  · exact hspace
  · have hn := (i.word.spelled.isName (by decide)).2 c hc
    refine ⟨neutral_of_isNameChar hn, ?_⟩
    rintro rfl
    cases (isNameChar_of_mem_signs '|' (by decide)).symm.trans hn
  · exact hspace
  · exact i.neutral c hc

end Ignored

def ignoredChars (more : Option Ignored) : List Char :=
  (more.map Ignored.chars).getD []

theorem unbroken_ignoredChars (more : Option Ignored) : Unbroken '|' (ignoredChars more) := by
  cases more with
  | none => exact ⟨rfl, rfl⟩
  | some i =>
    exact .of_neutral (fun c hc => (i.neutral_chars c hc).1) fun hc => (i.neutral_chars _ hc).2 rfl

theorem stops_ignoredChars (more : Option Ignored) : Stops isPlain (ignoredChars more) := by
  cases more with
  | none => exact stops_nil
  | some i => exact stops_cons.mpr (by decide)

def term (test : Test []) (value : Spl.SearchValue) : Term [] :=
  ⟨test, value.literal⟩

theorem isSegment_term (test : Test []) (value : Spl.SearchValue) :
    IsSegment (term test value).chars :=
  ⟨(test.unbroken (isNameChar_of_mem_signs '|' (by decide)) rfl (by decide)).append
    value.isSegment.unbroken, (term test value).trimmed, (term test value).chars_ne_nil⟩

/-- Only the predicate at the start of a filter counts. -/
theorem filter?_chars (test : Test []) (value : Spl.SearchValue) (more : Option Ignored) :
    filter? ((term test value).chars ++ ignoredChars more) =
      .ok (some (.filter ⟨[test.predicate value.literal.value]⟩)) := by
  have htrim := (isSegment_term test value).trimmed.trim_append (t := ignoredChars more)
    (term test value).chars_ne_nil
  have hpredicate := (term test value).predicate_append (stops_ignoredChars more).trimEnd
  rw [filter?, htrim, RiskyScan.first?_eq hpredicate]
  rfl

theorem sort?_chars (preposition : Keyword "by") (gap : Gap) (order : Order []) :
    sort? (preposition.chars ++ (gap.chars ++ order.chars)) = some (.sort (order.key .asc)) := by
  have hkey : sortKey? (gap.chars ++ order.chars) .asc = some (order.key .asc) := by
    rw [← order.sortKey?_eq .asc, sortKey?, sortKey?, trim_blank_append gap.allBlank]
  rw [sort?, keyword_append preposition.spelled gap.stops_isNameChar]
  dsimp only
  rw [hkey, Option.map_some]

namespace Arguments

variable (a : Arguments)

def word : Arguments → String
  | filter .. => "where"
  | summarize .. => "summarize"
  | project _ => "project"
  | take _ => "take"
  | sort .. => "sort"

def chars : Arguments → List Char
  | filter test value more => (term test value).chars ++ ignoredChars more
  | summarize columns group => itemsChars columns Column.chars ++ (" by ".toList ++ group.chars)
  | project items => itemsChars items Item.chars
  | take count => count.chars
  | sort preposition gap order => preposition.chars ++ (gap.chars ++ order.chars)

def operation : Arguments → Operation
  | filter test value _ => .filter ⟨[test.predicate value.literal.value]⟩
  | summarize columns group =>
    .group ⟨some (String.ofList group.chars), columns.items.filterMap Column.count?⟩
  | project items => .project (items.items.map Item.projection)
  | take count => .limit ⟨UInt64.ofNat (Numeral.digitsValue count.chars), .head⟩
  | sort _ _ order => .sort (order.key .asc)

theorem word_mem : a.word ∈ commands := by
  cases a <;> simp [word, commands]

theorem isWord_word : IsWord a.word := by
  have h : ∀ word ∈ commands, IsWord word := by decide
  exact h _ a.word_mem

theorem asciiLower_word : asciiLower a.word.toList = a.word.toList := by
  have h : ∀ word ∈ commands, asciiLower word.toList = word.toList := by decide
  exact h _ a.word_mem

/-- Arguments are trimmed, apart from what stands behind the predicate of a filter. -/
theorem isSegment_or_filter : IsSegment a.chars ∨
    ∃ test value more, a = filter test value more := by
  cases a with
  | filter test value more => exact .inr ⟨test, value, more, rfl⟩
  | summarize columns group =>
    refine .inl ((isSegment_itemsChars columns Column.isSegment).between ?_
      (isSegment_of_isName group.isName))
    exact ⟨by decide, by decide⟩
  | project items => exact .inl (isSegment_itemsChars items Item.isSegment)
  | take count => exact .inl (isSegment_of_isName count.isCount.isName)
  | sort preposition gap order =>
    exact .inl ((isSegment_of_isName (preposition.spelled.isName (by decide))).between
      (.of_blanks gap.allBlank) order.isSegment)

theorem unbroken : Unbroken '|' a.chars := by
  obtain h | ⟨test, value, more, rfl⟩ := a.isSegment_or_filter
  · exact h.unbroken
  · exact (isSegment_term test value).unbroken.append (unbroken_ignoredChars more)

theorem operation?_chars : operation? a.word.toList a.chars = .ok (some a.operation) := by
  cases a <;> rw [word]
  case filter test value more => exact filter?_chars test value more
  case summarize columns group => exact congrArg Except.ok (summarize?_chars columns group)
  case project items => exact congrArg Except.ok (project?_chars items)
  case take count =>
    exact congrArg (Except.ok ∘ Option.map fun n => Operation.limit ⟨n, .head⟩)
      count.isCount.count?_eq
  case sort preposition gap order => exact congrArg Except.ok (sort?_chars preposition gap order)

theorem operation?_trim :
    operation? a.word.toList (trim a.chars) = .ok (some a.operation) := by
  rw [← a.operation?_chars]
  obtain h | ⟨test, value, more, rfl⟩ := a.isSegment_or_filter
  · rw [h.trimmed.trim_eq]
  · rw [word]
    change filter? (trim _) = filter? _
    rw [filter?, trim_trim, ← filter?]

end Arguments

/-- A command as it is written: its word in some letter case, and its arguments behind a space. -/
structure Command where
  arguments : Arguments
  word : Keyword arguments.word

namespace Command

variable (c : Command)

def chars : List Char :=
  c.word.chars ++ ' ' :: c.arguments.chars

def operation : Operation :=
  c.arguments.operation

theorem isName_word : IsName c.word.chars :=
  c.word.spelled.isName c.arguments.isWord_word

theorem unbroken : Unbroken '|' c.chars :=
  (separates_bar.unbroken_name c.isName_word).append (unbroken_space.append c.arguments.unbroken)

theorem trim_chars_ne_nil : trim c.chars ≠ [] := by
  rw [chars, c.isName_word.trimmed.trim_append c.isName_word.1]
  exact List.append_ne_nil_of_left_ne_nil c.isName_word.1 _

theorem readSegment?_trim_chars : readSegment? (trim c.chars) = .ok (some c.operation) := by
  have hword : asciiLower c.word.chars = c.arguments.word.toList :=
    c.word.spelled.trans c.arguments.asciiLower_word
  have hcommand : command (trim c.chars) = (c.arguments.word.toList, trim c.arguments.chars) := by
    rw [command, trim_trim, ← command, chars, command_append_args c.isName_word, hword]
  rw [readSegment?, hcommand]
  exact c.arguments.operation?_trim

end Command

/-- Commands between bars are compiled to their operations, one for each, in order, with the name
of a table in front of them or not. -/
theorem compile_commands (table : Option (Name [])) (commands : List Command) :
    compile (joinBars ((table.map Name.chars).toList ++ commands.map Command.chars)) =
      .ok ⟨commands.map Command.operation⟩ := by
  have htable : ∀ s ∈ (table.map Name.chars).toList, IsName s := by
    intro s hs
    obtain ⟨n, -, rfl⟩ := Option.map_eq_some_iff.mp (Option.mem_toList.mp hs)
    exact n.isName
  have hsegments : ∀ s ∈ (table.map Name.chars).toList ++ commands.map Command.chars,
      Unbroken '|' s ∧ trim s ≠ [] := by
    intro s hs
    rcases List.mem_append.mp hs with hs | hs
    · have hn := htable s hs
      exact ⟨separates_bar.unbroken_name hn, hn.trimmed.trim_eq.symm ▸ hn.1⟩
    · obtain ⟨c, -, rfl⟩ := List.mem_map.mp hs
      exact ⟨c.unbroken, c.trim_chars_ne_nil⟩
  -- A table name is read as a command without arguments, which stands for no operation.
  have hskip : ∀ s ∈ (table.map Name.chars).toList, readSegment? (trim s) = .ok none := by
    intro s hs
    rw [(htable s hs).trimmed.trim_eq, readSegment?, command_of_isName (htable s hs),
      operation?_nil]
  refine compile_eq ?_
  rw [splitPipeline_joinBars_trim hsegments, filterMapM_map, filterMapM_append, filterMapM_map,
    filterMapM_of_forall_ok hskip, List.filterMap_eq_nil_iff.mpr fun _ _ => rfl,
    filterMapM_eq_map fun c _ => Command.readSegment?_trim_chars c]
  rfl

-- A bar in a value, a text that is ignored, a name for a count, and a function that does not count.
example : ∃ (table : Name []) (commands : List Command),
    joinBars (table.chars :: commands.map Command.chars) =
      "logs | WHERE user == 'a|b' and x | summarize n = Count(), dcount(src) by host".toList :=
  ⟨⟨"logs".toList, by decide, by decide⟩,
    [⟨.filter ⟨⟨"user".toList, by decide, by decide⟩, .space, .sign "==".toList .eq (by decide),
        .space⟩ (.quoted ⟨'\x27', "a|b".toList, rfl, by decide⟩)
          (some ⟨⟨"and".toList, by decide⟩, "x".toList, by decide⟩), ⟨"WHERE".toList, by decide⟩⟩,
      ⟨.summarize ⟨⟨some ⟨⟨"n".toList, by decide, by decide⟩, Gap.space.toSpacing,
          Gap.space.toSpacing⟩, ⟨"Count".toList, by decide, by decide⟩, .empty⟩,
          [((), ⟨none, ⟨"dcount".toList, by decide, by decide⟩, .field ⟨"src".toList, by decide,
            by decide⟩⟩)]⟩ ⟨"host".toList, by decide, by decide⟩, .given "summarize"⟩],
    by decide⟩

end LogLab.Query.Kql
