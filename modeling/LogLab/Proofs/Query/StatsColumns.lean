import LogLab.Proofs.Query.Segments

/-! # Computed columns

The columns of a counting command as they are written: functions with or without an argument and a
name, and commas between them. The counts among them are read in order, and each of the others is
passed over as a whole.
-/

namespace LogLab.Query.Spl

open Scan Text

inductive Argument where
  | empty
  | star
  | field (name : Name ["by"])

structure Column where
  function : Name ["by"]
  argument : Option Argument
  label : Option (Label ["by"])

/-- What stands behind a column: a comma, or the space in front of `by`. -/
inductive ColumnEnd : List Char → Prop where
  | last : ColumnEnd [' ']
  | next {t : List Char} : ColumnEnd (',' :: t)

variable {s t : List Char}

theorem isItemGap_of_isNameChar {c : Char} (h : isNameChar c = true) : isItemGap c = false := by
  have hcomma : c ≠ ',' := by
    rintro rfl
    cases (isNameChar_of_mem_signs ',' (by decide)).symm.trans h
  simp [isItemGap, isBlank_of_isNameChar h, hcomma]

theorem reserves_byPhrase : Reserves ["by"] byPhrase where
  toWellFormed := wellFormed_byPhrase
  covers := by decide
  like := by decide
  contains := by decide

namespace ColumnEnd

variable (ht : ColumnEnd t)

include ht

theorem stops_isNameChar : Stops isNameChar t := by
  cases ht <;> exact stops_cons.mpr (isNameChar_of_mem_signs _ (by decide))

theorem labelSuffix_eq_none : labelSuffix t = none := by
  cases ht with
  | last => decide +kernel
  | next => exact bind_eq_none rfl

theorem maybe_labelSuffix {label : Option (Label ["by"])} :
    maybe labelSuffix (labelChars label ++ t) = some (label.map fun l => l.name.chars, t) :=
  Query.maybe_labelSuffix label ht.labelSuffix_eq_none ht.stops_isNameChar

theorem gaps_parenthesized_eq_none : (do gaps; parenthesized) t = none := by
  cases ht <;> rfl

theorem parenthesized_eq_none : parenthesized t = none := by
  cases ht <;> rfl

end ColumnEnd

namespace Argument

variable (a : Argument)

def inner : Argument → List Char
  | empty => []
  | star => ['*']
  | field name => name.chars

def chars : List Char :=
  '(' :: (a.inner ++ [')'])

theorem neutral_inner : ∀ c ∈ a.inner, Nesting.Neutral c ∧ c ≠ '|' := by
  intro c hc
  cases a with
  | empty => cases hc
  | star =>
    obtain rfl := List.mem_singleton.mp hc
    decide
  | field name =>
    have hn := name.isName.2 c hc
    refine ⟨neutral_of_isNameChar hn, ?_⟩
    rintro rfl
    cases (isNameChar_of_mem_signs '|' (by decide)).symm.trans hn

theorem parenthesized_append : parenthesized (a.chars ++ t) = some (a.inner, t) := by
  have hclose : ')' ∉ a.inner := fun hc => (a.neutral_inner _ hc).1.2.2 rfl
  rw [chars, List.cons_append, List.append_assoc, List.singleton_append, parenthesized,
    bind_eq char_cons, upTo_append hclose]

theorem isSegment : IsSegment a.chars where
  unbroken := unbroken_parenthesized (fun c hc => (a.neutral_inner c hc).1) fun hmem => by
    simp only [List.mem_cons, List.mem_append, List.not_mem_nil, or_false] at hmem
    rcases hmem with hmem | hmem | hmem
    · cases hmem
    · exact (a.neutral_inner _ hmem).2 rfl
    · cases hmem
  trimmed := ⟨stops_cons.mpr rfl, by simp [chars, List.getLast?_cons]; decide⟩
  ne_nil := List.cons_ne_nil _ _

theorem passes : Passes byPhrase a.chars t := by
  have hw := wellFormed_byPhrase
  have hclose : ∀ t, Passes byPhrase [')'] t := fun _ =>
    passes_sign hw (isNameChar_of_mem_signs _ (by decide)) rfl
  have hinner : Passes byPhrase a.inner ([')'] ++ t) := by
    cases a with
    | empty => exact passes_nil
    | star => exact passes_sign hw (isNameChar_of_mem_signs _ (by decide)) rfl
    | field name =>
      exact name.passes reserves_byPhrase
        (stops_cons.mpr (isNameChar_of_mem_signs _ (by decide)))
  exact (passes_sign hw (isNameChar_of_mem_signs '(' (by decide)) rfl).append
    (hinner.append (hclose t))

end Argument

def argumentChars (argument : Option Argument) : List Char :=
  (argument.map Argument.chars).getD []

theorem parenthesized_eq_none (hs : Stops (· == '(') s) : parenthesized s = none := by
  cases s with
  | nil => rfl
  | cons c s => exact bind_eq_none (if_neg (by simpa using hs))

theorem stops_open_of_neutral (hne : s ≠ []) (hs : ∀ c ∈ s, Nesting.Neutral c) :
    Stops (· == '(') (s ++ t) :=
  stops_append_of_forall hne fun c hc => by simpa using (hs c hc).2.1

section Optional

variable (label : Option (Label ["by"])) (argument : Option Argument) (ht : ColumnEnd t)

theorem isSegment_append_labelChars (hs : IsSegment s) : IsSegment (s ++ labelChars label) := by
  cases label with
  | none => simpa [labelChars] using hs
  | some l =>
    have hg : Unbroken '|' (l.before.chars ++ (l.word.chars ++ l.after.chars)) := by
      refine .of_words (isNameChar_of_mem_signs _ (by decide)) rfl fun c hc => ?_
      simp only [List.mem_append] at hc
      rcases hc with hc | hc | hc
      · exact .inr (l.before.isGap c hc)
      · exact .inl ((l.word.spelled.isName (by decide)).2 c hc)
      · exact .inr (l.after.isGap c hc)
    have h := hs.between hg (isSegment_of_isName l.name.isName)
    simpa only [labelChars, Label.chars, Option.map_some, Option.getD_some,
      List.append_assoc] using h

theorem isSegment_append_argumentChars (hs : IsSegment s) :
    IsSegment (s ++ argumentChars argument) := by
  cases argument with
  | none => simpa [argumentChars] using hs
  | some a => exact hs.append a.isSegment

theorem stops_argumentChars (ht : Stops isNameChar t) :
    Stops isNameChar (argumentChars argument ++ t) := by
  cases argument with
  | none => exact ht
  | some a => exact stops_cons.mpr (isNameChar_of_mem_signs _ (by decide))

theorem passes_argumentChars : Passes byPhrase (argumentChars argument) t := by
  cases argument with
  | none => exact passes_nil
  | some a => exact a.passes

include ht

theorem gaps_parenthesized_labelChars :
    (do gaps; parenthesized) (labelChars label ++ t) = none := by
  cases label with
  | none => exact ht.gaps_parenthesized_eq_none
  | some l =>
    have hn := l.word.spelled.isName (by decide)
    simp only [labelChars, Option.map_some, Option.getD_some, Label.chars, List.append_assoc]
    rw [bind_eq (gaps_append l.before.isGap (l.word.stops_isGap (by decide)))]
    exact parenthesized_eq_none
      (stops_open_of_neutral hn.1 fun c hc => neutral_of_isNameChar (hn.2 c hc))

theorem parenthesized_labelChars : parenthesized (labelChars label ++ t) = none := by
  cases label with
  | none => exact ht.parenthesized_eq_none
  | some l =>
    simp only [labelChars, Option.map_some, Option.getD_some, Label.chars, List.append_assoc]
    exact parenthesized_eq_none
      (stops_open_of_neutral l.before.ne_nil fun c hc => neutral_of_isGap (l.before.isGap c hc))

/-- An argument is passed over, with gaps in front of it allowed or not. -/
theorem maybe_argumentChars : ∃ found,
    maybe (do gaps; parenthesized) (argumentChars argument ++ (labelChars label ++ t)) =
        some (found, labelChars label ++ t) ∧
      maybe parenthesized (argumentChars argument ++ (labelChars label ++ t)) =
        some (found, labelChars label ++ t) := by
  cases argument with
  | none =>
    exact ⟨none, maybe_eq_none (gaps_parenthesized_labelChars label ht),
      maybe_eq_none (parenthesized_labelChars label ht)⟩
  | some a =>
    have h := a.parenthesized_append (t := labelChars label ++ t)
    exact ⟨some a.inner, maybe_eq ((bind_eq rfl).trans h), maybe_eq h⟩

end Optional

theorem stops_function (label : Option (Label ["by"])) (argument : Option Argument)
    (ht : ColumnEnd t) :
    Stops (fun d => !isBlank d && d != ',' && d != '(')
      (argumentChars argument ++ (labelChars label ++ t)) := by
  cases argument with
  | some a => exact stops_cons.mpr rfl
  | none =>
    cases label with
    | none => cases ht <;> exact stops_cons.mpr rfl
    | some l =>
      simp only [argumentChars, labelChars, Option.map_some, Option.map_none, Option.getD_some,
        Option.getD_none, Label.chars, List.append_assoc, List.nil_append]
      exact stops_append_of_forall l.before.ne_nil fun c hc => by
        simp [isBlank_of_isGap (l.before.isGap c hc)]

namespace Column

variable (c : Column)

def chars : List Char :=
  c.function.chars ++ (argumentChars c.argument ++ labelChars c.label)

def name : Option String :=
  c.label.map fun l => String.ofList l.name.chars

/-- The count that the column stands for, if its function is `count` in any letter case. -/
def count? : Option Aggregate :=
  if Spelled "count" c.function.chars then some (.countRows c.name) else none

theorem isSegment : IsSegment c.chars := by
  rw [chars, ← List.append_assoc]
  exact isSegment_append_labelChars c.label
    (isSegment_append_argumentChars c.argument (isSegment_of_isName c.function.isName))

theorem passes (ht : Stops isNameChar t) : Passes byPhrase c.chars t := by
  have hlabel := stops_labelChars c.label ht
  refine (c.function.passes reserves_byPhrase ?_).append
    ((passes_argumentChars c.argument).append
      (passes_labelChars reserves_byPhrase c.label (by decide) ht))
  rw [List.append_assoc]
  exact stops_argumentChars c.argument hlabel

variable {c} (ht : ColumnEnd t)

include ht

theorem countItem_append (hc : Spelled "count" c.function.chars) :
    countItem (c.chars ++ t) = some (.countRows c.name, t) := by
  have hstops := stops_argumentChars c.argument (stops_labelChars c.label ht.stops_isNameChar)
  obtain ⟨found, hfound, -⟩ := maybe_argumentChars c.label c.argument ht
  rw [chars, List.append_assoc, List.append_assoc, countItem, bind_eq (keyword_append hc hstops),
    countSuffix, bind_eq hfound, bind_eq ht.maybe_labelSuffix]
  rw [name, pure_eq, Option.map_map]
  rfl

theorem countItem_eq_none (hc : ¬ Spelled "count" c.function.chars) :
    countItem (c.chars ++ t) = none := by
  have hstops := stops_argumentChars c.argument (stops_labelChars c.label ht.stops_isNameChar)
  rw [chars, List.append_assoc, List.append_assoc]
  exact bind_eq_none (keyword_eq_none_of_isName (by decide) c.function.isName hstops hc)

/-- A column is passed over as a whole, with its argument and its name. -/
theorem skipItem_append {d : Char} {ds : List Char} (hd : c.function.chars = d :: ds) :
    skipItem d (ds ++ (argumentChars c.argument ++ (labelChars c.label ++ t))) = t := by
  have hname := hd ▸ c.function.isName.2
  rw [List.forall_mem_cons] at hname
  have hfunction : ∀ e ∈ ds, (!isBlank e && e != ',' && e != '(') = true := by
    intro e he
    have hgap := isItemGap_of_isNameChar (hname.2 e he)
    rw [isItemGap, Bool.or_eq_false_iff] at hgap
    simp [hgap.1, bne, hgap.2, (neutral_of_isNameChar (hname.2 e he)).2.1]
  have hstops := stops_function c.label c.argument ht
  have htake : takeWhile (fun e => !isBlank e && e != ',' && e != '(')
      (ds ++ (argumentChars c.argument ++ (labelChars c.label ++ t))) =
      some (ds, argumentChars c.argument ++ (labelChars c.label ++ t)) := by
    rw [takeWhile, takeWhile_append_of_stops hfunction hstops,
      dropWhile_append_of_stops hfunction hstops]
  obtain ⟨found, -, hfound⟩ := maybe_argumentChars c.label c.argument ht
  have hitem : otherItem d (ds ++ (argumentChars c.argument ++ (labelChars c.label ++ t))) =
      some ((), t) := by
    rw [otherItem, if_neg (neutral_of_isNameChar hname.1).2.1, bind_eq htake, bind_eq hfound]
    exact bind_eq ht.maybe_labelSuffix
  rw [skipItem, hitem]
  rfl

/-- A column at the front of computed columns gives the count that it stands for, or nothing. -/
theorem countItems_append {g : List Char} (hg : ∀ d ∈ g, isItemGap d = true) :
    countItems (g ++ (c.chars ++ t)) = c.count?.toList ++ countItems t := by
  obtain ⟨d, ds, hd⟩ := List.exists_cons_of_ne_nil c.function.isName.1
  have hchars : c.chars ++ t =
      d :: (ds ++ (argumentChars c.argument ++ (labelChars c.label ++ t))) := by
    rw [chars, hd, List.cons_append, List.cons_append, List.append_assoc, List.append_assoc]
  have hgap : isItemGap d = false := isItemGap_of_isNameChar (c.function.isName.2 d (by simp [hd]))
  have hdrop : (g ++ (c.chars ++ t)).dropWhile isItemGap =
      d :: (ds ++ (argumentChars c.argument ++ (labelChars c.label ++ t))) := by
    rw [hchars, dropWhile_append_of_stops hg (stops_cons.mpr hgap)]
  by_cases hc : Spelled "count" c.function.chars
  · have hitem := countItem_append ht hc
    rw [hchars] at hitem
    rw [countItems_eq_cons hdrop hitem, count?, if_pos hc]
    rfl
  · have hitem := countItem_eq_none ht hc
    rw [hchars] at hitem
    rw [countItems_eq_skip hdrop hitem, skipItem_append ht hd, count?, if_neg hc]
    rfl

end Column

/-- Columns with commas between them. -/
abbrev Columns := Joined Unit Column

namespace Columns

variable (columns : Columns)

def chars : List Char :=
  Joined.chars columns (fun _ => ", ".toList) Column.chars

def counts : List Aggregate :=
  columns.items.filterMap Column.count?

theorem isSegment : IsSegment columns.chars :=
  Joined.isSegment columns (fun _ => ⟨by decide, by decide⟩) Column.isSegment

theorem passes (ht : Stops isNameChar t) : Passes byPhrase columns.chars t :=
  Joined.passes columns
    (fun _ _ => passes_of_stops wellFormed_byPhrase (by decide +kernel))
    (fun _ _ => stops_cons.mpr (isNameChar_of_mem_signs _ (by decide)))
    (fun c _ ht => c.passes ht) ht

theorem countItems_append_chars {g : List Char} (hg : ∀ d ∈ g, isItemGap d = true) :
    countItems (g ++ (columns.chars ++ [' '])) = columns.counts := by
  unfold chars counts
  -- A count or a column that is passed over leaves the comma behind it: `g` is that comma.
  induction columns using Joined.ind generalizing g with
  | single c =>
    rw [Joined.chars_single, Column.countItems_append .last hg, countItems_eq_nil (by decide)]
    cases hc : c.count? <;> simp [hc]
  | cons c x columns ih =>
    have hend : ColumnEnd (", ".toList ++
        (columns.chars (fun _ => ", ".toList) Column.chars ++ [' '])) := .next
    rw [Joined.chars_cons, List.append_assoc, List.append_assoc, Column.countItems_append hend hg,
      ih (g := ", ".toList) (by decide)]
    cases hc : c.count? <;> simp [hc]

theorem stats?_chars (group : Name ["by"]) :
    stats? (columns.chars ++ (" by ".toList ++ group.chars)) =
      some (.group ⟨some (String.ofList group.chars), columns.counts⟩) := by
  have hsplit := splitPhrase_by (s := columns.chars) (fun _ ht => columns.passes ht) group.isName
    (group.free "by" (by simp))
  have hcounts : countItems (columns.chars ++ [' ']) = columns.counts :=
    columns.countItems_append_chars (g := []) (by simp)
  rw [stats?, hsplit]
  simp only [first?_name_trim group.isName, hcounts, Option.map_some]

end Columns

end LogLab.Query.Spl
