import LogLab.Proofs.Query.Sections
import LogLab.Query.Sql

/-! # Select lists

The entries of a select list as they are written. Each is read as what it stands for, and the list
is cut at the commas between them.
-/

namespace LogLab.Query

open Scan Text

variable {s t : List Char}

theorem isNameChar_comma : isNameChar ',' = false := isNameChar_of_mem_signs _ (by decide)
theorem isNameChar_star : isNameChar '*' = false := isNameChar_of_mem_signs _ (by decide)
theorem isNameChar_open : isNameChar '(' = false := isNameChar_of_mem_signs _ (by decide)
theorem isNameChar_close : isNameChar ')' = false := isNameChar_of_mem_signs _ (by decide)

namespace Sql

/-- The words that are not names: those at which clauses begin, and `AND`. -/
def reserved : List String := ["FROM", "WHERE", "GROUP", "ORDER", "LIMIT", "AND"]

theorem reserves_phrases : Reserves reserved Clause.phrases where
  ne_nil := by decide
  isWord := by decide
  head_inj := by decide
  covers := by decide
  like := by decide
  contains := by decide

/-- The argument of a function: a star or a field. -/
inductive Argument where
  | star
  | field (name : Name reserved)

structure Call where
  function : Function
  word : Keyword function.name
  outer : Spacing
  before : Spacing
  argument : Argument
  after : Spacing

/-- An entry of a select list as it is written. -/
inductive Entry where
  | wildcard
  | column (field : Name reserved) (label : Option (Label reserved))
  | aggregate (call : Call) (label : Option (Label reserved))

section LabelChars

variable (label : Option (Label reserved))

theorem maybe_labelSuffix_labelChars : maybe labelSuffix (labelChars label) =
    some (label.map fun l => l.name.chars, []) := by
  simpa using maybe_labelSuffix label (t := []) rfl stops_nil

/-- What stands in front of a label begins and ends without blanks, and so does the whole. -/
theorem trimmed_append_labelChars (hs : Trimmed s) (hne : s ≠ []) :
    Trimmed (s ++ labelChars label) := by
  cases label with
  | none => simpa [labelChars] using hs
  | some l =>
    have h := hs.between (g := l.before.chars ++ (l.word.chars ++ l.after.chars)) hne
      l.name.isName.trimmed l.name.isName.1
    simpa only [labelChars, Label.chars, Option.map_some, Option.getD_some,
      List.append_assoc] using h

end LabelChars

namespace Argument

def chars : Argument → List Char
  | star => ['*']
  | field name => name.chars

theorem trimmed (a : Argument) : Trimmed a.chars := by
  cases a with
  | star => exact ⟨by decide, by decide⟩
  | field name => exact name.isName.trimmed

theorem chars_ne_nil (a : Argument) : a.chars ≠ [] := by
  cases a with
  | star => simp [chars]
  | field name => exact name.isName.1

end Argument

namespace Call

variable (call : Call)

def inner : List Char :=
  call.before.chars ++ (call.argument.chars ++ call.after.chars)

def chars : List Char :=
  call.word.chars ++ (call.outer.chars ++ '(' :: (call.inner ++ [')']))

theorem isName : IsName call.word.chars :=
  call.word.spelled.isName (by cases call.function <;> decide)

theorem scanFunction_append (ht : Stops isNameChar t) :
    Item.scanFunction (call.word.chars ++ t) = some (call.function, t) := by
  have hname : call.word.chars.map Char.toUpper = call.function.name.toList := by
    rw [map_toUpper_eq_of_asciiLower_eq call.word.spelled]
    cases call.function <;> decide
  have hparse : Function.parse? (String.ofList call.word.chars) = some call.function := by
    rw [Function.parse?, String.toList_ofList, hname, String.ofList_toList, Function.ofName?_name]
  rw [Item.scanFunction, bind_eq (name_append call.isName ht), hparse]
  rfl

theorem neutral_inner : ∀ c ∈ call.inner, Nesting.Neutral c ∧ c ≠ ',' := by
  have hgap : ∀ c, Text.isGap c = true → Nesting.Neutral c ∧ c ≠ ',' := fun c hc =>
    ⟨neutral_of_isGap hc, by rintro rfl; cases hc⟩
  have hname : ∀ c, isNameChar c = true → Nesting.Neutral c ∧ c ≠ ',' := fun c hc =>
    ⟨neutral_of_isNameChar hc, by rintro rfl; cases isNameChar_comma.symm.trans hc⟩
  intro c hc
  simp only [inner, List.mem_append] at hc
  rcases hc with hc | hc | hc
  · exact hgap c (call.before.isGap c hc)
  · cases he : call.argument with
    | star =>
      obtain rfl : c = '*' := by simpa [he, Argument.chars] using hc
      decide
    | field name => exact hname c (name.isName.2 c (by rwa [he] at hc))
  · exact hgap c (call.after.isGap c hc)

theorem trim_inner : trim call.inner = call.argument.chars :=
  call.argument.trimmed.trim_between call.before.allBlank call.after.allBlank

theorem unbroken : Unbroken ',' call.chars := by
  rw [chars, ← List.append_assoc]
  refine (Unbroken.of_words isNameChar_comma rfl fun c hc => ?_).append (unbroken_parenthesized
    (fun c hc => (call.neutral_inner c hc).1) ?_)
  · exact (List.mem_append.mp hc).imp (call.isName.2 c) (call.outer.isGap c)
  · simp only [List.mem_cons, List.mem_append, List.not_mem_nil, or_false]
    rintro (hc | hc | hc)
    · cases hc
    · exact (call.neutral_inner _ hc).2 rfl
    · cases hc

theorem chars_ne_nil : call.chars ≠ [] :=
  List.append_ne_nil_of_left_ne_nil call.isName.1 _

theorem trimmed : Trimmed call.chars := by
  have h := call.isName.trimmed.between
    (g := call.outer.chars ++ '(' :: call.inner) (t := [')']) call.isName.1 ⟨by decide, by decide⟩
    (by simp)
  simpa only [chars, List.append_assoc, List.cons_append] using h

theorem passes : Passes Clause.phrases call.chars t := by
  have hw := reserves_phrases.toWellFormed
  have hafter : Stops isNameChar (call.after.chars ++ ([')'] ++ t)) :=
    call.after.stops_isNameChar (stops_cons.mpr isNameChar_close)
  have hargument : Passes Clause.phrases call.argument.chars
      (call.after.chars ++ ([')'] ++ t)) := by
    cases call.argument with
    | star => exact passes_sign hw isNameChar_star rfl
    | field name => exact name.passes reserves_phrases hafter
  have hfunction : ∀ f : Function, IsWord f.name ∧ FreeOf Clause.phrases f.name.toList := by
    intro f; cases f <;> decide
  have hword : Stops isNameChar (call.outer.chars ++ ('(' :: (call.inner ++ [')']) ++ t)) :=
    call.outer.stops_isNameChar (stops_cons.mpr isNameChar_open)
  have hinner : Passes Clause.phrases (call.inner ++ [')']) t := by
    refine Passes.append ?_ (passes_sign hw isNameChar_close rfl)
    exact (call.before.passes hw).append ((by simpa using hargument : Passes _ _ _).append
      (call.after.passes hw))
  exact (call.word.passes hw (hfunction _).1 (hfunction _).2 (by simpa using hword)).append
    ((call.outer.passes hw).append ((passes_sign hw isNameChar_open rfl).append hinner))

end Call

namespace Entry

variable (e : Entry)

def chars : Entry → List Char
  | wildcard => ['*']
  | column field label => field.chars ++ labelChars label
  | aggregate call label => call.chars ++ labelChars label

def item : Entry → Item
  | wildcard => .wildcard
  | column field label =>
    .column ⟨String.ofList field.chars, label.map fun l => String.ofList l.name.chars⟩
  | aggregate call label => .aggregate ⟨call.function, String.ofList call.argument.chars,
      label.map fun l => String.ofList l.name.chars⟩

end Entry

theorem scanWildcard_eq_none {n : List Char} (hn : IsName n) :
    Item.scanWildcard (n ++ t) = none := by
  obtain ⟨c, n, rfl⟩ := List.exists_cons_of_ne_nil hn.1
  refine bind_eq_none (if_neg ?_)
  rintro rfl
  cases isNameChar_star.symm.trans (hn.2 '*' (by simp))

theorem scanAggregate_eq_none {n : List Char} (hn : IsName n) (ht : Stops isNameChar t)
    (hp : Stops (· == '(') (t.dropWhile isGap)) : Item.scanAggregate (n ++ t) = none := by
  have hchar : char '(' (t.dropWhile isGap) = none := by
    cases h : t.dropWhile isGap with
    | nil => rfl
    | cons c s => exact if_neg (by simpa [h] using hp)
  cases hf : Function.parse? (String.ofList n) with
  | none =>
    refine bind_eq_none ((bind_eq (name_append hn ht)).trans ?_)
    rw [hf]
    rfl
  | some f =>
    refine (bind_eq (a := f) (t := t) ((bind_eq (name_append hn ht)).trans ?_)).trans
      ((bind_eq rfl).trans (bind_eq_none hchar))
    rw [hf]
    rfl

theorem dropWhile_isGap_labelChars (label : Option (Label reserved)) :
    Stops (· == '(') ((labelChars label).dropWhile isGap) := by
  cases label with
  | none => exact stops_nil
  | some l =>
    have hn := l.word.spelled.isName (by decide)
    obtain ⟨c, s, he⟩ := List.exists_cons_of_ne_nil hn.1
    have hne : c ≠ '(' := (neutral_of_isNameChar (hn.2 c (by simp [he]))).2.1
    have hstop := l.word.stops_isGap (t := l.after.chars ++ l.name.chars) (by decide)
    simp only [labelChars, Label.chars, Option.map_some, Option.getD_some]
    rw [dropWhile_append_of_stops l.before.isGap hstop, he]
    simpa using hne

theorem Call.scanAggregate_append (call : Call) (label : Option (Label reserved)) :
    Item.scanAggregate (call.chars ++ labelChars label) =
      some ((Entry.aggregate call label).item, []) := by
  have hnil : call.argument.chars.isEmpty = false := by
    simpa using call.argument.chars_ne_nil
  have hclose : ')' ∉ call.inner := fun hc => (call.neutral_inner _ hc).1.2.2 rfl
  simp only [chars, List.append_assoc, List.cons_append, List.nil_append]
  rw [Item.scanAggregate, bind_eq (call.scanFunction_append
      (call.outer.stops_isNameChar (stops_cons.mpr isNameChar_open))),
    bind_eq (gaps_append call.outer.isGap (by simp [Text.isGap])), bind_eq char_cons,
    bind_eq (upTo_append hclose), bind_eq (maybe_labelSuffix_labelChars label)]
  simp [trim_inner, hnil, Entry.item, Function.comp_def]

namespace Entry

variable (e : Entry)

theorem read_chars : Item.read e.chars = e.item := by
  have h : orElse Item.scanWildcard (orElse Item.scanAggregate Item.scanColumn) e.chars =
      some (e.item, []) := by
    cases e with
    | wildcard => rfl
    | column field label =>
      have hstop : Stops isNameChar (labelChars label) := by
        simpa using stops_labelChars label stops_nil
      refine (orElse_eq_second (scanWildcard_eq_none field.isName)).trans
        ((orElse_eq_second (scanAggregate_eq_none field.isName hstop
          (dropWhile_isGap_labelChars label))).trans ?_)
      rw [Item.scanColumn, bind_eq (name_append field.isName hstop),
        bind_eq (maybe_labelSuffix_labelChars label)]
      simp [item, Function.comp_def]
    | aggregate call label =>
      refine (orElse_eq_second ?_).trans (orElse_eq (call.scanAggregate_append label))
      simpa [chars, Call.chars] using scanWildcard_eq_none call.isName
  rw [Item.read, whole?_eq_some_iff.mpr h]
  rfl

theorem chars_ne_nil : e.chars ≠ [] := by
  cases e with
  | wildcard => simp [chars]
  | column field label => exact List.append_ne_nil_of_left_ne_nil field.isName.1 _
  | aggregate call label => exact List.append_ne_nil_of_left_ne_nil call.chars_ne_nil _

theorem trimmed : Trimmed e.chars := by
  cases e with
  | wildcard => exact ⟨by decide, by decide⟩
  | column field label => exact trimmed_append_labelChars label field.isName.trimmed field.isName.1
  | aggregate call label => exact trimmed_append_labelChars label call.trimmed call.chars_ne_nil

theorem unbroken : Unbroken ',' e.chars := by
  have hlabel : ∀ label : Option (Label reserved), Unbroken ',' (labelChars label) := fun label =>
    .of_words isNameChar_comma rfl (isNameChar_or_isGap_labelChars label)
  cases e with
  | wildcard => exact ⟨by decide, by decide⟩
  | column field label =>
    exact (Unbroken.of_words isNameChar_comma rfl fun c hc => .inl (field.isName.2 c hc)).append
      (hlabel label)
  | aggregate call label => exact call.unbroken.append (hlabel label)

theorem passes (ht : Stops isNameChar t) : Passes Clause.phrases e.chars t := by
  cases e with
  | wildcard => exact passes_sign reserves_phrases.toWellFormed isNameChar_star rfl
  | column field label =>
    exact (field.passes reserves_phrases (stops_labelChars label ht)).append
      (passes_labelChars reserves_phrases label (by decide) ht)
  | aggregate call label =>
    exact call.passes.append (passes_labelChars reserves_phrases label (by decide) ht)

end Entry

structure NextEntry where
  before : Spacing
  after : Spacing
  entry : Entry

structure Entries where
  first : Entry
  others : List NextEntry

def othersChars : List NextEntry → List Char
  | [] => []
  | e :: es => e.before.chars ++ ',' :: (e.after.chars ++ (e.entry.chars ++ othersChars es))

namespace Entries

variable (es : Entries)

def chars : List Char :=
  es.first.chars ++ othersChars es.others

def items : List Item :=
  es.first.item :: es.others.map fun e => e.entry.item

end Entries

section Others

variable (es : List NextEntry)

theorem stops_othersChars (ht : Stops isNameChar t) : Stops isNameChar (othersChars es ++ t) := by
  cases es with
  | nil => exact ht
  | cons e es =>
    rw [othersChars, List.append_assoc]
    exact e.before.stops_isNameChar (stops_cons.mpr isNameChar_comma)

theorem trimmed_append_othersChars (hs : Trimmed s) (hne : s ≠ []) :
    Trimmed (s ++ othersChars es) := by
  induction es generalizing s with
  | nil => simpa [othersChars] using hs
  | cons e es ih =>
    have h := ih (hs.between (g := e.before.chars ++ ',' :: e.after.chars) hne e.entry.trimmed
      e.entry.chars_ne_nil) (List.append_ne_nil_of_left_ne_nil hne _)
    simpa only [othersChars, List.append_assoc, List.cons_append] using h

theorem passes_othersChars (ht : Stops isNameChar t) :
    Passes Clause.phrases (othersChars es) t := by
  have hw := reserves_phrases.toWellFormed
  induction es with
  | nil => exact passes_nil
  | cons e es ih =>
    exact (e.before.passes hw).append ((passes_sign hw isNameChar_comma rfl).append
      ((e.after.passes hw).append ((e.entry.passes (stops_othersChars es ht)).append ih)))

end Others

/-- The list is cut at its commas into the entries. -/
theorem map_trim_splitTopLevel (g tail : Spacing) (e : Entry) (es : List NextEntry) :
    (splitTopLevel ',' (g.chars ++ (e.chars ++ (othersChars es ++ tail.chars)))).map trim =
      e.chars :: es.map fun e => e.entry.chars := by
  have hgap : ∀ g : Spacing, Unbroken ',' g.chars := fun g =>
    .of_words isNameChar_comma rfl fun c hc => .inr (g.isGap c hc)
  induction es generalizing g e with
  | nil =>
    rw [othersChars, List.nil_append, ((hgap g).append (e.unbroken.append (hgap tail))).split]
    simp [e.trimmed.trim_between g.allBlank tail.allBlank]
  | cons next es ih =>
    have hsplit := ((hgap g).append (e.unbroken.append (hgap next.before))).splitTopLevel_cons
      (t := next.after.chars ++ (next.entry.chars ++ (othersChars es ++ tail.chars)))
      (by decide) (by decide)
    simp only [List.append_assoc] at hsplit
    simp only [othersChars, List.append_assoc, List.cons_append]
    rw [hsplit, List.map_cons, ih, e.trimmed.trim_between g.allBlank next.before.allBlank]
    rfl

namespace Entries

variable (es : Entries)

theorem readSelect_chars (g tail : Spacing) :
    readSelect (g.chars ++ (es.chars ++ tail.chars)) = es.items := by
  rw [readSelect, chars, List.append_assoc, map_trim_splitTopLevel, List.filter_eq_self.mpr]
  · simp [items, Entry.read_chars, Function.comp_def]
  · simp [Entry.chars_ne_nil]

theorem chars_ne_nil : es.chars ≠ [] :=
  List.append_ne_nil_of_left_ne_nil es.first.chars_ne_nil _

theorem trimmed : Trimmed es.chars :=
  trimmed_append_othersChars es.others es.first.trimmed es.first.chars_ne_nil

theorem passes (ht : Stops isNameChar t) : Passes Clause.phrases es.chars t :=
  (es.first.passes (stops_othersChars es.others ht)).append (passes_othersChars es.others ht)

end Entries

end Sql

end LogLab.Query
