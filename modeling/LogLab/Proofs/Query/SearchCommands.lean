import LogLab.Proofs.Query.StatsColumns

/-! # Search pipelines as they are written

The commands of a search pipeline as they are written, with their words in any letter case. Each is
compiled to the one operation that it stands for, and commands between bars to their operations in
order.
-/

namespace LogLab.Query.Spl

open Scan Text

/-- The value of a search term as it is written: between quotes, or a run of characters without
blanks and quotes in which parentheses are closed and no bar stands outside them. -/
inductive SearchValue where
  | quoted (value : QuotedValue)
  | bare (value : List Char) (ne_nil : value ≠ []) (plain : ∀ c ∈ value, isPlain c = true)
      (unbroken : Unbroken '|' value)

structure SearchTerm where
  field : Name []
  value : SearchValue

inductive Connector where
  | space
  | and (word : Keyword "AND")

/-- Blanks and commas, at least one. -/
structure FieldGap where
  chars : List Char
  ne_nil : chars ≠ []
  isItemGap : ∀ c ∈ chars, isItemGap c = true

inductive Sign where
  | plus
  | minus

structure SignedOrder where
  sign : Option (Sign × Spacing)
  order : Order []

inductive Arguments where
  | search (terms : Option (Joined Connector SearchTerm))
  | filter (tests : Joined (Heading ["AND"]) (QuotedTest ["AND"]))
  | stats (columns : Columns) (group : Name ["by"])
  | table (fields : Joined FieldGap (Name []))
  | limit (side : Side) (count : Digits)
  | sort (key : SignedOrder)

variable {s t : List Char}

namespace SearchValue

variable (v : SearchValue)

def literal : SearchValue → Literal []
  | quoted value => value.literal
  | bare value ne_nil plain _ => .bare value ne_nil plain (by simp)

theorem isSegment : IsSegment v.literal.chars := by
  refine ⟨?_, v.literal.trimmed, v.literal.chars_ne_nil⟩
  cases v with
  | quoted value => exact value.isSegment.unbroken
  | bare value ne_nil plain unbroken => exact unbroken

end SearchValue

/-- The predicate that a word of a search stands for, if it is a term. -/
def readWord? (word : List Char) : Option Predicate :=
  if word.isEmpty || eqIgnoringCase word "AND".toList then none else whole? searchTerm word

theorem search_eq : search s = .filter ⟨(splitBlanks none s).filterMap readWord?⟩ := by
  have hread : ∀ word : List Char, (if (!word.isEmpty) = true then
      if (!eqIgnoringCase word "AND".toList) = true then whole? searchTerm word else none
      else none) = readWord? word := fun word => by
    unfold readWord?
    cases word.isEmpty <;> cases eqIgnoringCase word "AND".toList <;> rfl
  rw [search, splitWords, List.filterMap_filter, List.filterMap_filter]
  simp only [hread]

namespace SearchTerm

variable (p : SearchTerm)

def chars : List Char :=
  p.field.chars ++ '=' :: p.value.literal.chars

/-- The predicate that the term stands for; stars in the value are dropped. -/
def predicate : Predicate :=
  ⟨String.ofList p.field.chars, .contains,
    String.ofList (p.value.literal.value.filter (· != '*'))⟩

theorem isSegment : IsSegment p.chars :=
  (isSegment_of_isName p.field.isName).between (g := ['=']) ⟨by decide, by decide⟩
    p.value.isSegment

theorem isWhole : IsWhole p.chars := by
  have hname : IsWhole p.field.chars :=
    isWhole_of_isPlain fun c hc => isPlain_of_isNameChar (p.field.isName.2 c hc)
  have hvalue : IsWhole p.value.literal.chars := by
    cases p.value with
    | quoted value => exact value.isWhole
    | bare value ne_nil plain unbroken => exact isWhole_of_isPlain plain
  have hsign : IsWhole ['='] := isWhole_of_isPlain (by decide)
  exact hname.append (hsign.append hvalue)

theorem whole?_searchTerm : whole? searchTerm p.chars = some p.predicate := by
  have hstop : Stops isNameChar ('=' :: p.value.literal.chars) :=
    stops_cons.mpr (isNameChar_of_mem_signs '=' (by decide))
  have hliteral : Scan.literal p.value.literal.chars = some (p.value.literal.value, []) := by
    simpa using p.value.literal.literal_append (t := []) stops_nil
  rw [whole?_eq_some_iff, chars, searchTerm, bind_eq (name_append p.field.isName hstop),
    bind_eq char_cons, bind_eq hliteral]
  rfl

theorem readWord?_chars : readWord? p.chars = some p.predicate := by
  have hne : p.chars.isEmpty = false := by simpa using p.isSegment.ne_nil
  have hand : eqIgnoringCase p.chars "AND".toList = false := by
    refine Bool.eq_false_iff.mpr fun h => ?_
    have hspelled : Spelled "AND" p.chars := eqIgnoringCase_iff.mp h
    have hname := (hspelled.isName (by decide)).2 '=' (by simp [chars])
    cases (isNameChar_of_mem_signs '=' (by decide)).symm.trans hname
  rw [readWord?, hne, hand, Bool.or_false, if_neg Bool.false_ne_true, p.whole?_searchTerm]

end SearchTerm

namespace Connector

def chars : Connector → List Char
  | space => [' ']
  | and word => ' ' :: (word.chars ++ [' '])

theorem chars_space : space.chars = [' '] := rfl
theorem chars_and (word : Keyword "AND") : (and word).chars = ' ' :: (word.chars ++ [' ']) := rfl

theorem unbroken (x : Connector) : Unbroken '|' x.chars := by
  cases x with
  | space => exact unbroken_space
  | and word =>
    have hn := word.spelled.isName (by decide)
    exact unbroken_space.append ((isSegment_of_isName hn).unbroken.append unbroken_space)

end Connector

theorem readWord?_and (word : Keyword "AND") : readWord? word.chars = none := by
  have hand : eqIgnoringCase word.chars "AND".toList = true := eqIgnoringCase_iff.mpr word.spelled
  rw [readWord?, hand, Bool.or_true, if_pos rfl]

theorem search_chars (terms : Joined Connector SearchTerm) :
    search (terms.chars Connector.chars SearchTerm.chars) =
      .filter ⟨terms.items.map SearchTerm.predicate⟩ := by
  have h : (splitBlanks none (terms.chars Connector.chars SearchTerm.chars)).filterMap readWord? =
      terms.items.map SearchTerm.predicate := by
    induction terms with
    | single term =>
      rw [Joined.chars_single, term.isWhole.splitBlanks_eq,
        List.filterMap_cons_some term.readWord?_chars]
      rfl
    | cons term connector terms ih =>
      rw [Joined.chars_cons]
      cases connector with
      | space =>
        rw [Connector.chars_space, List.singleton_append, term.isWhole.splitBlanks_space,
          List.filterMap_cons_some term.readWord?_chars, ih]
        rfl
      | and word =>
        have hword : IsWhole word.chars := isWhole_of_isPlain fun c hc =>
          isPlain_of_isNameChar ((word.spelled.isName (by decide)).2 c hc)
        rw [Connector.chars_and, List.cons_append, List.append_assoc, List.singleton_append,
          term.isWhole.splitBlanks_space, hword.splitBlanks_space,
          List.filterMap_cons_some term.readWord?_chars,
          List.filterMap_cons_none (readWord?_and word), ih]
        rfl
  rw [search_eq, h]

def conditionTerms (tests : Joined (Heading ["AND"]) (QuotedTest ["AND"])) : Terms ["AND"] :=
  ⟨tests.first.term, tests.others.map fun other => (other.1, other.2.term)⟩

def conjunctionChars (h : Heading ["AND"]) : List Char :=
  h.before.chars ++ (h.chars ++ h.after.chars)

def filterChars (tests : Joined (Heading ["AND"]) (QuotedTest ["AND"])) : List Char :=
  tests.chars conjunctionChars fun test => test.term.chars

theorem filter?_chars (tests : Joined (Heading ["AND"]) (QuotedTest ["AND"])) :
    filter? (filterChars tests) =
      .ok (some (.filter ⟨tests.items.map fun test => test.term.predicate⟩)) := by
  have hchars : filterChars tests = (conditionTerms tests).chars := by
    simp [filterChars, Joined.chars, conjunctionChars, Terms.chars, conditionTerms,
      Heading.withContent, List.flatMap_map, List.append_assoc]
  have hcondition : (conditionTerms tests).condition =
      ⟨tests.items.map fun test => test.term.predicate⟩ := by
    simp [Terms.condition, conditionTerms, Joined.items]
  rw [filter?, hchars, (conditionTerms tests).readCondition_chars (by decide), hcondition]
  rfl

theorem isSegment_filterChars (tests : Joined (Heading ["AND"]) (QuotedTest ["AND"])) :
    IsSegment (filterChars tests) := by
  refine Joined.isSegment tests (fun h => ?_) fun test => test.isSegment
  have hgap : ∀ g : Gap, Unbroken '|' g.chars := fun g => .of_blanks g.allBlank
  obtain ⟨word, hword⟩ := h.exists_keyword
  rw [conjunctionChars, hword]
  exact (hgap h.before).append
    ((isSegment_of_isName (word.spelled.isName (by decide))).unbroken.append (hgap h.after))

theorem table?_chars (fields : Joined FieldGap (Name [])) :
    table? (fields.chars FieldGap.chars Name.chars) =
      some (.project (fields.items.map fun field => ⟨String.ofList field.chars, none⟩)) := by
  have hname : ∀ n : Name [], ∀ c ∈ n.chars, isItemGap c = false := fun n c hc =>
    isItemGap_of_isNameChar (n.isName.2 c hc)
  have h : fieldsAt isItemGap (fields.chars FieldGap.chars Name.chars) =
      fields.items.map Name.chars := by
    induction fields with
    | single n =>
      rw [Joined.chars_single]
      exact fieldsAt_of_forall (hname n) n.isName.1
    | cons n g fields ih =>
      rw [Joined.chars_cons, fieldsAt_append_append (hname n) n.isName.1 g.isItemGap g.ne_nil, ih]
      rfl
  have hne : (fields.items.map Name.chars).isEmpty = false := by simp [Joined.items]
  have hfields : fieldsAt (fun c => isBlank c || c == ',')
      (fields.chars FieldGap.chars Name.chars) = fields.items.map Name.chars := h
  rw [table?, hfields, hne, List.map_map]
  rfl

theorem FieldGap.unbroken (g : FieldGap) : Unbroken '|' g.chars := by
  have h : ∀ c ∈ g.chars, Nesting.Neutral c ∧ c ≠ '|' := by
    intro c hc
    rcases Bool.or_eq_true_iff.mp (g.isItemGap c hc) with hblank | hcomma
    · exact neutral_of_isBlank hblank
    · obtain rfl := beq_iff_eq.mp hcomma
      decide
  exact .of_neutral (fun c hc => (h c hc).1) fun hc => (h _ hc).2 rfl

namespace Sign

def char : Sign → Char
  | plus => '+'
  | minus => '-'

/-- The direction of a sort with this sign in front of the key, unless the key names one. -/
def direction : Sign → Direction
  | plus => .asc
  | minus => .desc

theorem isSegment (sign : Sign) : IsSegment [sign.char] := by
  cases sign <;> exact ⟨⟨by decide, by decide⟩, ⟨by decide, by decide⟩, by decide⟩

theorem isNameChar_char (sign : Sign) : isNameChar sign.char = false := by
  cases sign <;> decide +kernel

end Sign

namespace SignedOrder

variable (k : SignedOrder)

def signChars : List Char :=
  (k.sign.map fun sign => sign.1.char :: sign.2.chars).getD []

def chars : List Char :=
  k.signChars ++ k.order.chars

def key : SortKey :=
  k.order.key ((k.sign.map fun sign => sign.1.direction).getD .asc)

theorem isSegment : IsSegment k.chars := by
  unfold chars signChars
  cases k.sign with
  | none => exact k.order.isSegment
  | some sign =>
    exact sign.1.isSegment.between (.of_blanks sign.2.allBlank) (k.order.isSegment)

theorem ne_sign_cons (o : Order []) (sign : Sign) {key : List Char} :
    o.chars ≠ sign.char :: key := by
  intro h
  obtain ⟨c, s, hc⟩ := List.exists_cons_of_ne_nil o.field.isName.1
  rw [Order.chars, hc, List.cons_append] at h
  have hname := o.field.isName.2 c (by simp [hc])
  rw [(List.cons.inj h).1, sign.isNameChar_char] at hname
  cases hname

theorem sort?_chars : sort? k.chars = some (.sort k.key) := by
  have hkey : ∀ (g : Spacing) (default : Direction),
      sortKey? (g.chars ++ k.order.chars) default = some (k.order.key default) := by
    intro g default
    rw [← k.order.sortKey?_eq default, sortKey?, sortKey?, trim_blank_append g.allBlank]
  have htrim := k.isSegment.trimmed.trim_eq
  unfold chars signChars key at *
  rw [sort?, htrim]
  cases k.sign with
  | none =>
    dsimp only [Option.map_none, Option.getD_none, List.nil_append]
    -- The name in front of the key cannot be taken for a sign.
    split
    · next he => exact absurd he (ne_sign_cons k.order .minus)
    · next he => exact absurd he (ne_sign_cons k.order .plus)
    · rw [k.order.sortKey?_eq]
      rfl
  | some sign =>
    obtain ⟨sign, g⟩ := sign
    cases sign with
    | plus => exact congrArg (Option.map Operation.sort) (hkey g .asc)
    | minus => exact congrArg (Option.map Operation.sort) (hkey g .desc)

end SignedOrder

def commandWords : List String := ["search", "where", "stats", "table", "head", "tail", "sort"]

namespace Arguments

variable (a : Arguments)

def word : Arguments → String
  | search _ => "search"
  | filter _ => "where"
  | stats _ _ => "stats"
  | table _ => "table"
  | limit .head _ => "head"
  | limit .tail _ => "tail"
  | sort _ => "sort"

def chars : Arguments → List Char
  | search terms => (terms.map (Joined.chars · Connector.chars SearchTerm.chars)).getD []
  | filter tests => filterChars tests
  | stats columns group => columns.chars ++ (" by ".toList ++ group.chars)
  | table fields => fields.chars FieldGap.chars Name.chars
  | limit _ count => count.chars
  | sort key => key.chars

/-- The arguments with a space in front of them; without any there is no space. -/
def tail : Arguments → List Char
  | search none => []
  | a => ' ' :: a.chars

def operation : Arguments → Operation
  | search terms => .filter ⟨(terms.map fun ts => ts.items.map SearchTerm.predicate).getD []⟩
  | filter tests => .filter ⟨tests.items.map fun test => test.term.predicate⟩
  | stats columns group => .group ⟨some (String.ofList group.chars), columns.counts⟩
  | table fields => .project (fields.items.map fun field => ⟨String.ofList field.chars, none⟩)
  | limit side count => .limit ⟨UInt64.ofNat (Numeral.digitsValue count.chars), side⟩
  | sort key => .sort key.key

theorem word_mem : a.word ∈ commandWords := by
  cases a with
  | limit side count => cases side <;> simp [word, commandWords]
  | _ => simp [word, commandWords]

theorem isWord_word : IsWord a.word := by
  have h : ∀ word ∈ commandWords, IsWord word := by decide
  exact h _ a.word_mem

theorem asciiLower_word : asciiLower a.word.toList = a.word.toList := by
  have h : ∀ word ∈ commandWords, asciiLower word.toList = word.toList := by decide
  exact h _ a.word_mem

theorem tail_cases : a.chars = [] ∧ a.tail = [] ∨
    IsSegment a.chars ∧ a.tail = ' ' :: a.chars := by
  cases a with
  | search terms =>
    cases terms with
    | none => exact .inl ⟨rfl, rfl⟩
    | some terms => exact .inr ⟨terms.isSegment Connector.unbroken SearchTerm.isSegment, rfl⟩
  | filter tests => exact .inr ⟨isSegment_filterChars tests, rfl⟩
  | stats columns group =>
    exact .inr ⟨columns.isSegment.between ⟨by decide, by decide⟩ (isSegment_of_isName group.isName),
      rfl⟩
  | table fields =>
    exact .inr ⟨fields.isSegment FieldGap.unbroken fun n => isSegment_of_isName n.isName, rfl⟩
  | limit side count => exact .inr ⟨isSegment_of_isName count.isCount.isName, rfl⟩
  | sort key => exact .inr ⟨key.isSegment, rfl⟩

theorem operation?_chars : operation? a.word.toList a.chars = .ok (some a.operation) := by
  cases a with
  | search terms =>
    rw [word]
    cases terms with
    | none => rfl
    | some terms => exact congrArg (Except.ok ∘ some) (search_chars terms)
  | filter tests =>
    rw [word]
    exact filter?_chars tests
  | stats columns group =>
    rw [word]
    exact congrArg Except.ok (columns.stats?_chars group)
  | table fields =>
    rw [word]
    exact congrArg Except.ok (table?_chars fields)
  | limit side count =>
    have hcount := count.isCount.count?_eq
    cases side <;> rw [word]
    · exact congrArg (Except.ok ∘ Option.map fun n => Operation.limit ⟨n, .head⟩) hcount
    · exact congrArg (Except.ok ∘ Option.map fun n => Operation.limit ⟨n, .tail⟩) hcount
  | sort key =>
    rw [word]
    exact congrArg Except.ok key.sort?_chars

end Arguments

structure Command where
  arguments : Arguments
  word : Keyword arguments.word

namespace Command

variable (c : Command)

def chars : List Char :=
  c.word.chars ++ c.arguments.tail

def operation : Operation :=
  c.arguments.operation

theorem isName_word : IsName c.word.chars :=
  c.word.spelled.isName c.arguments.isWord_word

theorem asciiLower_word : asciiLower c.word.chars = c.arguments.word.toList :=
  c.word.spelled.trans c.arguments.asciiLower_word

theorem chars_eq : c.arguments.chars = [] ∧ c.chars = c.word.chars ∨
    IsSegment c.arguments.chars ∧ c.chars = c.word.chars ++ ' ' :: c.arguments.chars := by
  obtain ⟨hargs, htail⟩ | ⟨hargs, htail⟩ := c.arguments.tail_cases
  · exact .inl ⟨hargs, by rw [chars, htail, List.append_nil]⟩
  · exact .inr ⟨hargs, by rw [chars, htail]⟩

theorem isSegment : IsSegment c.chars := by
  rcases c.chars_eq with ⟨-, he⟩ | ⟨h, he⟩ <;> rw [he]
  · exact isSegment_of_isName c.isName_word
  · exact isSegment_append _ c.isName_word h

theorem readSegment?_chars : readSegment? c.chars = .ok (some c.operation) := by
  have hcommand : command c.chars = (c.arguments.word.toList, c.arguments.chars) := by
    rcases c.chars_eq with ⟨hargs, he⟩ | ⟨hargs, he⟩
    · rw [he, command_of_isName c.isName_word, c.asciiLower_word, hargs]
    · rw [he, command_append_segment c.isName_word hargs, c.asciiLower_word]
  rw [readSegment?, hcommand]
  exact c.arguments.operation?_chars

end Command

/-- Commands between bars are compiled to their operations, one for each, in order. -/
theorem compile_joinBars (commands : List Command) :
    compile (joinBars (commands.map Command.chars)) = .ok ⟨commands.map Command.operation⟩ := by
  have hsegment : ∀ s ∈ commands.map Command.chars, IsSegment s := by
    intro s hs
    obtain ⟨c, -, rfl⟩ := List.mem_map.mp hs
    exact c.isSegment
  rw [compile, splitPipeline_joinBars hsegment, filterMapM_map,
    filterMapM_eq_map fun c _ => c.readSegment?_chars]
  rfl

-- A bar in a value, words in any letter case, and a function that does not count.
example : ∃ commands : List Command, joinBars (commands.map Command.chars) =
    "Search user=\"a | b\" and host=web* | STATS dc(src) as n, Count(x) As total by user".toList :=
  ⟨[⟨.search (some ⟨⟨⟨"user".toList, by decide, by decide⟩, .quoted ⟨'"', "a | b".toList, rfl,
        by decide⟩⟩, [(.and ⟨"and".toList, by decide⟩, ⟨⟨"host".toList, by decide, by decide⟩,
          .bare "web*".toList (by decide) (by decide) ⟨by decide, by decide⟩⟩)]⟩),
        ⟨"Search".toList, by decide⟩⟩,
      ⟨.stats ⟨⟨⟨"dc".toList, by decide, by decide⟩, some (.field ⟨"src".toList, by decide,
          by decide⟩), some ⟨.space, ⟨"as".toList, by decide⟩, .space, ⟨['n'], by decide,
            by decide⟩⟩⟩, [((), ⟨⟨"Count".toList, by decide, by decide⟩, some (.field ⟨['x'],
              by decide, by decide⟩), some ⟨.space, ⟨"As".toList, by decide⟩, .space,
                ⟨"total".toList, by decide, by decide⟩⟩⟩)]⟩ ⟨"user".toList, by decide, by decide⟩,
        ⟨"STATS".toList, by decide⟩⟩], by decide⟩

end LogLab.Query.Spl
