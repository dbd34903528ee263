import LogLab.Proofs.Query.SelectList

/-! # SELECT statements as they are written

A select list with the clauses that may follow it, in their order, is cut at the headings of the
clauses, and every clause is read as what it stands for.
-/

namespace LogLab.Query.Sql

open Scan Text

theorem Statement.addSections_eq_foldlM (q : Statement) (sections : List (Section Clause)) :
    q.addSections sections = (sections.map fun s => (s.phrase, trim s.body)).foldlM
      (fun q c => q.addClause c.1 c.2) q := by
  rw [List.foldlM_map]
  rfl

/-- What is written behind the word `SELECT`: the select list, and the clauses in their order. -/
structure Body where
  entries : Entries
  source : Option (Heading ["FROM"] × Name reserved)
  filter : Option (Heading ["WHERE"] × Terms reserved)
  groupBy : Option (Heading ["GROUP", "BY"] × Name reserved)
  orderBy : Option (Heading ["ORDER", "BY"] × Order reserved)
  limit : Option (Heading ["LIMIT"] × Digits)

def clauseChars {words : List String} {β : Type} (chars : β → List Char)
    (clause : Option (Heading words × β)) : List Char :=
  (clause.map fun c => c.1.withContent (chars c.2)).getD []

namespace Body

variable (b : Body)

def chars : List Char :=
  b.entries.chars ++ (clauseChars Name.chars b.source ++ (clauseChars Terms.chars b.filter ++
    (clauseChars Name.chars b.groupBy ++ (clauseChars Order.chars b.orderBy ++
      clauseChars Digits.chars b.limit))))

def statement : Statement where
  select := b.entries.items
  source := b.source.map fun c => String.ofList c.2.chars
  filter := b.filter.map fun c => c.2.condition
  groupBy := b.groupBy.map fun c => String.ofList c.2.chars
  orderBy := b.orderBy.map fun c => c.2.key .asc
  limit := b.limit.map fun c => UInt64.ofNat (Numeral.digitsValue c.2.chars)

def namePart {words : List String} (clause : Clause) (mem : (clause, words) ∈ Clause.phrases)
    (c : Heading words × Name reserved) : Part Clause.phrases where
  phrase := clause
  words := words
  mem := mem
  heading := c.1
  content := c.2.chars
  ne_nil := c.2.isName.1
  trimmed := c.2.isName.trimmed
  passes := fun ht => c.2.passes reserves_phrases (stops_isNameChar_of_isPlain ht)

def filterPart (c : Heading ["WHERE"] × Terms reserved) : Part Clause.phrases where
  phrase := .filter
  words := ["WHERE"]
  mem := by decide
  heading := c.1
  content := c.2.chars
  ne_nil := c.2.chars_ne_nil
  trimmed := c.2.trimmed (by decide)
  passes := fun ht => c.2.passes reserves_phrases (by decide) ht

def orderPart (c : Heading ["ORDER", "BY"] × Order reserved) : Part Clause.phrases where
  phrase := .orderBy
  words := ["ORDER", "BY"]
  mem := by decide
  heading := c.1
  content := c.2.chars
  ne_nil := List.append_ne_nil_of_left_ne_nil c.2.field.isName.1 _
  trimmed := c.2.trimmed
  passes := fun ht => c.2.passes reserves_phrases (fun d => by cases d <;> decide)
    (stops_isNameChar_of_isPlain ht)

def limitPart (c : Heading ["LIMIT"] × Digits) : Part Clause.phrases where
  phrase := .limit
  words := ["LIMIT"]
  mem := by decide
  heading := c.1
  content := c.2.chars
  ne_nil := c.2.isCount.ne_nil
  trimmed := c.2.isCount.isName.trimmed
  passes := fun ht => c.2.passes reserves_phrases (stops_isNameChar_of_isPlain ht)

def parts : List (Part Clause.phrases) :=
  (b.source.map (namePart .source (by decide))).toList ++ ((b.filter.map filterPart).toList ++
    ((b.groupBy.map (namePart .groupBy (by decide))).toList ++
      ((b.orderBy.map orderPart).toList ++ (b.limit.map limitPart).toList)))

/-- A clause is written as its part, if it is written at all. -/
theorem partsChars_clause {words : List String} {β : Type} (chars : β → List Char)
    {part : Heading words × β → Part Clause.phrases}
    (h : ∀ c, (part c).heading.withContent (part c).content = c.1.withContent (chars c.2))
    (clause : Option (Heading words × β)) :
    partsChars .none (clause.map part).toList = clauseChars chars clause := by
  cases clause with
  | none => rfl
  | some c => exact (congrArg _ (List.append_nil (part c).content)).trans (h c)

theorem chars_eq : b.chars = b.entries.chars ++ partsChars .none b.parts := by
  simp only [parts, partsChars_append]
  rw [partsChars_clause Name.chars fun _ => rfl, partsChars_clause Terms.chars fun _ => rfl,
    partsChars_clause Name.chars fun _ => rfl, partsChars_clause Order.chars fun _ => rfl,
    partsChars_clause Digits.chars fun _ => rfl, chars]

theorem readName?_chars (n : Name reserved) : readName? n.chars = some (String.ofList n.chars) :=
  congrArg (Option.map String.ofList) (first?_eq (name_eq n.isName))

theorem readFilter?_chars (c : Terms reserved) :
    readFilter? c.chars = .ok (some c.condition) := by
  rw [readFilter?, c.readCondition_chars (by decide)]
  rfl

def addPart (q : Statement) (p : Part Clause.phrases) : Except Crash Statement :=
  q.addClause p.phrase p.content

/-- Behind other parts a clause that is read as `read` gives is taken into the statement, if it is
written. -/
theorem foldlM_clause {β γ : Type} {q : Statement} {ps : List (Part Clause.phrases)}
    (part : β → Part Clause.phrases) (set : Option γ → Statement) {read : β → γ}
    (hps : ps.foldlM addPart q = .ok (set none))
    (h : ∀ c, addPart (set none) (part c) = .ok (set (some (read c)))) (clause : Option β) :
    (ps ++ (clause.map part).toList).foldlM addPart q = .ok (set (clause.map read)) := by
  rw [List.foldlM_append, hps]
  cases clause with
  | none => rfl
  | some c => exact (bind_pure _).trans (h c)

/-- The clauses are taken into the statement one after the other. -/
theorem foldlM_parts :
    b.parts.foldlM addPart { select := b.entries.items } = .ok b.statement := by
  let q : Statement := b.statement
  have hselect : [].foldlM addPart { select := q.select } = .ok { select := q.select } := rfl
  have hsource := foldlM_clause (namePart .source (by decide))
    (.mk q.select · none none none none) hselect (fun c => congrArg
      (Except.ok <| Statement.mk q.select · none none none none) (readName?_chars c.2)) b.source
  have hfilter := foldlM_clause filterPart
    (.mk q.select q.source · none none none) hsource (fun c => congrArg
      (Except.map (Statement.mk q.select q.source · none none none)) (readFilter?_chars c.2))
    b.filter
  have hgroupBy := foldlM_clause (namePart .groupBy (by decide))
    (.mk q.select q.source q.filter · none none) hfilter (fun c => congrArg
      (Except.ok <| Statement.mk q.select q.source q.filter · none none) (readName?_chars c.2))
    b.groupBy
  have horderBy := foldlM_clause orderPart
    (.mk q.select q.source q.filter q.groupBy · none) hgroupBy (fun c => congrArg
      (Except.ok <| Statement.mk q.select q.source q.filter q.groupBy · none)
      (c.2.sortKey?_eq .asc)) b.orderBy
  have hlimit := foldlM_clause limitPart
    (.mk q.select q.source q.filter q.groupBy q.orderBy) horderBy (fun c => congrArg
      (Except.ok <| Statement.mk q.select q.source q.filter q.groupBy q.orderBy ·)
      (first?_eq c.2.isCount.count_eq)) b.limit
  simp only [List.append_assoc, List.nil_append] at hlimit
  exact hlimit

theorem addSections_eq {q : Statement} (tail : Spacing) (ps : List (Part Clause.phrases)) :
    q.addSections (partsSections tail ps) = ps.foldlM addPart q := by
  rw [Statement.addSections_eq_foldlM, map_trim_partsSections, List.foldlM_map]
  rfl

/-- A text that is this body behind the word `SELECT` is read as what the body stands for. -/
theorem parse?_eq {s : List Char} (word : Keyword "SELECT") (gap : Gap) (tail : Spacing)
    (h : Statement.dropSemicolon (trim s) =
      word.chars ++ (gap.chars ++ (b.chars ++ tail.chars))) :
    Statement.parse? s = .ok (some b.statement) := by
  have hw := reserves_phrases.toWellFormed
  have hkeyword := keyword_append word.spelled
    (gap.stops_isNameChar (t := b.chars ++ tail.chars))
  have hpasses : Passes Clause.phrases (gap.chars ++ b.entries.chars) (partsChars tail b.parts) :=
    (gap.passes hw).append (b.entries.passes (stops_isNameChar_of_isPlain (stops_partsChars _ _)))
  have hcut := cutAtPhrases_append_parts hw hpasses
  have hbody : gap.chars ++ (b.chars ++ tail.chars) =
      gap.chars ++ b.entries.chars ++ partsChars tail b.parts := by
    rw [chars_eq, List.append_assoc, partsChars_append_tail, List.append_assoc]
  rw [Statement.parse?, h, hkeyword]
  simp only [hbody, hcut, addSections_eq]
  rw [List.append_assoc, b.entries.readSelect_chars gap.toSpacing, foldlM_parts]
  rfl

theorem trimmed : Trimmed b.chars := by
  rw [chars_eq]
  exact trimmed_append_parts b.entries.trimmed b.entries.chars_ne_nil

theorem chars_ne_nil : b.chars ≠ [] :=
  List.append_ne_nil_of_left_ne_nil b.entries.chars_ne_nil _

end Body

theorem dropSemicolon_append_semicolon {s : List Char} :
    Statement.dropSemicolon (s ++ [';']) = s := by
  simp [Statement.dropSemicolon]

/-- A statement as it is written. Without a semicolon behind it the statement does not end with one,
as a literal without quotes could. -/
structure Written where
  opening : Spacing
  word : Keyword "SELECT"
  gap : Gap
  body : Body
  tail : Spacing
  semicolon : Bool
  ending : Spacing
  last : semicolon = false → body.chars.getLast? ≠ some ';'

namespace Written

variable (w : Written)

def core : List Char :=
  w.word.chars ++ (w.gap.chars ++ w.body.chars)

def chars : List Char :=
  w.opening.chars ++ (w.core ++ (w.tail.chars ++ (if w.semicolon then [';'] else []) ++
    w.ending.chars))

theorem trimmed_core : Trimmed w.core := by
  have hn := w.word.spelled.isName (by decide)
  exact hn.trimmed.between hn.1 w.body.trimmed w.body.chars_ne_nil

theorem core_ne_nil : w.core ≠ [] :=
  List.append_ne_nil_of_left_ne_nil (w.word.spelled.isName (by decide)).1 _

theorem getLast?_core : w.core.getLast? = w.body.chars.getLast? := by
  rw [core, List.getLast?_append, List.getLast?_append,
    List.getLast?_eq_some_getLast w.body.chars_ne_nil]
  rfl

theorem dropSemicolon_trim : Statement.dropSemicolon (trim w.chars) =
    w.core ++ if w.semicolon then w.tail.chars else [] := by
  cases hs : w.semicolon with
  | true =>
    have ht := w.trimmed_core.between (g := w.tail.chars) (t := [';']) w.core_ne_nil
      ⟨by decide, by decide⟩ (by simp)
    have htrim : trim w.chars = w.core ++ w.tail.chars ++ [';'] := by
      simpa [chars, hs] using ht.trim_between w.opening.allBlank w.ending.allBlank
    rw [htrim, dropSemicolon_append_semicolon]
    rfl
  | false =>
    have htrim : trim w.chars = w.core := by
      simpa [chars, hs] using w.trimmed_core.trim_between w.opening.allBlank
        (w.tail.allBlank.append w.ending.allBlank)
    rw [htrim, Statement.dropSemicolon, if_neg (w.getLast?_core ▸ w.last hs)]
    simp

/-- A statement that is written by the grammar is read as what its parts stand for. -/
theorem parse?_chars : Statement.parse? w.chars = .ok (some w.body.statement) := by
  cases hs : w.semicolon with
  | true =>
    refine w.body.parse?_eq w.word w.gap w.tail (w.dropSemicolon_trim.trans ?_)
    simp [hs, core]
  | false =>
    refine w.body.parse?_eq w.word w.gap .none (w.dropSemicolon_trim.trans ?_)
    simp [hs, core, Spacing.none]

-- Words in any letter case, a line end as a gap, and a comma and a clause word in a value.
example : ∃ w : Written, w.chars =
    "select COUNT(*) As n, host\n WHERE note = \"a, where\" LIMIT 5 ;".toList :=
  ⟨{  opening := .none
      word := ⟨"select".toList, by decide⟩
      gap := .space
      body := {
        entries := ⟨.aggregate ⟨.count, .given "COUNT", .none, .none, .star, .none⟩
          (some ⟨.space, ⟨"As".toList, by decide⟩, .space, ⟨['n'], by decide, by decide⟩⟩),
          [⟨.none, Gap.space.toSpacing, .column ⟨"host".toList, by decide, by decide⟩ none⟩]⟩
        source := none
        filter := some
          (⟨⟨⟨['\n', ' '], by decide⟩, by decide⟩, "WHERE".toList, .single rfl, .space⟩,
          ⟨⟨⟨⟨"note".toList, by decide, by decide⟩, .space, .sign ['='] .eq (by decide), .space⟩,
            .quoted '"' "a, where".toList rfl (by decide)⟩, []⟩)
        groupBy := none
        orderBy := none
        limit := some (.single "LIMIT", ⟨['5'], by decide, by decide, by decide⟩) }
      tail := Gap.space.toSpacing
      semicolon := true
      ending := .none
      last := by decide }, by decide⟩

end Written

end LogLab.Query.Sql
