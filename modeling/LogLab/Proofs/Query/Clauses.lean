import LogLab.Proofs.Query.SelectStatement

/-! # Independent clauses

Clauses behind a select list are read one by one. Whatever stands in them, readable or not, none of
them changes what another is read as, as long as no clause keyword stands in it. Of the clauses of
one kind the first that can be read counts, and where it stands among the other kinds does not
matter.
-/

namespace LogLab.Query

open Scan Text

section PhraseFree

variable {α : Type} {phrases : List (α × List String)} {s t g : List Char} {b : Bool}
  {q : Quotation} {c : Char}

/-- Whether a name is going on after a text, if `b` says so for the place in front of it. -/
def inName (b : Bool) (s : List Char) : Bool :=
  s.foldl (fun _ c => isNameChar c) b

def BeginsPhrase (phrases : List (α × List String)) (s : List Char) : Prop :=
  ∃ phrase ∈ phrases, ∃ n t, Phrase phrase.2 n ∧ Stops isNameChar t ∧ s = n ++ t

/-- No phrase stands anywhere in the text, outside quotations and apart from the inside of names. -/
def PhraseFree (phrases : List (α × List String)) (b : Bool) (q : Quotation) (s : List Char) :
    Prop :=
  ∀ front rest, s = front ++ rest → q.after front = none → inName b front = false →
    ¬ BeginsPhrase phrases rest

theorem matchPhrase?_eq_none_iff (hw : WellFormed phrases) :
    matchPhrase? phrases s = none ↔ ¬ BeginsPhrase phrases s := by
  constructor
  · rintro h ⟨⟨a, words⟩, hp, n, t, hn, ht, rfl⟩
    rw [matchPhrase?_append hw hp hn ht] at h
    cases h
  · intro h
    refine Option.eq_none_iff_forall_ne_some.mpr fun ⟨a, len⟩ hm => h ?_
    obtain ⟨words, n, t, hp, hn, ht, rfl, -⟩ := exists_of_matchPhrase? hw hm
    exact ⟨(a, words), hp, n, t, hn, ht, rfl⟩

theorem not_beginsPhrase_of_stops (hw : WellFormed phrases) (hs : Stops isNameChar s) :
    ¬ BeginsPhrase phrases s :=
  (matchPhrase?_eq_none_iff hw).mp (matchPhrase?_eq_none_of_stops hw hs)

theorem phraseFree_nil (hw : WellFormed phrases) : PhraseFree phrases b q [] := by
  intro front rest h _ _
  obtain ⟨-, rfl⟩ := List.append_eq_nil_iff.mp h.symm
  exact not_beginsPhrase_of_stops hw stops_nil

theorem phraseFree_cons : PhraseFree phrases b q (c :: s) ↔
    (q = none → b = false → ¬ BeginsPhrase phrases (c :: s)) ∧
      PhraseFree phrases (isNameChar c) (q.step c) s := by
  constructor
  · intro h
    refine ⟨h [] (c :: s) rfl, fun front rest he => ?_⟩
    exact h (c :: front) rest (congrArg (c :: ·) he)
  · rintro ⟨hc, hs⟩ front rest he hq hb
    cases front with
    | nil =>
      obtain rfl : c :: s = rest := he
      exact hc hq hb
    | cons d front =>
      obtain ⟨rfl, rfl⟩ := List.cons.inj he
      exact hs front rest rfl hq hb

/-- A text is left in one piece exactly if no phrase stands in it. -/
theorem cutFrom_eq_iff (hw : WellFormed phrases) :
    cutFrom phrases b q 0 s = ⟨s, []⟩ ↔ PhraseFree phrases b q s := by
  induction s generalizing b q with
  | nil => simp [cutFrom_nil, phraseFree_nil hw]
  | cons c s ih =>
    rw [phraseFree_cons, ← ih]
    by_cases hbegins : q = none ∧ b = false ∧ BeginsPhrase phrases (c :: s)
    · obtain ⟨rfl, rfl, ⟨a, words⟩, ha, n, t, hn, ht, he⟩ := hbegins
      have h : BeginsPhrase phrases (c :: s) := ⟨_, ha, n, t, hn, ht, he⟩
      rw [he, cutFrom_phrase hw ha hn ht, ← he]
      simp [Cut.openSection, h]
    · have hnone : q.isOutside c = true → b = false → matchPhrase? phrases (c :: s) = none := by
        intro ho hb
        refine (matchPhrase?_eq_none_iff hw).mpr fun h => hbegins ⟨?_, hb, h⟩
        cases q with
        | none => rfl
        | some quote => cases ho
      rw [cutFrom_cons hnone, and_iff_right fun hq hb h => hbegins ⟨hq, hb, h⟩]
      cases cutFrom phrases (isNameChar c) (q.step c) 0 s
      simp [Cut.cons]

instance : Decidable (PhraseFree Sql.Clause.phrases b q s) :=
  decidable_of_iff ((cutFrom Sql.Clause.phrases b q 0 s).lead = s ∧
    (cutFrom Sql.Clause.phrases b q 0 s).sections.isEmpty = true) <| by
      rw [← cutFrom_eq_iff Sql.reserves_phrases.toWellFormed]
      cases cutFrom Sql.Clause.phrases b q 0 s
      simp

theorem beginsPhrase_append_iff (hw : WellFormed phrases) (hg : ∀ c ∈ g, isNameChar c = false) :
    BeginsPhrase phrases (s ++ g) ↔ BeginsPhrase phrases s := by
  constructor
  · rintro ⟨phrase, hp, n, t, hn, ht, he⟩
    rcases List.append_eq_append_iff.mp he with ⟨m, rfl, rfl⟩ | ⟨m, rfl, rfl⟩
    · have hm : m = [] := by
        by_contra hne
        have hlast := hn.last (hw.isWord _ hp) (m.getLast hne)
          (by rw [List.getLast?_append, List.getLast?_eq_some_getLast hne]; rfl)
        rw [hg _ (List.mem_append_left _ (List.getLast_mem hne))] at hlast
        cases hlast
      exact ⟨phrase, hp, s, [], by simpa [hm] using hn, stops_nil, by simp⟩
    · refine ⟨phrase, hp, n, m, hn, ?_, rfl⟩
      cases m with
      | nil => exact stops_nil
      | cons d m => simpa using ht
  · rintro ⟨phrase, hp, n, t, hn, ht, rfl⟩
    have hstop : Stops isNameChar g := fun c hc => hg c (List.mem_of_mem_head? hc)
    exact ⟨phrase, hp, n, t ++ g, hn, ht.append hstop, List.append_assoc ..⟩

/-- No phrase begins in characters that are not of names, nor goes on into them. -/
theorem phraseFree_append_iff (hw : WellFormed phrases) (hg : ∀ c ∈ g, isNameChar c = false) :
    PhraseFree phrases b q (s ++ g) ↔ PhraseFree phrases b q s := by
  induction s generalizing b q with
  | nil =>
    refine iff_of_true (fun front rest he _ _ => ?_) (phraseFree_nil hw)
    refine not_beginsPhrase_of_stops hw fun c hc => hg c ?_
    rw [List.nil_append] at he
    exact he ▸ List.mem_append_right front (List.mem_of_mem_head? hc)
  | cons c s ih =>
    have hbegins := beginsPhrase_append_iff (s := c :: s) hw hg
    rw [List.cons_append] at hbegins ⊢
    rw [phraseFree_cons, phraseFree_cons, ih, hbegins]

end PhraseFree

section Trim

variable {separator : Char} {s t g : List Char} {xs : List (List Char)}

theorem map_trim_joinPieces_blank (hg : AllBlank g) (hx : xs ≠ []) :
    (joinPieces xs [g]).map trim = xs.map trim := by
  induction xs with
  | nil => exact absurd rfl hx
  | cons x xs ih =>
    cases xs with
    | nil => exact congrArg (fun y => [y]) (trim_append_blank hg)
    | cons x' xs => rw [joinPieces, List.map_cons, ih (by simp), ← List.map_cons]

theorem not_mem_of_allBlank (hsep : isBlank separator = false) (hg : AllBlank g) :
    separator ∉ g := by
  intro hmem
  rw [hg separator hmem] at hsep
  cases hsep

theorem map_trim_splitTopLevel_blank_append (hsep : isBlank separator = false) (hg : AllBlank g) :
    (splitTopLevel separator (g ++ s)).map trim = (splitTopLevel separator s).map trim := by
  have hunbroken : Unbroken separator g :=
    .of_neutral (fun c hc => (neutral_of_isBlank (hg c hc)).1) (not_mem_of_allBlank hsep hg)
  rw [hunbroken.splitTopLevel_append, map_trim_modifyHead hg]

theorem map_trim_splitTopLevel_append_blank (hsep : isBlank separator = false) (hg : AllBlank g) :
    (splitTopLevel separator (s ++ g)).map trim = (splitTopLevel separator s).map trim := by
  have h := Nesting.split_append separator {} s g
  rw [Nesting.split_of_not_mem (not_mem_of_allBlank hsep hg)] at h
  exact (congrArg (List.map trim) h).trans
    (map_trim_joinPieces_blank hg (Nesting.split_ne_nil separator {} s))

/-- Blanks at the two ends of a text are trimmed off its first and its last piece. -/
theorem map_trim_splitTopLevel_trim (hsep : isBlank separator = false) (s : List Char) :
    (splitTopLevel separator (trim s)).map trim = (splitTopLevel separator s).map trim := by
  obtain ⟨g, g', hg, hg', he⟩ := exists_eq_append_trim s
  calc (splitTopLevel separator (trim s)).map trim
      = (splitTopLevel separator (g ++ (trim s ++ g'))).map trim := by
        rw [map_trim_splitTopLevel_blank_append hsep hg,
          map_trim_splitTopLevel_append_blank hsep hg']
    _ = (splitTopLevel separator s).map trim := by rw [← he]

end Trim

namespace Spacing

variable (g : Spacing) {s : List Char}

theorem after_none : Quotation.after Option.none g.chars = Option.none :=
  Quotation.after_none_of_forall fun c hc => isQuote_of_isGap (g.isGap c hc)

theorem after_append (s : List Char) :
    Quotation.after Option.none (g.chars ++ s) = Quotation.after Option.none s := by
  rw [Quotation.after_append, g.after_none]

theorem phraseFree_append {α : Type} {phrases : List (α × List String)} (hw : WellFormed phrases)
    (h : PhraseFree phrases false Option.none s) :
    PhraseFree phrases false Option.none (g.chars ++ s) := by
  rw [← cutFrom_eq_iff hw] at h ⊢
  have hpasses := g.passes hw (t := s)
  rw [hpasses, h]
  rfl

end Spacing

namespace Sql

theorem readSelect_trim (s : List Char) : readSelect (trim s) = readSelect s := by
  rw [readSelect, readSelect, map_trim_splitTopLevel_trim (by decide)]

def Clause.Value : Clause → Type
  | .source => String
  | .filter => Condition
  | .groupBy => String
  | .orderBy => SortKey
  | .limit => UInt64

def Clause.read? : (clause : Clause) → List Char → Except Crash (Option clause.Value)
  | .source, s => .ok (readName? s)
  | .filter, s => readFilter? s
  | .groupBy, s => .ok (readName? s)
  | .orderBy, s => .ok (sortKey? s .asc)
  | .limit, s => .ok (first? count s)

namespace Statement

variable {q q' : Statement}

def slot (q : Statement) : (clause : Clause) → Option clause.Value
  | .source => q.source
  | .filter => q.filter
  | .groupBy => q.groupBy
  | .orderBy => q.orderBy
  | .limit => q.limit

theorem eq_of_slot (hselect : q.select = q'.select)
    (h : ∀ clause, q.slot clause = q'.slot clause) : q = q' := by
  have hsource : q.source = q'.source := h .source
  have hfilter : q.filter = q'.filter := h .filter
  have hgroupBy : q.groupBy = q'.groupBy := h .groupBy
  have horderBy : q.orderBy = q'.orderBy := h .orderBy
  have hlimit : q.limit = q'.limit := h .limit
  cases q
  cases q'
  simp_all

/-- Fills what a statement has of a clause, unless it has it already. -/
def fill (q : Statement) : (clause : Clause) → Option clause.Value → Statement
  | .source, v => { q with source := q.source.or v }
  | .filter, v => { q with filter := q.filter.or v }
  | .groupBy, v => { q with groupBy := q.groupBy.or v }
  | .orderBy, v => { q with orderBy := q.orderBy.or v }
  | .limit, v => { q with limit := q.limit.or v }

theorem addClause_eq (clause : Clause) (body : List Char) :
    q.addClause clause body = (clause.read? body).map (q.fill clause) := by
  cases clause with
  | filter =>
    rw [addClause, Clause.read?]
    rcases readFilter? body with crash | condition
    · rfl
    · simp [Except.map, fill]
  | source | groupBy | orderBy | limit =>
    simp only [addClause, Option.orElse_eq_orElse, Option.orElse_eq_or]
    rfl

theorem select_fill (clause : Clause) (v : Option clause.Value) :
    (q.fill clause v).select = q.select := by
  cases clause <;> rfl

theorem slot_fill (clause : Clause) (v : Option clause.Value) :
    (q.fill clause v).slot clause = (q.slot clause).or v := by
  cases clause <;> rfl

/-- A clause is only taken into its own slot. -/
theorem slot_fill_of_ne {clause other : Clause} (h : clause ≠ other) (v : Option clause.Value) :
    (q.fill clause v).slot other = q.slot other := by
  cases clause <;> cases other <;> first | rfl | exact absurd rfl h

end Statement

/-- The text of a select list or of a clause. It may be anything in which no quotation stays open
and neither a clause keyword nor a semicolon stands. -/
structure ClauseText where
  chars : List Char
  closed : Quotation.after none chars = none
  free : PhraseFree Clause.phrases false none chars
  no_semicolon : ';' ∉ chars

/-- A clause keyword with gaps around it, and the text of the clause. -/
structure Segment where
  clause : Clause
  words : List String
  mem : (clause, words) ∈ Clause.phrases
  heading : Heading words
  body : ClauseText

namespace Segment

variable (s : Segment) {t : List Char}

def chars : List Char :=
  s.heading.withContent s.body.chars

theorem isWord : ∀ word ∈ s.words, IsWord word :=
  reserves_phrases.isWord _ s.mem

/-- A clause does not begin with a word that comes second in the keyword of another one. -/
theorem noLaterWord (ht : Stops isNameChar t) :
    NoLaterWord Clause.phrases (s.heading.chars ++ t) := by
  obtain ⟨word, hword, m, r, hm, he, hr⟩ := s.heading.isPhrase.exists_head s.isWord
  have hname := hm.isName (s.isWord word (List.mem_of_mem_head? hword))
  have hlater : ∀ phrase ∈ Clause.phrases, ∀ word ∈ phrase.2.head?, ∀ other ∈ Clause.phrases,
      ∀ later ∈ other.2.tail, IsWord later ∧ asciiLower word.toList ≠ asciiLower later.toList := by
    decide
  rw [he, List.append_assoc]
  refine ⟨stops_isGap_of_isName hname, fun other ho later hl => ?_⟩
  obtain ⟨hisWord, hne⟩ := hlater _ s.mem word hword other ho later hl
  refine keyword_eq_none_of_isName hisWord hname (hr.append ht) fun h => hne ?_
  exact hm.symm.trans h

theorem no_semicolon : ';' ∉ s.chars := by
  have hgap : ∀ g : Gap, ';' ∉ g.chars := fun g hg => absurd (g.isGap _ hg) (by decide)
  have hheading : ';' ∉ s.heading.chars := fun h =>
    absurd (s.heading.isPhrase.isNameChar_or_isGap s.isWord _ h) (by decide)
  simp only [chars, Heading.withContent, List.mem_append, not_or]
  exact ⟨hgap _, hheading, hgap _, s.body.no_semicolon⟩

/-- The clause is a filter, and one of the parts of its condition crashes. -/
def Breaks : Prop := s.clause = .filter ∧ BreaksCondition (trim s.body.chars)

instance : Decidable s.Breaks := by unfold Breaks; infer_instance

/-- What the text of the clause gives for a clause, or nothing if it crashes. -/
def found (clause : Clause) : Option clause.Value :=
  (clause.read? (trim s.body.chars)).toOption.join

end Segment

/-- Trimming the end of a text with a clause in it only trims what stands behind its keyword. -/
theorem Segment.trimEnd_append (s : Segment) (w t : List Char) :
    trimEnd (w ++ (s.chars ++ t)) = w ++ s.heading.before.chars ++
      (s.heading.chars ++ trimEnd (s.heading.after.chars ++ s.body.chars ++ t)) := by
  have hlast : ∀ c ∈ (w ++ s.heading.before.chars ++ s.heading.chars).getLast?,
      isBlank c = false := by
    intro c hc
    rw [List.getLast?_append, List.getLast?_eq_some_getLast
      (s.heading.isPhrase.chars_ne_nil s.isWord), Option.some_or,
      ← List.getLast?_eq_some_getLast] at hc
    exact isBlank_of_isNameChar (s.heading.isPhrase.last s.isWord c hc)
  have h := trimEnd_append_of_last (t := s.heading.after.chars ++ s.body.chars ++ t) hlast
  simpa only [Segment.chars, Heading.withContent, List.append_assoc] using h

/-- A clause keyword opens a section, and the text in front of it stays in one piece. -/
theorem Segment.cutAtPhrases_append (s : Segment) {w rest : List Char}
    (hclosed : Quotation.after none w = none) (hfree : PhraseFree Clause.phrases false none w)
    (hrest : Stops isNameChar rest) :
    cutAtPhrases Clause.phrases (w ++ s.heading.before.chars ++ (s.heading.chars ++ rest)) =
      ⟨w ++ s.heading.before.chars,
        ⟨s.clause, s.heading.chars, (cutAtPhrases Clause.phrases rest).lead⟩ ::
          (cutAtPhrases Clause.phrases rest).sections⟩ := by
  have hw := reserves_phrases.toWellFormed
  have hfront : cutFrom Clause.phrases false none 0 (w ++ s.heading.before.chars) =
      ⟨w ++ s.heading.before.chars, []⟩ := by
    refine (cutFrom_eq_iff hw).mpr ((phraseFree_append_iff hw fun c hc => ?_).mpr hfree)
    exact isNameChar_of_isGap (s.heading.before.isGap c hc)
  have hquote : Quotation.after none (w ++ s.heading.before.chars) = none := by
    rw [Quotation.after_append, hclosed, Spacing.after_none]
  have hcut := cutFrom_phrase hw s.mem s.heading.isPhrase hrest
  rw [cutAtPhrases, cutFrom_append hw (s.noLaterWord hrest) (congrArg Cut.lead hcut)
    (.inr (s.heading.before.endsName_append w)) hquote, hfront, hcut]
  rfl

/-- A text of clauses is cut at their keywords, whatever stands in front of them. -/
theorem cutAtPhrases_segments (segments : List Segment) {w : List Char}
    (hclosed : Quotation.after none w = none) (hfree : PhraseFree Clause.phrases false none w) :
    trim (cutAtPhrases Clause.phrases (trimEnd (w ++ segments.flatMap Segment.chars))).lead =
        trim w ∧
      (cutAtPhrases Clause.phrases (trimEnd (w ++ segments.flatMap Segment.chars))).sections.map
          (fun s => (s.phrase, trim s.body)) =
        segments.map fun s => (s.clause, trim s.body.chars) := by
  have hw := reserves_phrases.toWellFormed
  -- the text in front of the first clause becomes the text of this clause in the induction
  induction segments generalizing w with
  | nil =>
    obtain ⟨g, hg, he⟩ := exists_eq_trimEnd_append w
    have hname : ∀ c ∈ g, isNameChar c = false := fun c hc => isNameChar_of_isBlank (hg c hc)
    rw [he, phraseFree_append_iff hw hname, ← cutFrom_eq_iff hw] at hfree
    rw [List.flatMap_nil, List.append_nil, cutAtPhrases, hfree]
    refine ⟨?_, rfl⟩
    conv_rhs => rw [he, trim_append_blank hg]
  | cons s segments ih =>
    obtain ⟨hlead, hsections⟩ := ih ((s.heading.after.after_append _).trans s.body.closed)
      (s.heading.after.phraseFree_append hw s.body.free)
    have hstop : Stops isNameChar
        (trimEnd (s.heading.after.chars ++ s.body.chars ++ segments.flatMap Segment.chars)) := by
      rw [List.append_assoc]
      exact s.heading.after.stops_isNameChar.trimEnd
    have hbody : trim (s.heading.after.chars ++ s.body.chars) = trim s.body.chars :=
      trim_blank_append s.heading.after.allBlank
    rw [List.flatMap_cons, s.trimEnd_append, s.cutAtPhrases_append hclosed hfree hstop]
    refine ⟨trim_append_blank s.heading.before.allBlank, ?_⟩
    rw [List.map_cons, List.map_cons, hsections, hlead, hbody]

namespace Statement

variable {q : Statement} {segments : List Segment} {clause : Clause}

def addSegment (q : Statement) (s : Segment) : Except Crash Statement :=
  q.addClause s.clause (trim s.body.chars)

def fillSegment (q : Statement) (s : Segment) : Statement :=
  q.fill s.clause (s.found s.clause)

/-- What the first clause of a kind that can be read gives. -/
def firstFound (segments : List Segment) (clause : Clause) : Option clause.Value :=
  (segments.filter (·.clause = clause)).findSome? (·.found clause)

theorem addSections_eq {sections : List (Section Clause)}
    (h : sections.map (fun s => (s.phrase, trim s.body)) =
      segments.map fun s => (s.clause, trim s.body.chars)) :
    q.addSections sections = segments.foldlM addSegment q := by
  rw [addSections_eq_foldlM, h, List.foldlM_map]
  rfl

theorem exists_error_addSegment_iff (q : Statement) (s : Segment) :
    (∃ crash, q.addSegment s = .error crash) ↔ s.Breaks :=
  exists_error_addClause_iff

theorem addSegment_eq {s : Segment} (h : ¬ s.Breaks) : q.addSegment s = .ok (q.fillSegment s) := by
  rw [fillSegment, Segment.found]
  rw [← exists_error_addSegment_iff q s, addSegment, addClause_eq] at h
  rw [addSegment, addClause_eq]
  rcases hread : s.clause.read? (trim s.body.chars) with crash | v
  · exact absurd ⟨crash, by rw [hread]; rfl⟩ h
  · rfl

/-- Clauses that do not crash are taken into the statement one after the other. -/
theorem foldlM_addSegment (h : ∀ s ∈ segments, ¬ s.Breaks) :
    segments.foldlM addSegment q = .ok (segments.foldl fillSegment q) := by
  induction segments generalizing q with
  | nil => rfl
  | cons s segments ih =>
    rw [List.forall_mem_cons] at h
    rw [List.foldlM_cons, addSegment_eq h.1, List.foldl_cons, ← ih h.2]
    rfl

theorem select_foldl : (segments.foldl fillSegment q).select = q.select := by
  induction segments generalizing q with
  | nil => rfl
  | cons s segments ih => rw [List.foldl_cons, ih, fillSegment, select_fill]

theorem slot_empty (items : List Item) (clause : Clause) :
    ({ select := items } : Statement).slot clause = none := by
  cases clause <;> rfl

theorem firstFound_cons (s : Segment) : firstFound (s :: segments) clause =
    if s.clause = clause then (s.found clause).or (firstFound segments clause)
    else firstFound segments clause := by
  unfold firstFound
  rw [List.filter_cons]
  by_cases h : s.clause = clause
  · rw [if_pos (by simpa using h), if_pos h, List.findSome?_cons]
    cases s.found clause <;> rfl
  · rw [if_neg (by simpa using h), if_neg h]

theorem slot_foldl : (segments.foldl fillSegment q).slot clause =
    (q.slot clause).or (firstFound segments clause) := by
  induction segments generalizing q with
  | nil => exact Option.or_none.symm
  | cons s segments ih =>
    rw [List.foldl_cons, ih, fillSegment, firstFound_cons]
    split
    · next h =>
      subst h
      rw [slot_fill, Option.or_assoc]
    · next h => rw [slot_fill_of_ne h]

end Statement

def statementChars (select : ClauseText) (segments : List Segment) : List Char :=
  "SELECT".toList ++ (' ' :: select.chars ++ segments.flatMap Segment.chars)

section Parse

variable {select : ClauseText} {segments : List Segment}

theorem no_semicolon_statementChars : ';' ∉ statementChars select segments := by
  intro h
  rcases List.mem_append.mp h with hword | h
  · exact absurd hword (by decide)
  rcases List.mem_append.mp h with hselect | hsegments
  · exact (List.mem_cons.mp hselect).elim (by decide) select.no_semicolon
  · obtain ⟨s, -, hs⟩ := List.mem_flatMap.mp hsegments
    exact s.no_semicolon hs

theorem dropSemicolon_of_not_mem {s : List Char} (h : ';' ∉ s) :
    Statement.dropSemicolon s = s := by
  rw [Statement.dropSemicolon, if_neg]
  intro hlast
  exact h (List.mem_of_getLast? hlast)

/-- Clauses are read one after the other, each as its own text says. -/
theorem parse?_statementChars : Statement.parse? (statementChars select segments) =
    (segments.foldlM Statement.addSegment { select := readSelect select.chars }).map some := by
  have hw := reserves_phrases.toWellFormed
  have htrim : trim (statementChars select segments) = "SELECT".toList ++
      trimEnd (' ' :: select.chars ++ segments.flatMap Segment.chars) :=
    Trimmed.trim_append ⟨by decide, by decide⟩ (by decide)
  have hnotin : ';' ∉ trim (statementChars select segments) := fun h =>
    no_semicolon_statementChars (mem_of_mem_trim h)
  have hstop : Stops isNameChar
      (trimEnd (' ' :: select.chars ++ segments.flatMap Segment.chars)) :=
    Stops.trimEnd (stops_cons.mpr (by decide))
  have hfree : PhraseFree Clause.phrases false none (' ' :: select.chars) :=
    Gap.space.phraseFree_append hw select.free
  have hclosed : Quotation.after none (' ' :: select.chars) = none :=
    (Gap.space.after_append select.chars).trans select.closed
  obtain ⟨hlead, hsections⟩ := cutAtPhrases_segments segments hclosed hfree
  have hselect : trim (' ' :: select.chars) = trim select.chars :=
    trim_blank_append Gap.space.allBlank
  have hspelled : Spelled "SELECT" "SELECT".toList := rfl
  rw [Statement.parse?, dropSemicolon_of_not_mem hnotin, htrim,
    keyword_append hspelled hstop]
  simp only [Statement.addSections_eq hsections]
  rw [← readSelect_trim, hlead, hselect, readSelect_trim]

theorem exists_error_parse?_iff :
    (∃ crash, Statement.parse? (statementChars select segments) = .error crash) ↔
      ∃ s ∈ segments, s.Breaks := by
  rw [parse?_statementChars, exists_error_map_iff]
  exact exists_error_foldlM_iff Statement.exists_error_addSegment_iff

/-- A statement whose filters do not crash is read. -/
theorem parse?_of_not_breaks (h : ∀ s ∈ segments, ¬ s.Breaks) :
    Statement.parse? (statementChars select segments) =
      .ok (some (segments.foldl Statement.fillSegment { select := readSelect select.chars })) := by
  rw [parse?_statementChars, Statement.foldlM_addSegment h]
  rfl

end Parse

/-- Clauses do not depend on each other. A statement crashes exactly if one of its filters does. Any
other is read whatever stands in its clauses, its select list is read from its own text, and of the
clauses of one kind the first counts that gives something on its own. Clauses of different kinds may
change places. -/
theorem clauses_independent (select : ClauseText) (segments : List Segment) :
    ((∃ crash, Statement.parse? (statementChars select segments) = .error crash) ↔
      ∃ s ∈ segments, s.Breaks) ∧
    ((∀ s ∈ segments, ¬ s.Breaks) →
      ∃ q, Statement.parse? (statementChars select segments) = .ok (some q) ∧
        q.select = readSelect select.chars ∧
        ∀ clause, q.slot clause = (segments.filter (·.clause = clause)).findSome? fun s =>
          (Statement.parse? (statementChars select [s])).toOption.join.bind (·.slot clause)) ∧
    ∀ reordered : List Segment,
      (∀ clause, reordered.filter (·.clause = clause) = segments.filter (·.clause = clause)) →
      Statement.parse? (statementChars select reordered) =
        Statement.parse? (statementChars select segments) := by
  refine ⟨?_, fun hbreaks => ?_, fun reordered h => ?_⟩
  · exact exists_error_parse?_iff
  · refine ⟨_, parse?_of_not_breaks hbreaks, Statement.select_foldl, fun clause => ?_⟩
    rw [Statement.slot_foldl, Statement.slot_empty, Option.none_or, Statement.firstFound]
    refine findSome?_congr fun s hs => ?_
    obtain ⟨hmem, hclause⟩ := List.mem_filter.mp hs
    obtain rfl := of_decide_eq_true hclause
    have halone : ∀ t ∈ [s], ¬ t.Breaks := by simpa using hbreaks s hmem
    rw [parse?_of_not_breaks halone]
    change s.found s.clause =
      (Statement.fillSegment { select := readSelect select.chars } s).slot s.clause
    rw [Statement.fillSegment, Statement.slot_fill, Statement.slot_empty, Option.none_or]
  · have hmem : ∀ s, s ∈ reordered ↔ s ∈ segments := fun s => by
      have hs := congrArg (s ∈ ·) (h s.clause)
      simpa using hs
    by_cases hbreaks : ∃ s ∈ segments, s.Breaks
    · obtain ⟨s, hs, hbreak⟩ := hbreaks
      obtain ⟨crash, hcrash⟩ := exists_error_parse?_iff.mpr ⟨s, hs, hbreak⟩
      obtain ⟨crash', hcrash'⟩ := exists_error_parse?_iff.mpr ⟨s, (hmem s).mpr hs, hbreak⟩
      rw [hcrash, hcrash', crash.eq_insideCharacter, crash'.eq_insideCharacter]
    · have hsegments : ∀ s ∈ segments, ¬ s.Breaks := fun s hs h => hbreaks ⟨s, hs, h⟩
      rw [parse?_of_not_breaks hsegments,
        parse?_of_not_breaks fun s hs => hsegments s ((hmem s).mp hs)]
      refine congrArg (fun q => Except.ok (some q)) (Statement.eq_of_slot ?_ fun clause => ?_)
      · rw [Statement.select_foldl, Statement.select_foldl]
      · rw [Statement.slot_foldl, Statement.slot_foldl, Statement.firstFound, h clause]
        rfl

theorem clauses_independent_of_reordered :
    ∃ (select : ClauseText) (segments reordered : List Segment),
      statementChars select segments =
        "SELECT user WHERE = = LIMIT all FROM logs WHERE host = 'limit 1' LIMIT 2".toList ∧
      statementChars select reordered =
        "SELECT user FROM logs LIMIT all LIMIT 2 WHERE = = WHERE host = 'limit 1'".toList ∧
      (∀ clause, reordered.filter (·.clause = clause) = segments.filter (·.clause = clause)) ∧
      (∀ s ∈ segments, ¬ s.Breaks) ∧
      ∃ q, Statement.parse? (statementChars select segments) = .ok (some q) ∧
        Statement.parse? (statementChars select reordered) = .ok (some q) := by
  let select : ClauseText := ⟨"user".toList, by decide, by decide +kernel, by decide⟩
  let source : Segment := ⟨.source, _, by decide, .single "FROM",
    "logs".toList, by decide, by decide +kernel, by decide⟩
  let unread : Segment := ⟨.filter, _, by decide, .single "WHERE",
    "= =".toList, by decide, by decide +kernel, by decide⟩
  let filter : Segment := ⟨.filter, _, by decide, .single "WHERE",
    "host = 'limit 1'".toList, by decide, by decide +kernel, by decide⟩
  let all : Segment := ⟨.limit, _, by decide, .single "LIMIT",
    "all".toList, by decide, by decide +kernel, by decide⟩
  let limit : Segment := ⟨.limit, _, by decide, .single "LIMIT",
    ['2'], by decide, by decide +kernel, by decide⟩
  let segments := [unread, all, source, filter, limit]
  have hfilter : ∀ clause, [source, all, limit, unread, filter].filter (·.clause = clause) =
      segments.filter (·.clause = clause) := by
    intro clause
    cases clause <;> rfl
  have hbreaks : ∀ s ∈ segments, ¬ s.Breaks := by decide +kernel
  obtain ⟨-, hread, hreordered⟩ := clauses_independent select segments
  obtain ⟨q, hq, -⟩ := hread hbreaks
  exact ⟨select, _, _, by decide, by decide, hfilter, hbreaks, q, hq,
    (hreordered _ hfilter).trans hq⟩

/-- The text of a filter may make a statement crash that would be read without it. -/
theorem parse?_of_kelvinSign : ∃ (select : ClauseText) (segments : List Segment),
    statementChars select segments = "SELECT * FROM t WHERE a LI\u212aE x LIMIT 1".toList ∧
      Statement.parse? (statementChars select segments) = .error .insideCharacter := by
  refine ⟨⟨['*'], by decide, by decide +kernel, by decide⟩,
    [⟨.source, _, by decide, .single "FROM", ['t'], by decide, by decide +kernel, by decide⟩,
      ⟨.filter, _, by decide, .single "WHERE", "a LI\u212aE x".toList, by decide,
        by decide +kernel, by decide⟩,
      ⟨.limit, _, by decide, .single "LIMIT", ['1'], by decide, by decide +kernel, by decide⟩],
    by decide, by decide +kernel⟩

end Sql

end LogLab.Query
