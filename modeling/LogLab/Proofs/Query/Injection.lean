import LogLab.Proofs.Query.Composition
import LogLab.Proofs.Query.SelectStatement

/-! # Values between quotes

What stands between the quotes of a literal never changes how a query is cut. A query with a quoted
value in a filter compiles to one pipeline in which only the value of one predicate changes with it,
or crashes whatever the value.
-/

namespace LogLab.Query

open Scan Text

variable {separator quote : Char} {s t value : List Char} {reserved : List String}

/-- A filter with a place for a quoted value. -/
structure Slot where
  word : Keyword "WHERE"
  gap : Gap
  test : Test Sql.reserved
  quote : Char
  isQuote : isQuote quote = true

namespace Slot

variable (slot : Slot)

def fill (value : List Char) : List Char :=
  slot.word.chars ++ (slot.gap.chars ++ (slot.test.chars ++ quotation slot.quote value))

def predicate (value : List Char) : Predicate :=
  slot.test.predicate value

/-- The query with a value in the place, between two other texts. -/
def compiled (dialect : Dialect) (front rest value : List Char) :
    Except (Halt QueryError) Pipeline :=
  compile dialect (String.ofList (front ++ (slot.fill value ++ rest)))

/-- The texts all crash, or they compile to one pipeline in which the value only stands in the
predicate. -/
def Carries (compiled : List Char → Except (Halt QueryError) Pipeline) : Prop :=
  (∃ crash, ∀ value, slot.quote ∉ value → compiled value = .error (.crashed crash)) ∨
    ∃ before others after, ∀ value, slot.quote ∉ value → compiled value =
      .ok ⟨before ++ .filter ⟨slot.predicate value :: others⟩ :: after⟩

end Slot

/-- The predicates behind the first `AND` of a text. -/
def laterPredicates (t : List Char) : Except Crash (List Predicate) :=
  (((cutAtPhrases conjunction t).sections.map Section.body).map trim).filterMapM
    Scan.predicate.first?

/-- The text ends where a command of a pipeline begins, apart from blanks. -/
inductive SegmentStart : List Char → Prop where
  | first {g : List Char} : AllBlank g → SegmentStart g
  | next {s g : List Char} : Closed s → AllBlank g → SegmentStart (s ++ '|' :: g)

namespace Test

variable (p : Test reserved)

theorem first?_predicate_quotation (hq : isQuote quote = true) (hv : quote ∉ value) :
    Scan.predicate.first? (p.chars ++ (quotation quote value ++ t)) =
      .ok (some (p.predicate value)) := by
  refine RiskyScan.first?_eq (p.predicate_append (t := t) (stops_cons.mpr (isGap_of_isQuote hq)) ?_)
  simpa [quotation] using literal_quoted hq hv

theorem trim_quotation (hq : isQuote quote = true) :
    trim (p.chars ++ (quotation quote value ++ t)) =
      p.chars ++ (quotation quote value ++ trimEnd t) := by
  have h := (p.trimmed_append (trimmed_quotation (s := value) hq) (by simp [quotation])).trim_append
    (t := t) (List.append_ne_nil_of_left_ne_nil p.chars_ne_nil _)
  simpa only [List.append_assoc] using h

/-- A quoted value in the first predicate of a condition leaves the later predicates as they are. -/
theorem readCondition_quotation (hq : isQuote quote = true) (hand : "AND" ∈ reserved)
    (hv : quote ∉ value) : readCondition (p.chars ++ (quotation quote value ++ t)) =
      (laterPredicates t).map fun others => ⟨p.predicate value :: others⟩ := by
  have hpasses : Passes conjunction (p.chars ++ quotation quote value) t :=
    (p.passes (reserves_conjunction hand)).append (passes_quotation hq hv)
  have hpieces : splitPhrase ["AND"] (p.chars ++ (quotation quote value ++ t)) =
      (p.chars ++ (quotation quote value ++ (cutAtPhrases conjunction t).lead)) ::
        (cutAtPhrases conjunction t).sections.map Section.body := by
    rw [← List.append_assoc, splitPhrase, cutAtPhrases, hpasses, Cut.pieces, Cut.prepend,
      List.append_assoc]
    rfl
  rw [readCondition_eq, hpieces, List.map_cons, List.filterMapM_cons, p.trim_quotation hq,
    p.first?_predicate_quotation hq hv, laterPredicates]
  rcases List.filterMapM Scan.predicate.first? _ with crash | others <;> rfl

end Test

namespace Sql.Statement

theorem dropSemicolon_append (h : s.getLast? ≠ some ';') :
    dropSemicolon (s ++ t) = s ++ dropSemicolon t := by
  by_cases ht : t = []
  · simp [ht, dropSemicolon, h]
  · rw [dropSemicolon, dropSemicolon, List.getLast?_append, List.getLast?_eq_some_getLast ht,
      Option.some_or, List.dropLast_append_of_ne_nil ht]
    split <;> rfl

/-- The statement that a text is, neither trimmed nor with a semicolon dropped. -/
def read? (s : List Char) : Except Crash (Option Statement) :=
  match keyword "SELECT" s with
  | some (_, body) =>
    (addSections { select := readSelect (cutAtPhrases Clause.phrases body).lead }
      (cutAtPhrases Clause.phrases body).sections).map some
  | none => .ok none

theorem parse?_eq_read? : parse? s = read? (dropSemicolon (trim s)) := rfl

theorem addClause_filter (q : Statement) (condition : Condition) (clause : Clause)
    (body : List Char) : { q with filter := some condition }.addClause clause body =
      (q.addClause clause body).map fun q => { q with filter := some condition } := by
  cases clause with
  | filter =>
    rw [addClause, addClause]
    rcases readFilter? body with crash | found <;> rfl
  | source | groupBy | orderBy | limit => rfl

/-- A statement that has a filter keeps it. -/
theorem addSections_filter (q : Statement) (condition : Condition)
    (sections : List (Section Clause)) :
    { q with filter := some condition }.addSections sections =
      (q.addSections sections).map fun q => { q with filter := some condition } := by
  induction sections generalizing q with
  | nil => rfl
  | cons first sections ih =>
    have hfirst := addClause_filter q condition first.phrase (trim first.body)
    rw [addSections, List.foldlM_cons, hfirst, addSections, List.foldlM_cons]
    rcases q.addClause first.phrase (trim first.body) with crash | q
    · rfl
    · exact ih q

end Sql.Statement

namespace Slot

variable (slot : Slot)

theorem isName : IsName slot.word.chars :=
  slot.word.spelled.isName (by decide)

theorem quote_ne {c : Char} (hc : Scan.isQuote c = false) : slot.quote ≠ c := by
  rintro rfl
  cases hc.symm.trans slot.isQuote

theorem trimmed_fill : Trimmed (slot.fill value) := by
  have h := slot.isName.trimmed.between (g := slot.gap.chars ++ slot.test.chars) slot.isName.1
    (trimmed_quotation (s := value) slot.isQuote) (by simp [quotation])
  simpa only [fill, List.append_assoc] using h

theorem fill_ne_nil : slot.fill value ≠ [] :=
  List.append_ne_nil_of_left_ne_nil slot.isName.1 _

theorem stops_gap : Stops isNameChar (slot.gap.chars ++ (slot.test.chars ++
    quotation slot.quote value) ++ t) := by
  rw [List.append_assoc]
  exact slot.gap.stops_isNameChar

theorem keyword_fill {word : String} (hw : IsWord word)
    (hne : asciiLower "WHERE".toList ≠ asciiLower word.toList) :
    keyword word (slot.fill value ++ t) = none := by
  rw [fill, List.append_assoc]
  exact keyword_eq_none_of_isName hw slot.isName slot.stops_gap fun h =>
    hne (slot.word.spelled.symm.trans h)

theorem noLaterWord_fill : NoLaterWord Sql.Clause.phrases (slot.fill value ++ t) where
  stops := by
    rw [fill, List.append_assoc]
    exact slot.word.stops_isGap (by decide)
  later := by
    have h : ∀ phrase ∈ Sql.Clause.phrases, ∀ word ∈ phrase.2.tail, IsWord word ∧
        asciiLower "WHERE".toList ≠ asciiLower word.toList := by decide
    exact fun phrase hp word hw => slot.keyword_fill (h phrase hp word hw).1 (h phrase hp word hw).2

/-- The filter opens a section, and the value stands in its body. -/
theorem cutAtPhrases_fill (hv : slot.quote ∉ value) :
    cutAtPhrases Sql.Clause.phrases (slot.fill value ++ t) =
      ⟨[], ⟨.filter, slot.word.chars, slot.gap.chars ++ (slot.test.chars ++
        (quotation slot.quote value ++ (cutAtPhrases Sql.Clause.phrases t).lead))⟩ ::
          (cutAtPhrases Sql.Clause.phrases t).sections⟩ := by
  have hr := Sql.reserves_phrases
  have hpasses : Passes Sql.Clause.phrases
      (slot.gap.chars ++ (slot.test.chars ++ quotation slot.quote value)) t :=
    (slot.gap.passes hr.toWellFormed).append
      ((slot.test.passes hr).append (passes_quotation slot.isQuote hv))
  have hphrase : Phrase ["WHERE"] slot.word.chars := .single slot.word.spelled
  rw [cutAtPhrases, fill, List.append_assoc, cutFrom_phrase hr.toWellFormed (a := .filter)
    (by decide) hphrase slot.stops_gap, hpasses]
  simp only [Cut.openSection, Cut.prepend, List.append_assoc, cutAtPhrases]

/-- The predicates of the filter behind the one with the value. -/
def later (t : List Char) : Except Crash (List Predicate) :=
  laterPredicates (trimEnd (cutAtPhrases Sql.Clause.phrases t).lead)

/-- Takes the filter with a value in its place, and the clauses behind it, into a statement. -/
def addTo (value t : List Char) (q : Sql.Statement) : Except Crash Sql.Statement := do
  let others ← later t
  let filled : Sql.Statement :=
    { q with filter := q.filter <|> some ⟨slot.predicate value :: others⟩ }
  filled.addSections (cutAtPhrases Sql.Clause.phrases t).sections

theorem readFilter?_fill (hv : slot.quote ∉ value) :
    Sql.readFilter? (trim (slot.gap.chars ++ (slot.test.chars ++ (quotation slot.quote value ++
      (cutAtPhrases Sql.Clause.phrases t).lead)))) =
      (later t).map fun others => some ⟨slot.predicate value :: others⟩ := by
  rw [trim_blank_append slot.gap.allBlank, slot.test.trim_quotation slot.isQuote, Sql.readFilter?,
    slot.test.readCondition_quotation slot.isQuote (by decide) hv, later]
  rcases laterPredicates _ with crash | others <;> rfl

theorem addSections_append_fill (hv : slot.quote ∉ value) (q : Sql.Statement)
    (sections : List (Section Sql.Clause)) :
    q.addSections (sections ++ (cutAtPhrases Sql.Clause.phrases (slot.fill value ++ t)).sections) =
      q.addSections sections >>= slot.addTo value t := by
  rw [slot.cutAtPhrases_fill hv, Sql.Statement.addSections, List.foldlM_append]
  refine bind_congr fun q => ?_
  rw [List.foldlM_cons, Sql.Statement.addClause, slot.readFilter?_fill hv, addTo]
  rcases later t with crash | others <;> rfl

/-- The filter is taken into the statement in front of it. -/
theorem read?_append_fill (hs : s = [] ∨ EndsName s) (hq : Quotation.after none s = none)
    (hv : slot.quote ∉ value) : Sql.Statement.read? (s ++ (slot.fill value ++ t)) =
      Sql.Statement.read? s >>= Option.mapM (slot.addTo value t) := by
  have hw := Sql.reserves_phrases.toWellFormed
  have hselect : IsWord "SELECT" := by decide
  rcases hs with rfl | hs
  · rw [List.nil_append, Sql.Statement.read?, slot.keyword_fill hselect (by decide),
      Sql.Statement.read?, keyword_eq_none_of_stops hselect stops_nil]
    rfl
  rw [Sql.Statement.read?, Sql.Statement.read?, keyword_append_of_endsName hselect hs]
  cases hk : keyword "SELECT" s with
  | none => rfl
  | some found =>
    obtain ⟨_, r⟩ := found
    obtain ⟨n, hn, -, rfl⟩ := keyword_eq_some_iff.mp hk
    have hname := hn.isName hselect
    have hne : r ≠ [] := hs.rest_ne_nil fun c hc => hname.2 c (List.mem_of_getLast? hc)
    rw [Quotation.after_append, Quotation.after_none_of_forall fun c hc =>
      isQuote_of_isNameChar (hname.2 c hc)] at hq
    have hfill := slot.cutAtPhrases_fill (t := t) hv
    have hcut := cutFrom_append (b := false) hw slot.noLaterWord_fill (congrArg Cut.lead hfill)
      (.inr (hs.of_append hne)) hq
    simp only [Option.map_some]
    rw [cutAtPhrases, hcut, Cut.extend, ← cutAtPhrases, ← cutAtPhrases,
      slot.addSections_append_fill hv]
    rcases Sql.Statement.addSections _ (cutAtPhrases Sql.Clause.phrases r).sections with crash | q
    · rfl
    · change Except.map some (slot.addTo value t q) = some <$> slot.addTo value t q
      rfl

theorem unbroken_fill (hv : slot.quote ∉ value) : Unbroken '|' (slot.fill value) := by
  have hbar : isNameChar '|' = false := isNameChar_of_mem_signs '|' (by decide)
  exact (Unbroken.of_words hbar rfl fun c hc => .inl (slot.isName.2 c hc)).append
    ((Unbroken.of_words hbar rfl fun c hc => .inr (slot.gap.isGap c hc)).append
      ((slot.test.unbroken hbar rfl (by decide)).append
        (unbroken_quotation slot.isQuote hv (slot.quote_ne rfl))))

/-- The filter is the front of a command, and the other commands do not depend on the value. -/
theorem splitPipeline_fill {front : List Char} (h : SegmentStart front) (rest : List Char) :
    ∃ before tail after, ∀ value, slot.quote ∉ value →
      splitPipeline (front ++ (slot.fill value ++ rest)) =
        before ++ (slot.fill value ++ tail) :: after := by
  obtain ⟨piece, pieces, hrest⟩ := List.exists_cons_of_ne_nil
    (Nesting.split_ne_nil '|' {} rest)
  have hfirst : ∀ g, AllBlank g → ∀ value, slot.quote ∉ value →
      splitPipeline (g ++ (slot.fill value ++ rest)) = (slot.fill value ++ trimEnd piece) ::
        (pieces.map trim).filter fun segment => !segment.isEmpty := by
    intro g hg value hv
    have hsplit := ((Unbroken.of_blanks hg).append (slot.unbroken_fill hv)).splitTopLevel_append
      (t := rest)
    rw [show splitTopLevel '|' rest = piece :: pieces from hrest, List.append_assoc] at hsplit
    have htrim : trim (g ++ slot.fill value ++ piece) = slot.fill value ++ trimEnd piece := by
      rw [List.append_assoc, trim_blank_append hg, slot.trimmed_fill.trim_append slot.fill_ne_nil]
    rw [splitPipeline, hsplit, List.modifyHead_cons, List.map_cons, htrim, List.filter_cons_of_pos]
    simp [slot.fill_ne_nil]
  cases h with
  | first hg => exact ⟨[], _, _, hfirst _ hg⟩
  | @next s g hs hg =>
    refine ⟨splitPipeline s, trimEnd piece, (pieces.map trim).filter fun segment =>
      !segment.isEmpty, fun value hv => ?_⟩
    rw [List.append_assoc, List.cons_append, splitPipeline_append_bar hs, hfirst _ hg value hv]

theorem command_fill : command (slot.fill value ++ t) = ("where".toList,
    slot.test.chars ++ (quotation slot.quote value ++ trimEnd (trimEnd t))) := by
  have hlower : asciiLower slot.word.chars = "where".toList :=
    slot.word.spelled.trans (by decide)
  have hname : name (slot.fill value ++ trimEnd t) = some (slot.word.chars,
      slot.gap.chars ++ (slot.test.chars ++ quotation slot.quote value) ++ trimEnd t) := by
    rw [fill, List.append_assoc]
    exact name_append slot.isName slot.stops_gap
  rw [command, slot.trimmed_fill.trim_append slot.fill_ne_nil, hname]
  simp only [hlower, List.append_assoc]
  rw [trim_blank_append slot.gap.allBlank, slot.test.trim_quotation slot.isQuote]

theorem readSegment?_spl (hv : slot.quote ∉ value) : Spl.readSegment? (slot.fill value ++ t) =
    (laterPredicates (trimEnd (trimEnd t))).map fun others =>
      some (.filter ⟨slot.predicate value :: others⟩) := by
  have hne : "where".toList ≠ "search".toList := by decide
  rw [Spl.readSegment?, slot.command_fill, Spl.operation?, if_neg hne, if_pos rfl, Spl.filter?,
    slot.test.readCondition_quotation slot.isQuote (by decide) hv]
  rcases laterPredicates _ with crash | others <;> rfl

theorem readSegment?_kql (hv : slot.quote ∉ value) : Kql.readSegment? (slot.fill value ++ t) =
    .ok (some (.filter ⟨[slot.predicate value]⟩)) := by
  rw [Kql.readSegment?, slot.command_fill, Kql.operation?, if_pos rfl, Kql.filter?,
    slot.test.trim_quotation slot.isQuote, slot.test.first?_predicate_quotation slot.isQuote hv]
  rfl

/-- A crash in front of the filter, in it or behind it comes whatever the value. -/
theorem carries_of_readSegment? {front : List Char} (h : SegmentStart front)
    (rest : List Char) {dialect : Dialect} {read : List Char → Except Crash (Option Operation)}
    (hcompile : ∀ s, compile dialect (String.ofList s) =
      liftM (((splitPipeline s).filterMapM read).map Pipeline.mk))
    (hread : ∀ t, ∃ later : Except Crash (List Predicate), ∀ value, slot.quote ∉ value →
      read (slot.fill value ++ t) =
        later.map fun others => some (.filter ⟨slot.predicate value :: others⟩)) :
    slot.Carries (slot.compiled dialect front rest) := by
  obtain ⟨before, tail, after, hsplit⟩ := slot.splitPipeline_fill h rest
  obtain ⟨later, hread⟩ := hread tail
  have hcompiled : ∀ value, slot.quote ∉ value → slot.compiled dialect front rest value = _ :=
    fun value hv => (hcompile _).trans (by rw [hsplit value hv, filterMapM_append,
      List.filterMapM_cons, hread value hv])
  generalize before.filterMapM read = first, after.filterMapM read = last at hcompiled
  rcases first with crash | first
  · exact .inl ⟨crash, hcompiled⟩
  rcases later with crash | others
  · exact .inl ⟨crash, hcompiled⟩
  rcases last with crash | last
  · exact .inl ⟨crash, hcompiled⟩
  · exact .inr ⟨first, others, last, hcompiled⟩

theorem carries_pipeline {front : List Char} (h : SegmentStart front) (rest : List Char)
    {dialect : Dialect} (hd : dialect ∈ [Dialect.spl, Dialect.kql]) :
    slot.Carries (slot.compiled dialect front rest) := by
  rcases List.mem_cons.mp hd with rfl | hd
  · refine slot.carries_of_readSegment? h rest (fun s => ?_) fun t =>
      ⟨_, fun value hv => slot.readSegment?_spl hv⟩
    rw [compile, String.toList_ofList, Spl.compile]
  · obtain rfl := List.mem_singleton.mp hd
    refine slot.carries_of_readSegment? h rest (fun s => ?_) fun t =>
      ⟨.ok [], fun value hv => slot.readSegment?_kql hv⟩
    rw [compile, String.toList_ofList, Kql.compile_eq_segments]

section Sql

variable {front rest : List Char} {gap : Gap}

theorem endsName_trimStart : trimStart (front ++ gap.chars) = [] ∨
    EndsName (trimStart (front ++ gap.chars)) := by
  by_cases hne : trimStart (front ++ gap.chars) = []
  · exact .inl hne
  · right
    have hsplit : (front ++ gap.chars).takeWhile isBlank ++ trimStart (front ++ gap.chars) =
        front ++ gap.chars := List.takeWhile_append_dropWhile
    have hends := gap.endsName_append front
    exact (hsplit ▸ hends : EndsName (_ ++ _)).of_append hne

theorem after_trimStart : Quotation.after none (trimStart s) = Quotation.after none s := by
  have hblank : ∀ c ∈ s.takeWhile isBlank, Scan.isQuote c = false := fun c hc =>
    Bool.eq_false_iff.mpr fun hq => by
      have hb := List.all_eq_true.mp List.all_takeWhile c hc
      rw [isBlank_of_isQuote hq] at hb
      cases hb
  have h := Quotation.after_append (q := none) (s := s.takeWhile isBlank) (t := trimStart s)
  rw [Quotation.after_none_of_forall hblank] at h
  rw [← h, trimStart, List.takeWhile_append_dropWhile]

/-- What the text in front of the filter stands for, read behind a semicolon of its own. -/
theorem parse?_front : Sql.Statement.parse? (front ++ gap.chars ++ [';']) =
    Sql.Statement.read? (trimStart (front ++ gap.chars)) := by
  have htrimmed : Trimmed [';'] := ⟨by decide, by decide⟩
  have htrim := htrimmed.trim_append_append (s := front ++ gap.chars) (g := []) (by simp)
  rw [Sql.Statement.parse?_eq_read?]
  rw [List.append_nil] at htrim
  rw [htrim]
  exact congrArg _ Sql.dropSemicolon_append_semicolon

theorem parse?_fill (gap : Gap) (rest : List Char) (hq : Quotation.after none front = none)
    (hv : slot.quote ∉ value) :
    Sql.Statement.parse? (front ++ gap.chars ++ (slot.fill value ++ rest)) =
      Sql.Statement.parse? (front ++ gap.chars ++ [';']) >>=
        Option.mapM (slot.addTo value (Sql.Statement.dropSemicolon (trimEnd rest))) := by
  have hafter : Quotation.after none (trimStart (front ++ gap.chars)) = none := by
    rw [after_trimStart, Quotation.after_append, hq]
    exact Quotation.after_none_of_forall fun c hc => isQuote_of_isGap (gap.isGap c hc)
  have hlast : (trimStart (front ++ gap.chars) ++ slot.fill value).getLast? ≠ some ';' := by
    have hne : slot.quote ≠ ';' := slot.quote_ne rfl
    simpa [fill, quotation, List.getLast?_append, List.getLast?_cons] using hne
  rw [parse?_front, Sql.Statement.parse?_eq_read?,
    slot.trimmed_fill.trim_append_append slot.fill_ne_nil, ← List.append_assoc,
    Sql.Statement.dropSemicolon_append hlast, List.append_assoc,
    slot.read?_append_fill endsName_trimStart hafter hv]

theorem compiled_sql :
    slot.compiled .sql front rest value = compileSql (front ++ (slot.fill value ++ rest)) := by
  rw [compiled, compile, String.toList_ofList]

end Sql

/-- A statement with a filter of its own does not take the value. -/
theorem addTo_of_filter {q : Sql.Statement} (h : q.filter.isSome = true) :
    slot.addTo value t q =
      later t >>= fun _ => q.addSections (cutAtPhrases Sql.Clause.phrases t).sections := by
  obtain ⟨condition, h⟩ := Option.isSome_iff_exists.mp h
  have hkeep : ∀ filter, (q.filter <|> filter) = q.filter := fun filter => by
    rw [h]
    rfl
  simp only [addTo, hkeep]

/-- A statement without a filter takes the value into its filter only. -/
theorem addTo_of_no_filter {q : Sql.Statement} (h : q.filter = none) :
    slot.addTo value t q = later t >>= fun others =>
      (q.addSections (cutAtPhrases Sql.Clause.phrases t).sections).map fun q =>
        { q with filter := some ⟨slot.predicate value :: others⟩ } := by
  rw [addTo, h]
  exact bind_congr fun others => Sql.Statement.addSections_filter q _ _

end Slot

/-- A value between quotes only ever becomes the value of one predicate. In a statement this holds
behind any text that leaves no quotation open; there the query fails or crashes whatever the value,
if the text does not begin a statement or crashes, and does not depend on the value at all if the
text has a filter of its own. In pipelines it holds wherever a command begins. -/
theorem compiled_fill (slot : Slot) (front rest : List Char) :
    (∀ gap : Gap, Quotation.after none front = none →
      match Sql.Statement.parse? (front ++ gap.chars ++ [';']) with
      | .error crash => ∀ value, slot.quote ∉ value →
          slot.compiled .sql (front ++ gap.chars) rest value = .error (.crashed crash)
      | .ok none => ∀ value, slot.quote ∉ value →
          slot.compiled .sql (front ++ gap.chars) rest value = .error (.failed .missingSelect)
      | .ok (some q) =>
        if q.filter.isSome then ∃ outcome : Except Crash Pipeline, ∀ value, slot.quote ∉ value →
          slot.compiled .sql (front ++ gap.chars) rest value = liftM outcome
        else slot.Carries (slot.compiled .sql (front ++ gap.chars) rest)) ∧
    (SegmentStart front → ∀ dialect ∈ [Dialect.spl, Dialect.kql],
      slot.Carries (slot.compiled dialect front rest)) := by
  refine ⟨fun gap hq => ?_, fun h dialect hd => slot.carries_pipeline h rest hd⟩
  have hcompiled : ∀ value, slot.quote ∉ value →
      slot.compiled .sql (front ++ gap.chars) rest value = _ := fun value hv => by
    rw [slot.compiled_sql, compileSql, slot.parse?_fill gap rest hq hv]
  generalize Sql.Statement.dropSemicolon (trimEnd rest) = tail,
    Sql.Statement.parse? (front ++ gap.chars ++ [';']) = parsed at hcompiled ⊢
  rcases parsed with crash | _ | q
  · exact hcompiled
  · exact hcompiled
  replace hcompiled : ∀ value, slot.quote ∉ value →
      slot.compiled .sql (front ++ gap.chars) rest value =
        liftM ((slot.addTo value tail q).map Sql.Statement.toPipeline) := fun value hv => by
    rw [hcompiled value hv]
    change (liftM (some <$> slot.addTo value tail q) : Except (Halt QueryError) _) >>= _ = _
    rcases slot.addTo value tail q with crash | q <;> rfl
  by_cases hfilter : q.filter.isSome = true
  · simp only [hfilter, if_true]
    exact ⟨_, fun value hv => (hcompiled value hv).trans (by rw [slot.addTo_of_filter hfilter])⟩
  · simp only [hfilter]
    simp only [slot.addTo_of_no_filter (Option.not_isSome_iff_eq_none.mp hfilter)] at hcompiled
    generalize Slot.later tail = later, q.addSections _ = statement at hcompiled
    rcases later with crash | others
    · exact .inl ⟨crash, hcompiled⟩
    rcases statement with crash | q
    · exact .inl ⟨crash, hcompiled⟩
    · let rest : Sql.Statement := { q with filter := none }
      exact .inr ⟨[], others, rest.toPipeline.operations, hcompiled⟩

theorem compiled_fill_of_like : ∃ slot : Slot,
    slot.fill "a".toList = "WHERE user LIKE \"a\"".toList ∧
      slot.Carries (slot.compiled .sql "SELECT * FROM logs ".toList " LIMIT 5".toList) ∧
      ∀ dialect ∈ [Dialect.spl, Dialect.kql],
        slot.Carries (slot.compiled dialect "logs | ".toList " | take 5".toList) := by
  obtain ⟨slot, hfill⟩ : ∃ slot : Slot, slot.fill "a".toList = "WHERE user LIKE \"a\"".toList :=
    ⟨⟨.given "WHERE", .space, ⟨⟨"user".toList, by decide, by decide⟩, .space,
      .like (.given "LIKE"), .space⟩, '"', rfl⟩, by decide⟩
  have hfront : Sql.Statement.parse? ("SELECT * FROM logs".toList ++ Gap.space.chars ++ [';']) =
      .ok (some { select := [.wildcard], source := some "logs" }) := by decide +kernel
  have hsql := (compiled_fill slot "SELECT * FROM logs".toList " LIMIT 5".toList).1 .space
    (by decide)
  rw [hfront] at hsql
  exact ⟨slot, hfill, hsql, (compiled_fill slot "logs | ".toList " | take 5".toList).2
    (.next (s := "logs ".toList) (g := [' ']) (by decide) (by decide))⟩

end LogLab.Query
