import LogLab.Proofs.Outcomes
import LogLab.Proofs.Query.Tokens
import LogLab.Query.Compile

/-! # Crashes of queries

The words of comparisons are compared in the lower case of Unicode, but cut off by their octets. The
Kelvin sign has the lower case of `k` and more octets. Where it stands for the `K` of `LIKE` the cut
is inside it, and this is the only crash there is: a query crashes exactly if a filter in it has
such a word behind a field name.
-/

namespace LogLab

open Text

theorem Crash.eq_insideCharacter (crash : Crash) : crash = .insideCharacter := by
  cases crash
  rfl

namespace RiskyScan

variable {α β : Type} {s : List Char}

def Crashes (scan : RiskyScan α) (s : List Char) : Prop :=
  ∃ crash t, scan s = some (.error crash, t)

theorem not_crashes_lift (scan : Scan α) : ¬ Crashes (liftM scan) s := by
  rintro ⟨crash, t, h⟩
  cases hs : scan s with
  | none => cases (lift_eq_none hs).symm.trans h
  | some found => cases (lift_eq hs).symm.trans h

theorem crashes_bind_iff {scan : RiskyScan α} {next : α → RiskyScan β} :
    Crashes (scan >>= next) s ↔
      Crashes scan s ∨ ∃ a t, scan s = some (.ok a, t) ∧ Crashes (next a) t := by
  unfold Crashes
  match hs : scan s with
  | none => simp [bind_eq_none hs]
  | some (.error crash, t) => simp [bind_eq_error hs]
  | some (.ok a, t) => simp [bind_eq hs]

theorem crashes_lift_bind_iff {scan : Scan α} {next : α → RiskyScan β} :
    Crashes (liftM scan >>= next) s ↔ ∃ a t, scan s = some (a, t) ∧ Crashes (next a) t := by
  unfold Crashes
  match hs : scan s with
  | none => simp [bind_eq_none (lift_eq_none hs)]
  | some (a, t) => simp [lift_bind_eq hs]

theorem crashes_orElse_iff {first second : RiskyScan α} :
    Crashes (orElse first second) s ↔ Crashes first s ∨ first s = none ∧ Crashes second s := by
  unfold Crashes
  match hs : first s with
  | none => simp [orElse_eq_second hs]
  | some found =>
    have h : orElse first second s = some found := Scan.orElse_eq hs
    simp [h]

theorem not_crashes_pure (a : α) : ¬ Crashes (pure a) s := by
  rintro ⟨crash, t, h⟩
  cases h

theorem first?_eq_error_iff {scan : RiskyScan α} {crash : Crash} :
    first? scan s = .error crash ↔ Crashes scan s := by
  unfold Crashes
  match hs : scan s with
  | none => simp [first?, Scan.first?, ExceptT.run, hs]
  | some (.error e, t) =>
    simp [first?, Scan.first?, ExceptT.run, hs, e.eq_insideCharacter, crash.eq_insideCharacter]
  | some (.ok a, t) => simp [first?, Scan.first?, ExceptT.run, hs]

end RiskyScan

namespace Scan

variable {s w : List Char} {word : String} {c : Comparison}

theorem crashes_foldedWord_iff :
    (foldedWord w).Crashes s ↔ ∃ crash, dropFolded? w s = some (.error crash) := by
  simp only [RiskyScan.Crashes, foldedWord, ExceptT.mk]
  rcases dropFolded? w s with _ | crash | rest <;> simp

theorem crashes_comparisonWord_iff :
    (comparisonWord word c).Crashes s ↔ (foldedWord word.toList).Crashes s := by
  rw [comparisonWord, RiskyScan.crashes_bind_iff, or_iff_left]
  rintro ⟨_, t, -, h⟩
  obtain ⟨_, t, -, h⟩ := RiskyScan.crashes_lift_bind_iff.mp h
  exact RiskyScan.not_crashes_pure c h

/-- The letters `LI` and a Kelvin sign, and then nothing but what may be the rest of `LIKE`. -/
def BreaksLike (s : List Char) : Prop :=
  ∃ l i t, l.toLower = 'l' ∧ i.toLower = 'i' ∧ (∀ c ∈ t.head?, c.toLower = 'e') ∧
    s = l :: i :: kelvinSign :: t

theorem dropFolded?_cons_eq_error {d : Char} (hd : d.isAlpha = true) (hk : d.toLower ≠ 'k') :
    (∃ crash, dropFolded? (d :: w) s = some (.error crash)) ↔
      ∃ c t, s = c :: t ∧ d.toLower = c.toLower ∧
        ∃ crash, dropFolded? w t = some (.error crash) := by
  cases s with
  | nil => simp [dropFolded?_cons_nil hd]
  | cons c s =>
    by_cases h : d.toLower = c.toLower
    · simp [dropFolded?_cons_of_eq hd h, h]
    · simp [dropFolded?_cons_of_ne hd h fun _ => hk, h]

theorem agree_e {t : List Char} : agree ['E'] t = true ↔ ∀ c ∈ t.head?, c.toLower = 'e' := by
  cases t with
  | nil => simp [agree]
  | cons c t =>
    have he : 'E'.toLower = 'e' := by decide
    have hlower : lower ['E'] = lower [c] ↔ 'e' = c.toLower := by
      rw [lower_eq_lower_iff (by decide), he, or_iff_left (fun h => absurd h.1 (by decide))]
    have hagree : agree ['E'] (c :: t) = (lower ['E'] == lower [c]) := by
      simp only [agree, Bool.and_true]
    rw [hagree, beq_iff_eq, hlower]
    simp [eq_comm]

/-- The octets of `KE` end inside the Kelvin sign, and those of `E` end with it. -/
theorem dropFolded?_ke : (∃ crash, dropFolded? ['K', 'E'] s = some (.error crash)) ↔
    ∃ t, s = kelvinSign :: t ∧ ∀ c ∈ t.head?, c.toLower = 'e' := by
  constructor
  · rintro ⟨crash, h⟩
    cases s with
    | nil => cases (dropFolded?_cons_nil (by decide)).symm.trans h
    | cons c t =>
      by_cases hk : 'K'.toLower = c.toLower
      · rw [dropFolded?_cons_of_eq (by decide) hk,
          dropFolded?_eq (by decide) fun _ => by decide] at h
        simp at h
      · have hc : c = kelvinSign := by
          by_contra hc
          cases (dropFolded?_cons_of_ne (by decide) hk fun he => absurd he hc).symm.trans h
        refine ⟨t, by rw [hc], agree_e.mp ?_⟩
        by_contra he
        rw [dropFolded?, agree, Bool.eq_false_iff.mpr he, Bool.and_false] at h
        cases h
  · rintro ⟨t, rfl, ht⟩
    have hk : lower ['K'] = lower [kelvinSign] := by decide +kernel
    refine ⟨.insideCharacter, ?_⟩
    rw [dropFolded?, agree, hk, agree_e.mpr ht, beq_self_eq_true]
    rfl

theorem dropFolded?_like : (∃ crash, dropFolded? "LIKE".toList s = some (.error crash)) ↔
    BreaksLike s := by
  have hword : "LIKE".toList = 'L' :: 'I' :: ['K', 'E'] := by decide
  rw [hword, dropFolded?_cons_eq_error (by decide) (by decide)]
  constructor
  · rintro ⟨l, _, rfl, hl, h⟩
    obtain ⟨i, _, rfl, hi, h⟩ := (dropFolded?_cons_eq_error (by decide) (by decide)).mp h
    obtain ⟨t, rfl, ht⟩ := dropFolded?_ke.mp h
    exact ⟨l, i, t, hl.symm, hi.symm, ht, rfl⟩
  · rintro ⟨l, i, t, hl, hi, ht, rfl⟩
    refine ⟨l, _, rfl, hl.symm, ?_⟩
    exact (dropFolded?_cons_eq_error (by decide) (by decide)).mpr
      ⟨i, _, rfl, hi.symm, dropFolded?_ke.mpr ⟨t, rfl, ht⟩⟩

theorem BreaksLike.exists_letter (h : BreaksLike s) : ∃ l t, s = l :: t ∧ l.isAlpha = true := by
  obtain ⟨l, i, t, hl, -, -, rfl⟩ := h
  exact ⟨l, _, rfl, isAlpha_of_toLower_eq (d := 'l') hl (by decide)⟩

theorem crashes_comparison_iff : comparison.Crashes s ↔ BreaksLike s := by
  have hcontains : ¬ (comparisonWord "CONTAINS" .contains).Crashes s := by
    rw [crashes_comparisonWord_iff, crashes_foldedWord_iff,
      dropFolded?_eq (by decide) fun _ => by decide]
    simp
  rw [comparison, RiskyScan.crashes_orElse_iff, RiskyScan.crashes_orElse_iff,
    or_iff_right (RiskyScan.not_crashes_lift comparisonSign), crashes_comparisonWord_iff,
    crashes_foldedWord_iff, dropFolded?_like, or_iff_left fun h => hcontains h.2]
  refine and_iff_right_of_imp fun h => ?_
  obtain ⟨l, t, rfl, hl⟩ := h.exists_letter
  exact RiskyScan.lift_eq_none (comparisonSign_eq_none (isNameChar_of_isAlpha hl))

/-- A field name, gaps, and what crashes where a comparison should stand. -/
def BreaksPredicate (s : List Char) : Prop :=
  ∃ field before rest, IsName field ∧ before ≠ [] ∧ (∀ c ∈ before, isGap c = true) ∧
    BreaksLike rest ∧ s = field ++ (before ++ rest)

theorem crashes_predicate_iff : predicate.Crashes s ↔ BreaksPredicate s := by
  constructor
  · intro h
    obtain ⟨field, rest, hfield, h⟩ := RiskyScan.crashes_lift_bind_iff.mp h
    obtain ⟨_, rest', hgaps, h⟩ := RiskyScan.crashes_lift_bind_iff.mp h
    obtain ⟨hne, hname, hstops, rfl⟩ := takeWhile1_eq_some_iff.mp hfield
    obtain rfl := (Prod.mk.inj (Option.some.inj hgaps)).2
    rcases RiskyScan.crashes_bind_iff.mp h with h | ⟨comparison, t, -, h⟩
    · have hlike := crashes_comparison_iff.mp h
      refine ⟨field, rest.takeWhile isGap, rest.dropWhile isGap, ⟨hne, hname⟩, fun he => ?_,
        fun c hc => List.all_eq_true.mp List.all_takeWhile c hc, hlike,
        by rw [List.takeWhile_append_dropWhile]⟩
      -- without a gap the letters would have gone on with the name
      obtain ⟨l, t, ht, hl⟩ := hlike.exists_letter
      have hrest := List.takeWhile_append_dropWhile (p := isGap) (l := rest)
      rw [he, List.nil_append, ht] at hrest
      rw [← hrest, stops_cons, isNameChar_of_isAlpha hl] at hstops
      cases hstops
    · obtain ⟨_, t, -, h⟩ := RiskyScan.crashes_lift_bind_iff.mp h
      obtain ⟨value, t, -, h⟩ := RiskyScan.crashes_lift_bind_iff.mp h
      exact absurd h (RiskyScan.not_crashes_pure _)
  · rintro ⟨field, before, rest, hfield, hne, hgap, hlike, rfl⟩
    obtain ⟨l, t, ht, hl⟩ := hlike.exists_letter
    have hbefore : Stops isNameChar (before ++ rest) :=
      stops_append_of_forall hne fun c hc => isNameChar_of_isGap (hgap c hc)
    have hrest : Stops isGap rest := by
      rw [ht, stops_cons]
      exact isGap_of_isNameChar (isNameChar_of_isAlpha hl)
    refine RiskyScan.crashes_lift_bind_iff.mpr ⟨field, _, name_append hfield hbefore, ?_⟩
    refine RiskyScan.crashes_lift_bind_iff.mpr ⟨(), rest, gaps_append hgap hrest, ?_⟩
    exact RiskyScan.crashes_bind_iff.mpr (.inl (crashes_comparison_iff.mpr hlike))

end Scan

theorem Scan.exists_error_predicate_iff {s : List Char} :
    (∃ crash, predicate.first? s = .error crash) ↔ BreaksPredicate s := by
  rw [← crashes_predicate_iff]
  simp only [RiskyScan.first?_eq_error_iff, exists_const]

namespace Query

open Scan

variable {s : List Char} {parts : List (List Char)}

theorem readCondition_eq : readCondition s =
    (((splitPhrase ["AND"] s).map trim).filterMapM predicate.first?).map .mk := by
  rw [readCondition, filterMapM_map]
  rfl

/-- One of the parts of a condition crashes. -/
def BreaksCondition (s : List Char) : Prop :=
  ∃ part ∈ splitPhrase ["AND"] s, BreaksPredicate (trim part)

/-- A condition crashes exactly if one of its parts does. -/
theorem exists_error_readCondition_iff :
    (∃ crash, readCondition s = .error crash) ↔ BreaksCondition s := by
  rw [readCondition_eq, exists_error_map_iff, exists_error_filterMapM_iff]
  simp only [List.mem_map, exists_error_predicate_iff, BreaksCondition, exists_exists_and_eq_and]

instance : Decidable (BreaksCondition s) :=
  match h : readCondition s with
  | .error crash => isTrue (exists_error_readCondition_iff.mp ⟨crash, h⟩)
  | .ok _ => isFalse fun hb => by
    obtain ⟨crash, he⟩ := exists_error_readCondition_iff.mpr hb
    cases h.symm.trans he

namespace Sql

/-- A clause crashes exactly if it is a filter that crashes. -/
theorem Statement.exists_error_addClause_iff {q : Statement} {clause : Clause} :
    (∃ crash, q.addClause clause s = .error crash) ↔ clause = .filter ∧ BreaksCondition s := by
  cases clause with
  | filter =>
    rw [addClause, exists_error_map_iff, and_iff_right rfl, readFilter?,
      exists_error_bind_pure_iff, exists_error_readCondition_iff]
  | source | groupBy | orderBy | limit => simp [addClause]

/-- The text is a statement with a filter that crashes. -/
def Breaks (s : List Char) : Prop :=
  ∃ rest, keyword "SELECT" (Statement.dropSemicolon (trim s)) = some ((), rest) ∧
    ∃ sec ∈ (cutAtPhrases Clause.phrases rest).sections,
      sec.phrase = .filter ∧ BreaksCondition (trim sec.body)

theorem Statement.exists_error_addSections_iff {q : Statement} {sections : List (Section Clause)} :
    (∃ crash, q.addSections sections = .error crash) ↔
      ∃ sec ∈ sections, sec.phrase = .filter ∧ BreaksCondition (trim sec.body) := by
  have hstep : ∀ (q : Statement) (sec : Section Clause),
      (∃ crash, q.addClause sec.phrase (trim sec.body) = .error crash) ↔
        sec.phrase = .filter ∧ BreaksCondition (trim sec.body) :=
    fun _ _ => exists_error_addClause_iff
  exact exists_error_foldlM_iff hstep

theorem Statement.exists_error_parse?_iff :
    (∃ crash, parse? s = .error crash) ↔ Breaks s := by
  unfold parse? Breaks
  rcases keyword "SELECT" (dropSemicolon (trim s)) with _ | ⟨⟨⟩, rest⟩
  · simp
  · simp [exists_error_map_iff, exists_error_addSections_iff]

end Sql

def Spl.Breaks (s : List Char) : Prop :=
  ∃ segment ∈ splitPipeline s,
    (command segment).1 = "where".toList ∧ BreaksCondition (command segment).2

theorem Spl.exists_error_operation?_iff {word args : List Char} :
    (∃ crash, operation? word args = .error crash) ↔
      word = "where".toList ∧ BreaksCondition args := by
  by_cases hw : word = "where".toList
  · subst hw
    rw [and_iff_right rfl, ← exists_error_readCondition_iff]
    exact exists_error_bind_pure_iff
  · refine iff_of_false ?_ fun h => hw h.1
    rintro ⟨crash, h⟩
    unfold operation? at h
    repeat' split at h
    all_goals first | exact hw ‹_› | cases h

theorem Spl.exists_error_compile_iff : (∃ crash, compile s = .error crash) ↔ Breaks s := by
  rw [compile, exists_error_map_iff, exists_error_filterMapM_iff, Breaks]
  simp only [readSegment?, exists_error_operation?_iff]

def Kql.Breaks (s : List Char) : Prop :=
  ∃ segment ∈ dropTable (splitPipeline s),
    (command segment).1 = "where".toList ∧ BreaksPredicate (trim (command segment).2)

theorem Kql.exists_error_operation?_iff {word args : List Char} :
    (∃ crash, operation? word args = .error crash) ↔
      word = "where".toList ∧ BreaksPredicate (trim args) := by
  by_cases hw : word = "where".toList
  · subst hw
    rw [and_iff_right rfl, ← exists_error_predicate_iff]
    exact exists_error_bind_pure_iff
  · refine iff_of_false ?_ fun h => hw h.1
    rintro ⟨crash, h⟩
    unfold operation? at h
    repeat' split at h
    all_goals first | exact hw ‹_› | cases h

theorem Kql.exists_error_compile_iff : (∃ crash, compile s = .error crash) ↔ Breaks s := by
  rw [compile, exists_error_map_iff, exists_error_filterMapM_iff, Breaks]
  simp only [readSegment?, exists_error_operation?_iff]

/-- The text is a query in which a filter crashes. -/
def Breaks : Dialect → List Char → Prop
  | .sql => Sql.Breaks
  | .spl => Spl.Breaks
  | .kql => Kql.Breaks
  | .sigma => fun _ => False

theorem compile_spl {query : String} {p : Pipeline} (h : Spl.compile query.toList = .ok p) :
    compile .spl query = .ok p := by
  rw [compile, h]
  rfl

theorem compile_kql {query : String} {p : Pipeline} (h : Kql.compile query.toList = .ok p) :
    compile .kql query = .ok p := by
  rw [compile, h]
  rfl

theorem exists_crashed_compileSql_iff :
    (∃ crash, compileSql s = .error (.crashed crash)) ↔ Sql.Breaks s := by
  rw [← Sql.Statement.exists_error_parse?_iff, compileSql]
  rcases Sql.Statement.parse? s with crash | _ | q
  · exact iff_of_true ⟨crash, rfl⟩ ⟨crash, rfl⟩
  · exact iff_of_false (fun ⟨_, h⟩ => nomatch h) fun ⟨_, h⟩ => nomatch h
  · exact iff_of_false (fun ⟨_, h⟩ => nomatch h) fun ⟨_, h⟩ => nomatch h

/-- A query crashes exactly if one of its filters does. -/
theorem exists_crashed_compile_iff {dialect : Dialect} {query : String} :
    (∃ crash, compile dialect query = .error (.crashed crash)) ↔ Breaks dialect query.toList := by
  cases dialect with
  | sql => exact exists_crashed_compileSql_iff
  | spl => exact exists_crashed_lift_iff.trans Spl.exists_error_compile_iff
  | kql => exact exists_crashed_lift_iff.trans Kql.exists_error_compile_iff
  | sigma => exact iff_of_false (fun ⟨_, h⟩ => lift_ne_crashed h) fun h => h

/-- Search and table pipelines do not fail. -/
theorem exists_error_compile_iff {dialect : Dialect} (hd : dialect ∈ [Dialect.spl, Dialect.kql])
    {query : String} :
    (∃ halt, compile dialect query = .error halt) ↔ Breaks dialect query.toList := by
  rw [← exists_crashed_compile_iff]
  refine ⟨fun ⟨halt, h⟩ => ?_, fun ⟨crash, h⟩ => ⟨_, h⟩⟩
  have hlift : ∀ x : Except Crash Pipeline, (liftM x : Except (Halt QueryError) _) = .error halt →
      ∃ crash, halt = .crashed crash := by
    rintro (crash | p) h
    · exact ⟨crash, (Except.error.inj h).symm⟩
    · cases h
  rcases List.mem_cons.mp hd with rfl | hd
  · obtain ⟨crash, rfl⟩ := hlift _ h
    exact ⟨crash, h⟩
  · obtain rfl := List.mem_singleton.mp hd
    obtain ⟨crash, rfl⟩ := hlift _ h
    exact ⟨crash, h⟩

theorem exists_crashed_run_iff {dialect : Dialect} {query : String} {data : Dataset} :
    (∃ crash, run dialect query data = .error (.crashed crash)) ↔ Breaks dialect query.toList := by
  rw [← exists_crashed_compile_iff, run]
  rcases compile dialect query with halt | pipeline <;> simp [Except.map]

end Query

end LogLab
