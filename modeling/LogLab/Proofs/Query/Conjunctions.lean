import LogLab.Proofs.Pipeline.Filters
import LogLab.Proofs.Query.Bars
import LogLab.Proofs.Query.Clauses
import LogLab.Proofs.Query.Segments

/-! # Conjunctions and chained filters

A condition is cut at the word `AND` and a pipeline at bars, by different rules. If nothing is left
open in front of it, it makes no difference which of the two stands there: both keep the records
that satisfy the predicates on the two sides, and what cannot be read on one side keeps the other as
it is.
-/

namespace LogLab.Query

open Scan Text

section Pieces

variable {α : Type} {phrases : List (α × List String)} {words : List String} {word : String}
  {s t g n : List Char} {b : Bool} {q : Quotation} {cut : Cut α} {sections : List (Section α)}

@[simp] theorem Cut.pieces_cons (c : Char) : (cut.cons c).pieces = consFirst c cut.pieces := rfl

@[simp] theorem Cut.pieces_openSection (a : α) (heading : List Char) :
    (cut.openSection a heading).pieces = [] :: cut.pieces := rfl

@[simp] theorem Cut.pieces_prepend :
    (cut.prepend s).pieces = cut.pieces.modifyHead (s ++ ·) := rfl

@[simp] theorem Cut.pieces_extend :
    (cut.extend sections).pieces = cut.pieces ++ sections.map Section.body := by
  simp [pieces, extend]

theorem Cut.pieces_ne_nil : cut.pieces ≠ [] := List.cons_ne_nil _ _

/-- What belongs to no name stays with the last piece. -/
theorem pieces_cutFrom_append (hw : WellFormed phrases) (hg : ∀ c ∈ g, isNameChar c = false) :
    (cutFrom phrases b q 0 (s ++ g)).pieces =
      joinPieces (cutFrom phrases b q 0 s).pieces [g] := by
  induction hlen : s.length using Nat.strongRecOn generalizing s b q with
  | ind k ih =>
    cases s with
    | nil =>
      have hfree : PhraseFree phrases b q ([] ++ g) :=
        (phraseFree_append_iff hw hg).mpr (phraseFree_nil hw)
      rw [(cutFrom_eq_iff hw).mpr hfree, cutFrom_nil]
      rfl
    | cons c s =>
      rcases phrase_or_none hw b q c s with ⟨rfl, rfl, a, words, n, r, ha, hn, hr, he⟩ | hnone
      · have hlt : r.length < k := by
          have := congrArg List.length he
          have := List.length_pos_iff.mpr (hn.chars_ne_nil (hw.isWord _ ha))
          simp only [List.length_append] at *
          omega
        have hstop : Stops isNameChar (r ++ g) :=
          hr.append fun c hc => hg c (List.mem_of_mem_head? hc)
        rw [he, List.append_assoc, cutFrom_phrase hw ha hn hstop, cutFrom_phrase hw ha hn hr,
          Cut.pieces_openSection, Cut.pieces_openSection, ih r.length hlt rfl,
          joinPieces_cons _ Cut.pieces_ne_nil]
      · have hnone' : q.isOutside c = true → b = false →
            matchPhrase? phrases (c :: (s ++ g)) = none := by
          intro ho hb
          rw [matchPhrase?_eq_none_iff hw, ← List.cons_append, beginsPhrase_append_iff hw hg,
            ← matchPhrase?_eq_none_iff hw]
          exact hnone ho hb
        rw [List.cons_append, cutFrom_cons hnone', cutFrom_cons hnone, Cut.pieces_cons,
          Cut.pieces_cons, ih s.length (by simp [← hlen]) rfl,
          joinPieces_consFirst c Cut.pieces_ne_nil (by simp)]

/-- Blanks at the two ends of a text are trimmed off its first and its last piece. -/
theorem map_trim_splitPhrase_trim (hw : WellFormed [((), words)]) (s : List Char) :
    (splitPhrase words (trim s)).map trim = (splitPhrase words s).map trim := by
  obtain ⟨g, g', hg, hg', he⟩ := exists_eq_append_trim s
  have hfront : Passes [((), words)] g (trim s ++ g') :=
    passes_of_stops hw fun c hc =>
      ⟨isNameChar_of_isBlank (hg c hc), (neutral_of_isBlank (hg c hc)).1.1⟩
  have hend := pieces_cutFrom_append (s := trim s) (b := false) (q := none) hw fun c hc =>
    isNameChar_of_isBlank (hg' c hc)
  calc (splitPhrase words (trim s)).map trim
      = (joinPieces (splitPhrase words (trim s)) [g']).map trim :=
        (map_trim_joinPieces_blank hg' Cut.pieces_ne_nil).symm
    _ = (splitPhrase words (trim s ++ g')).map trim := congrArg (List.map trim) hend.symm
    _ = (splitPhrase words (g ++ (trim s ++ g'))).map trim := by
        rw [splitPhrase, splitPhrase, cutAtPhrases, cutAtPhrases, hfront, Cut.pieces_prepend,
          map_trim_modifyHead hg]
    _ = (splitPhrase words s).map trim := by rw [← he]

theorem splitPhrase_append (hw : WellFormed [((), [word])]) (hs : Unquoted s)
    (ht : Stops isNameChar t) (hn : Spelled word n) :
    splitPhrase [word] (s ++ (' ' :: (n ++ t))) =
      joinPieces (splitPhrase [word] s) [[' ']] ++ splitPhrase [word] t := by
  have hcut := cutFrom_phrase hw (List.mem_singleton_self _) (.single hn) ht
  have hname := hn.isName (hw.isWord _ (List.mem_singleton_self _) word (by simp))
  have hlater : NoLaterWord [((), [word])] (n ++ t) :=
    ⟨stops_isGap_of_isName hname, by simp⟩
  have hquote : Quotation.after none (s ++ [' ']) = none := hs.append_iff.mpr (by decide)
  have hends : EndsName (s ++ [' ']) := ⟨' ', by simp, by decide⟩
  have happend := cutFrom_append (b := false) hw hlater (congrArg Cut.lead hcut) (.inr hends) hquote
  have hpieces := pieces_cutFrom_append (s := s) (g := [' ']) (b := false) (q := none) hw
    (by decide)
  calc splitPhrase [word] (s ++ ' ' :: (n ++ t))
      = splitPhrase [word] (s ++ [' '] ++ (n ++ t)) := by rw [List.append_cons]
    _ = joinPieces (splitPhrase [word] s) [[' ']] ++ splitPhrase [word] t := by
        rw [splitPhrase, cutAtPhrases, happend, hcut, Cut.pieces_extend, hpieces]
        rfl

end Pieces

section Conditions

variable {s t : List Char} {segments : List (List Char)} {data : Dataset}

theorem wellFormed_conjunction : WellFormed conjunction :=
  (reserves_conjunction (List.mem_singleton_self "AND")).toWellFormed

theorem readCondition_trim : readCondition (trim s) = readCondition s := by
  rw [readCondition_eq, readCondition_eq, map_trim_splitPhrase_trim wellFormed_conjunction]

theorem readCondition_and (hs : Unquoted s) :
    readCondition (s ++ (" AND ".toList ++ t)) = (do
      let first ← readCondition s
      let second ← readCondition t
      pure ⟨first.predicates ++ second.predicates⟩) := by
  have hblank : AllBlank [' '] := by decide
  have hstop : Stops isNameChar (' ' :: t) := stops_cons.mpr (by decide)
  have hspelled : Spelled "AND" "AND".toList := rfl
  have hleft : (joinPieces (splitPhrase ["AND"] s) [[' ']]).map trim =
      (splitPhrase ["AND"] s).map trim := map_trim_joinPieces_blank hblank Cut.pieces_ne_nil
  have hright : readCondition (' ' :: t) = readCondition t := by
    have htrim : trim (' ' :: t) = trim t := trim_blank_append hblank
    rw [← readCondition_trim, htrim, readCondition_trim]
  have hsplit := splitPhrase_append wellFormed_conjunction hs hstop hspelled
  have hpieces : (splitPhrase ["AND"] (s ++ (" AND ".toList ++ t))).map trim =
      (splitPhrase ["AND"] s).map trim ++ (splitPhrase ["AND"] (' ' :: t)).map trim := by
    rw [← hleft, ← List.map_append, ← hsplit]
    rfl
  rw [← hright]
  simp only [readCondition_eq, hpieces, filterMapM_append]
  rcases ((splitPhrase ["AND"] s).map trim).filterMapM Scan.predicate.first? with crash | ps
  · rfl
  · rcases ((splitPhrase ["AND"] (' ' :: t)).map trim).filterMapM Scan.predicate.first? <;> rfl

theorem unbroken_of_not_holdsBar (hs : Closed s) (hbar : ¬ HoldsBar s) : Unbroken '|' s where
  closed := hs
  split := by
    refine (pieces_splitTopLevel s).unique (.last fun t u he ht => hbar ?_)
    exact ⟨t, u, he, ht.unquoted⟩

theorem holdsBar_iff :
    HoldsBar s ↔ ∃ i < s.length, s[i]? = some '|' ∧ Unquoted (s.take i) := by
  constructor
  · rintro ⟨t, u, rfl, ht⟩
    exact ⟨t.length, by simp, by simp, by simpa using ht⟩
  · rintro ⟨i, hi, hbar, ht⟩
    refine ⟨s.take i, s.drop (i + 1), ?_, ht⟩
    rw [List.getElem?_eq_getElem hi, Option.some.injEq] at hbar
    rw [← hbar, ← List.drop_eq_getElem_cons hi, List.take_append_drop]

instance : Decidable (HoldsBar s) := decidable_of_iff _ holdsBar_iff.symm

namespace Spl

theorem readSegment?_where : readSegment? (trim ("where ".toList ++ s)) = filter? (trim s) := by
  have hcommand : command (trim ("where ".toList ++ s)) = ("where".toList, trim s) := by
    have h : command ("where".toList ++ ' ' :: s) = ("where".toList, trim s) :=
      command_append_args (by decide)
    rw [command, trim_trim]
    exact h
  rw [readSegment?, hcommand]
  rfl

def results (query : List Char) (data : Dataset) : Except Crash Dataset := do
  let pipeline ← compile query
  pure (pipeline.apply data)

theorem results_append_bar (hs : Closed s) :
    results (s ++ '|' :: t) data = results s data >>= results t := by
  simp only [results, compile_append_bar hs, Pipeline.append, bind_assoc, pure_bind,
    Pipeline.apply_append]

theorem results_blank_append {g : List Char} (hg : AllBlank g) :
    results (g ++ s) data = results s data := by
  rw [results, compile, splitPipeline_blank_append hg, ← compile, ← results]

/-- A condition without predicates, which gives no operation, would keep all records. -/
theorem filter_of_isEmpty {condition : Condition} (h : condition.isEmpty = true) :
    condition.filter data = data := by
  have hnil : condition.predicates = [] := by simpa [Condition.isEmpty] using h
  exact List.filter_eq_self.mpr fun r _ => by simp [Condition.holds, hnil]

theorem filter?_eq : filter? s = (readCondition s).map fun condition =>
    if condition.isEmpty then none else some (.filter condition) := by
  rw [filter?]
  rcases readCondition s <;> rfl

/-- Pieces with nothing in them stand for no operation. -/
theorem compile_eq_pieces : compile s =
    ((splitTopLevel '|' s).filterMapM fun piece => readSegment? (trim piece)).map .mk := by
  have hnil : ∀ piece : List Char, (!piece.isEmpty) = false → readSegment? piece = pure none := by
    rintro (_ | ⟨c, piece⟩) h
    · decide
    · cases h
  rw [compile, splitPipeline, filterMapM_filter hnil, filterMapM_map]

/-- The commands behind the first bar run on what the condition keeps. -/
theorem results_where {piece : List Char} (hs : Unbroken '|' s)
    (ht : splitTopLevel '|' t = piece :: segments) :
    results ("where ".toList ++ (s ++ t)) data = (do
      let condition ← readCondition (s ++ piece)
      let rest ← segments.filterMapM fun piece => readSegment? (trim piece)
      pure ((⟨rest⟩ : Pipeline).apply (condition.filter data))) := by
  have hword : Unbroken '|' "where ".toList := ⟨by decide, by decide⟩
  have hsplit := (hword.append hs).splitTopLevel_append (t := t)
  rw [ht, List.modifyHead_cons, List.append_assoc, List.append_assoc] at hsplit
  rw [results, compile_eq_pieces, hsplit, List.filterMapM_cons, readSegment?_where, filter?_eq,
    readCondition_trim]
  rcases readCondition (s ++ piece) with crash | condition
  · rfl
  generalize (segments.filterMapM fun piece => readSegment? (trim piece)) = rest
  cases h : condition.isEmpty with
  | true =>
    simp only [Except.map, h, if_true]
    rcases rest with crash | rest
    · rfl
    · exact congrArg (fun data => Except.ok ((⟨rest⟩ : Pipeline).apply data))
        (filter_of_isEmpty h).symm
  | false =>
    simp only [Except.map, h]
    rcases rest <;> rfl

/-- A condition behind `AND` filters like a filter of its own, whatever commands follow it. -/
theorem results_and (hs : Unbroken '|' s) :
    results ("where ".toList ++ (s ++ (" AND ".toList ++ t))) data =
      results ("where ".toList ++ (s ++ (" | where ".toList ++ t))) data := by
  obtain ⟨piece, segments, ht⟩ := List.exists_cons_of_ne_nil (Nesting.split_ne_nil '|' {} t)
  have hand : Unbroken '|' (s ++ " AND ".toList) := hs.append ⟨by decide, by decide⟩
  have hspace : Unbroken '|' (s ++ [' ']) := hs.append unbroken_space
  have hempty : Unbroken '|' [] := ⟨rfl, rfl⟩
  have hclosed : Closed ("where ".toList ++ (s ++ [' '])) :=
    (Unbroken.append ⟨by decide, by decide⟩ hspace).closed
  have hread : readCondition (s ++ [' '] ++ []) = readCondition s := by
    rw [← readCondition_trim, List.append_nil, trim_append_blank (by decide), readCondition_trim]
  have hfirst : results ("where ".toList ++ (s ++ [' '])) data =
      readCondition s >>= fun condition => pure (condition.filter data) := by
    rw [← List.append_nil (s ++ [' ']), results_where hspace rfl, hread]
    rfl
  calc results ("where ".toList ++ (s ++ (" AND ".toList ++ t))) data
      = (do
          let condition ← readCondition (s ++ " AND ".toList ++ piece)
          let rest ← segments.filterMapM fun piece => readSegment? (trim piece)
          pure ((⟨rest⟩ : Pipeline).apply (condition.filter data))) := by
        rw [← List.append_assoc s, results_where hand ht]
    _ = (do
          let first ← readCondition s
          let second ← readCondition piece
          let rest ← segments.filterMapM fun piece => readSegment? (trim piece)
          pure ((⟨rest⟩ : Pipeline).apply (second.filter (first.filter data)))) := by
        rw [List.append_assoc, readCondition_and hs.closed.unquoted]
        simp only [bind_assoc, pure_bind, Condition.filter_append]
    _ = results ("where ".toList ++ (s ++ [' '])) data >>=
          results (' ' :: ("where ".toList ++ ([] ++ t))) := by
        rw [hfirst, bind_assoc]
        refine bind_congr fun condition => ?_
        have hblank : AllBlank [' '] := by decide
        exact (results_where hempty ht).symm.trans (results_blank_append hblank).symm
    _ = results ("where ".toList ++ (s ++ [' ']) ++ '|' :: ' ' :: ("where ".toList ++ t)) data :=
        (results_append_bar hclosed).symm
    _ = results ("where ".toList ++ (s ++ (" | where ".toList ++ t))) data := by
        rw [List.append_assoc, List.append_assoc]
        rfl

theorem run_results (query : String) :
    (run .spl query data).map Answer.results = liftM (results query.toList data) := by
  rw [run, Query.compile, results]
  rcases Spl.compile query.toList <;> rfl

end Spl

end Conditions

/-- Splitting a condition at `AND` is chaining filters: behind a text that leaves nothing open and
holds no bar outside its quotations it makes no difference, whatever stands on the two sides. The
two queries give the same records, or they both crash, which happens exactly if a filter does. -/
theorem where_and_eq_where_where {a : String} (hclosed : Closed a.toList)
    (hbar : ¬ HoldsBar a.toList) (b : String) (data : Dataset) :
    ∃ outcome : Except Crash Dataset,
      (run .spl ("where " ++ a ++ " AND " ++ b) data).map Answer.results = liftM outcome ∧
      (run .spl ("where " ++ a ++ " | where " ++ b) data).map Answer.results = liftM outcome ∧
      ((∃ crash, outcome = .error crash) ↔
        Breaks .spl ("where " ++ a ++ " AND " ++ b).toList) := by
  have hresults :
      Spl.results ("where ".toList ++ (a.toList ++ (" AND ".toList ++ b.toList))) data = _ :=
    Spl.results_and (unbroken_of_not_holdsBar hclosed hbar)
  refine ⟨_, Spl.run_results _, ?_, ?_⟩
  · rw [Spl.run_results]
    simp only [String.toList_append, List.append_assoc, hresults]
  · rw [Spl.results, exists_error_bind_pure_iff, Spl.exists_error_compile_iff]
    rfl

theorem where_and_eq_where_where_of_commands :
    let a := "user = \"a|b\" or so AND (none)"
    let b := "= = AND port >= 22 more | head 1 | unknown"
    let data : Dataset := [.ofList [("user", .string "a|b"), ("port", .int 21)],
      .ofList [("user", .string "a|b"), ("port", .string "22")]]
    Closed a.toList ∧ ¬ HoldsBar a.toList ∧ ∃ outcome : Except Crash Dataset,
      (run .spl ("where " ++ a ++ " AND " ++ b) data).map Answer.results = liftM outcome ∧
      (run .spl ("where " ++ a ++ " | where " ++ b) data).map Answer.results = liftM outcome ∧
      ((∃ crash, outcome = .error crash) ↔
        Breaks .spl ("where " ++ a ++ " AND " ++ b).toList) := by
  intro a b data
  have hclosed : Closed a.toList := by decide +kernel
  have hbar : ¬ HoldsBar a.toList := by decide +kernel
  exact ⟨hclosed, hbar, where_and_eq_where_where hclosed hbar b data⟩

end LogLab.Query
