import LogLab.Proofs.Number.Ranks
import LogLab.Proofs.Number.Unpack
import LogLab.Proofs.Pipeline.StableSort

/-! # Numeric filters and sorting

Filters and sorting read the numbers of values in the same way and compare them by different orders
of doubles. The orders agree on all numbers but the two zeros: these are equal for a filter, and
sorting puts the negative one in front.
-/

namespace LogLab

open Binary64

variable {a : Json} {literal field : String} {x y : Float} {r other : Record}

/-- Predicates on numbers compare them by value. -/
theorem Predicate.holds_iff_toRat (ha : a.number? = some x)
    (hl : Json.numberOfText? literal = some y) (hr : r.field? field = some a) :
    ((⟨field, .lt, literal⟩ : Predicate).holds r = true ↔ toRat x < toRat y) ∧
      ((⟨field, .ltEq, literal⟩ : Predicate).holds r = true ↔ toRat x ≤ toRat y) ∧
      ((⟨field, .gtEq, literal⟩ : Predicate).holds r = true ↔ toRat y ≤ toRat x) ∧
      ((⟨field, .gt, literal⟩ : Predicate).holds r = true ↔ toRat y < toRat x) := by
  have hnumbers (test : Ordering → Bool) :
      compareNumbers a literal test = test (compare (toRat x) (toRat y)) := by
    rw [compareNumbers, ha, hl, compare_toRat]
  simp only [holds, hr, holdsOf, hnumbers, beq_iff_eq, bne_iff_ne]
  exact ⟨compare_lt_iff_lt, compare_le_iff_le, compare_ge_iff_ge, compare_gt_iff_gt⟩

theorem isFinite_of_numberOfText? (h : Json.numberOfText? literal = some y) :
    isFinite y = true := by
  obtain ⟨n, -, hn⟩ := Option.bind_eq_some_iff.mp h
  unfold Numeral.toFinite? at hn
  split at hn
  · next hfinite =>
    obtain rfl := Option.some.inj hn
    exact hfinite
  · cases hn

/-- Predicates on finite numbers are the comparisons of doubles. -/
theorem Predicate.holds_iff_lt (ha : a.number? = some x) (hx : isFinite x = true)
    (hl : Json.numberOfText? literal = some y) (hr : r.field? field = some a) :
    ((⟨field, .lt, literal⟩ : Predicate).holds r = true ↔ x < y) ∧
      ((⟨field, .ltEq, literal⟩ : Predicate).holds r = true ↔ x ≤ y) ∧
      ((⟨field, .gtEq, literal⟩ : Predicate).holds r = true ↔ y ≤ x) ∧
      ((⟨field, .gt, literal⟩ : Predicate).holds r = true ↔ y < x) := by
  have hy := isFinite_of_numberOfText? hl
  rw [lt_iff_rank_lt hx hy, le_iff_rank_le hx hy, le_iff_rank_le hy hx, lt_iff_rank_lt hy hx,
    ← toRat_lt_iff, ← toRat_lt_iff, ← toRat_le_iff, ← toRat_le_iff]
  exact holds_iff_toRat ha hl hr

theorem compareFields_of_numbers (ha : a.number? = some x)
    (hl : Json.numberOfText? literal = some y) :
    Json.compareFields (some a) (some (.string literal)) =
      compare (totalRank x) (totalRank y) := by
  have hliteral : (Json.string literal).number? = some y := hl
  simp only [Json.compareFields, Json.comparePresent, ha, hliteral]

/-- Records whose values compare as equal stand in either order. -/
theorem SortKey.sorts_of_mem_pair {k : SortKey} {data : Dataset}
    (h : Json.compareFields (r.field? k.field) (other.field? k.field) = .eq)
    (hdata : data ∈ [[r, other], [other, r]]) : k.Sorts data := by
  rw [Json.compareFields_eq, compare_eq_iff_eq] at h
  have htie : k.ties (other.field? k.field) r = true := ties_iff.mpr h
  rcases List.mem_pair.mp hdata with rfl | rfl
  · exact List.pairwise_pair.mpr (inOrder_of_ties htie ties_self)
  · exact List.pairwise_pair.mpr (inOrder_of_ties ties_self htie)

/-- Filters compare numbers as doubles. Sorting agrees with them except that a filter takes the two
zeros as equal and sorting does not. Apart from them, values that a filter takes as equal are
ties. -/
theorem sorting_agrees_iff (ha : a.number? = some x) (hl : Json.numberOfText? literal = some y)
    (hr : r.field? field = some a) :
    let holds (c : Comparison) : Prop := (⟨field, c, literal⟩ : Predicate).holds r = true
    let order := Json.compareFields (some a) (some (.string literal))
    (isFinite x = true → (holds .lt ↔ x < y) ∧ (holds .ltEq ↔ x ≤ y) ∧ (holds .gtEq ↔ y ≤ x) ∧
        (holds .gt ↔ y < x)) ∧
      ((order = .lt ↔ holds .lt) ∧ (order = .eq ↔ holds .ltEq ∧ holds .gtEq) ∧
        (order = .gt ↔ holds .gt) ↔ ¬ OppositeZeros x y) ∧
      (OppositeZeros x y →
        holds .ltEq ∧ holds .gtEq ∧ order = if isNegative x then .lt else .gt) ∧
      (¬ OppositeZeros x y → holds .ltEq → holds .gtEq →
        ∀ other : Record, other.field? field = some (.string literal) → ∀ direction,
          ∀ data ∈ [[r, other], [other, r]], SortKey.sort ⟨field, direction⟩ data = data ∧
            Check.passes data (.sortedBy field direction) = true) := by
  intro holds order
  obtain ⟨hlt, hltEq, hgtEq, hgt⟩ := Predicate.holds_iff_toRat ha hl hr
  have hrank : order = compare (totalRank x) (totalRank y) := compareFields_of_numbers ha hl
  have hvalue (h : ¬ OppositeZeros x y) : order = compare (toRat x) (toRat y) := by
    rw [hrank, compare_totalRank h, compare_toRat]
  have hzeros (h : OppositeZeros x y) :
      holds .ltEq ∧ holds .gtEq ∧ order = if isNegative x then .lt else .gt := by
    have heq : toRat x = toRat y := h.1.trans h.2.1.symm
    exact ⟨hltEq.mpr heq.le, hgtEq.mpr heq.ge, hrank.trans (compare_totalRank_of_oppositeZeros h)⟩
  refine ⟨fun hx => Predicate.holds_iff_lt ha hx hl hr, ⟨?_, fun h => ?_⟩, hzeros, ?_⟩
  · rintro ⟨-, heq, -⟩ h
    obtain ⟨hle, hge, hsign⟩ := hzeros h
    rw [heq.mpr ⟨hle, hge⟩] at hsign
    split at hsign <;> cases hsign
  · rw [hvalue h]
    refine ⟨compare_lt_iff_lt.trans hlt.symm, compare_eq_iff_eq.trans ?_,
      compare_gt_iff_gt.trans hgt.symm⟩
    exact le_antisymm_iff.trans (and_congr hltEq.symm hgtEq.symm)
  · intro h hle hge other hother direction data hdata
    have heq : order = .eq := by
      rw [hvalue h, compare_eq_iff_eq]
      exact le_antisymm (hltEq.mp hle) (hgtEq.mp hge)
    have hsorts : (⟨field, direction⟩ : SortKey).Sorts data := by
      refine SortKey.sorts_of_mem_pair ?_ hdata
      rw [hr, hother]
      exact heq
    exact ⟨SortKey.sort_of_sorts hsorts, Check.passes_sortedBy_iff.mpr hsorts⟩

/-- Integers beyond `2 ^ 53` are compared as the doubles nearest to them. -/
theorem sorting_agrees_of_large_integers :
    let r : Record := .ofList [("n", .int 9007199254740993)]
    let other : Record := .ofList [("n", .string "9007199254740992")]
    ¬ OppositeZeros 9007199254740992 9007199254740992 ∧
      Json.compareFields (some (.int 9007199254740993)) (some (.string "9007199254740992")) = .eq ∧
      SortKey.sort ⟨"n", .desc⟩ [r, other] = [r, other] ∧
      SortKey.sort ⟨"n", .desc⟩ [other, r] = [other, r] := by
  intro r other
  have ha : (Json.int 9007199254740993).number? = some 9007199254740992 := by decide +kernel
  have hl : Json.numberOfText? "9007199254740992" = some 9007199254740992 := by decide +kernel
  have hr : r.field? "n" = some (.int 9007199254740993) := by rfl
  have hzeros : ¬ OppositeZeros 9007199254740992 9007199254740992 := fun h => h.2.2 rfl
  have hle : (⟨"n", .ltEq, "9007199254740992"⟩ : Predicate).holds r = true := by decide +kernel
  have hge : (⟨"n", .gtEq, "9007199254740992"⟩ : Predicate).holds r = true := by decide +kernel
  obtain ⟨-, hagree, -, hties⟩ := sorting_agrees_iff ha hl hr
  have hdata := hties hzeros hle hge other rfl .desc
  exact ⟨hzeros, (hagree.mpr hzeros).2.1.mpr ⟨hle, hge⟩, (hdata _ (by simp)).1,
    (hdata _ (by simp)).1⟩

theorem zeros_not_tied :
    let r : Record := .ofList [("x", .string "-0")]
    let other : Record := .ofList [("x", .string "0")]
    (⟨"x", .ltEq, "0"⟩ : Predicate).holds r = true ∧
      (⟨"x", .gtEq, "0"⟩ : Predicate).holds r = true ∧
      (⟨"x", .lt, "0"⟩ : Predicate).holds r = false ∧
      Json.compareFields (some (.string "-0")) (some (.string "0")) = .lt ∧
      Check.passes [other, r] (.sortedBy "x" .asc) = false := by
  decide +kernel

end LogLab
