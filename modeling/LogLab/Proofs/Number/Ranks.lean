import LogLab.Number.Binary64
import Mathlib.Algebra.Order.Field.Power
import Mathlib.Data.Int.ConditionallyCompleteOrder
import Mathlib.Tactic.Linarith

/-! # The order of doubles

The place of a finite double in numeric order is read from its bits. It is the order of the numbers
that the doubles stand for; the order used for sorting differs from it in the two zeros only.
-/

namespace LogLab

theorem compare_congr {α β : Type} [LinearOrder α] [LinearOrder β] {a b : α} {c d : β}
    (hlt : a < b ↔ c < d) (hgt : b < a ↔ d < c) : compare a b = compare c d := by
  rcases lt_trichotomy a b with h | h | h
  · rw [compare_lt_iff_lt.mpr h, compare_lt_iff_lt.mpr (hlt.mp h)]
  · have hle : c ≤ d := not_lt.mp (mt hgt.mpr h.not_gt)
    have hge : d ≤ c := not_lt.mp (mt hlt.mpr h.not_lt)
    rw [compare_eq_iff_eq.mpr h, compare_eq_iff_eq.mpr (hle.antisymm hge)]
  · rw [compare_gt_iff_gt.mpr h, compare_gt_iff_gt.mpr (hgt.mp h)]

theorem compare_of_strictMono {α β : Type} [LinearOrder α] [LinearOrder β] {f : α → β}
    (h : StrictMono f) (x y : α) : compare (f x) (f y) = compare x y :=
  compare_congr h.lt_iff_lt h.lt_iff_lt

namespace Binary64

variable {x y : Float}

/-- The number that a finite double is. -/
def toRat (x : Float) : ℚ :=
  (if isNegative x then -1 else 1) * (significand x * 2 ^ exponent x)

/-- The absolute value of the double with these bits below the sign, in units of `2 ^ -1074`. -/
def units (m : Nat) : Nat :=
  if m < exponentBit then m else (exponentBit + m % exponentBit) * 2 ^ (m / exponentBit - 1)

/-- Each double is followed by a larger one: the fraction grows by a unit of its exponent, or it
starts again with the next exponent. -/
theorem units_lt_succ (m : Nat) : units m < units (m + 1) := by
  unfold units exponentBit
  by_cases hsmall : m + 1 < 0x10000000000000
  · rw [if_pos (by omega), if_pos hsmall]
    omega
  rw [if_neg hsmall]
  by_cases hfirst : m < 0x10000000000000
  · rw [if_pos hfirst]
    have hdiv : (m + 1) / 0x10000000000000 - 1 = 0 := by omega
    rw [hdiv]
    omega
  rw [if_neg hfirst]
  by_cases hcarry : (m + 1) % 0x10000000000000 = 0
  · have hdiv : (m + 1) / 0x10000000000000 - 1 = m / 0x10000000000000 - 1 + 1 := by omega
    rw [hdiv, hcarry, pow_succ, mul_comm (2 ^ _) 2, ← mul_assoc]
    exact Nat.mul_lt_mul_of_pos_right (by omega) (Nat.two_pow_pos _)
  · have hdiv : (m + 1) / 0x10000000000000 = m / 0x10000000000000 := by omega
    rw [hdiv]
    exact Nat.mul_lt_mul_of_pos_right (by omega) (Nat.two_pow_pos _)

theorem units_strictMono : StrictMono units :=
  strictMono_nat_of_lt_succ units_lt_succ

theorem units_magnitude (x : Float) :
    (units (magnitude x) : ℚ) * 2 ^ (-1074 : ℤ) = significand x * 2 ^ exponent x := by
  unfold units significand exponent
  split
  · rfl
  · next h =>
    have hpos : 0 < magnitude x / exponentBit := Nat.div_pos (Nat.le_of_not_lt h) (by decide)
    have hexponent : ((magnitude x / exponentBit : Nat) : ℤ) - 1075 =
        ((magnitude x / exponentBit - 1 : Nat) : ℤ) + -1074 := by omega
    rw [hexponent, zpow_add₀ (by norm_num), zpow_natCast, Nat.cast_mul, Nat.cast_pow, mul_assoc]
    rfl

/-- The number at a place. -/
def ofRank (r : Int) : ℚ :=
  ((if r < 0 then -(units r.natAbs) else units r.natAbs : Int) : ℚ) * 2 ^ (-1074 : ℤ)

theorem ofRank_strictMono : StrictMono ofRank := by
  intro r s h
  refine mul_lt_mul_of_pos_right (Int.cast_lt.mpr ?_) (by positivity)
  split <;> split
  · exact neg_lt_neg (Int.ofNat_lt.mpr (units_strictMono (by omega)))
  · have hpos : units 0 < units r.natAbs := units_strictMono (by omega)
    omega
  · omega
  · exact Int.ofNat_lt.mpr (units_strictMono (by omega))

theorem ofRank_zero : ofRank 0 = 0 := by
  have hzero : units 0 = 0 := rfl
  simp [ofRank, hzero]

theorem ofRank_rank (x : Float) : ofRank (rank x) = toRat x := by
  unfold toRat rank
  rw [← units_magnitude]
  cases isNegative x with
  | false => simp [ofRank]
  | true =>
    rcases Nat.eq_zero_or_pos (magnitude x) with hm | hm
    · have hzero : units 0 = 0 := rfl
      simp [hm, ofRank_zero, hzero]
    · simp [ofRank, hm]

theorem toRat_lt_iff : toRat x < toRat y ↔ rank x < rank y := by
  rw [← ofRank_rank, ← ofRank_rank]
  exact ofRank_strictMono.lt_iff_lt

theorem toRat_le_iff : toRat x ≤ toRat y ↔ rank x ≤ rank y := by
  rw [← ofRank_rank, ← ofRank_rank]
  exact ofRank_strictMono.le_iff_le

/-- Doubles are compared by their ranks as the numbers that they are. -/
theorem compare_toRat (x y : Float) : compare (toRat x) (toRat y) = compare (rank x) (rank y) :=
  compare_congr toRat_lt_iff toRat_lt_iff

theorem toRat_eq_zero_iff : toRat x = 0 ↔ magnitude x = 0 := by
  have hzero : rank x = 0 ↔ magnitude x = 0 := by
    unfold rank
    split <;> omega
  rw [← hzero, ← ofRank_rank, ← ofRank_zero]
  exact ofRank_strictMono.injective.eq_iff

/-- The two zeros, in either order. -/
def OppositeZeros (x y : Float) : Prop :=
  toRat x = 0 ∧ toRat y = 0 ∧ isNegative x ≠ isNegative y

theorem compare_totalRank_of_oppositeZeros (h : OppositeZeros x y) :
    compare (totalRank x) (totalRank y) = if isNegative x then .lt else .gt := by
  obtain ⟨hx, hy, hsign⟩ := h
  rw [toRat_eq_zero_iff] at hx hy
  unfold totalRank
  rw [hx, hy]
  cases hnx : isNegative x <;> cases hny : isNegative y
  · exact absurd (hnx.trans hny.symm) hsign
  · rfl
  · rfl
  · exact absurd (hnx.trans hny.symm) hsign

theorem OppositeZeros.symm (h : OppositeZeros x y) : OppositeZeros y x :=
  ⟨h.2.1, h.1, h.2.2.symm⟩

theorem totalRank_lt_iff (h : ¬ OppositeZeros x y) :
    totalRank x < totalRank y ↔ rank x < rank y := by
  rw [OppositeZeros, toRat_eq_zero_iff, toRat_eq_zero_iff] at h
  unfold totalRank rank
  cases hx : isNegative x <;> cases hy : isNegative y <;> simp [hx, hy] at h ⊢ <;> omega

/-- The order used for sorting is that of the values, but for the zeros. -/
theorem compare_totalRank (h : ¬ OppositeZeros x y) :
    compare (totalRank x) (totalRank y) = compare (rank x) (rank y) :=
  compare_congr (totalRank_lt_iff h) (totalRank_lt_iff fun h' => h h'.symm)

end Binary64

end LogLab
