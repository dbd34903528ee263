import LogLab.Proofs.Number.Ranks

/-! # Comparing finite doubles

A double is compared with another as its bits are unpacked: two zeros are equal, and otherwise the
signs decide, then the exponents, then the significands. For finite doubles that is the order of
their ranks.
-/

namespace LogLab.Binary64

open Float.Model

variable {x y : Float}

def exponentBits (x : Float) : BitVec 11 :=
  @UnpackedFloat.unpackExponent .binary64 x.toBits.toBitVec

def fractionBits (x : Float) : BitVec 52 :=
  @UnpackedFloat.unpackMantissa .binary64 x.toBits.toBitVec

def signBits (x : Float) : BitVec 1 :=
  @UnpackedFloat.unpackSign .binary64 x.toBits.toBitVec

theorem toNat_exponentBits (x : Float) : (exponentBits x).toNat = magnitude x / exponentBit := by
  have h : (exponentBits x).toNat = (x.toBits.toNat >>> 52) % 2 ^ 11 := rfl
  rw [h, Nat.shiftRight_eq_div_pow, magnitude, signBit, exponentBit]
  omega

theorem toNat_fractionBits (x : Float) : (fractionBits x).toNat = magnitude x % exponentBit := by
  have h : (fractionBits x).toNat = (x.toBits.toNat >>> 0) % 2 ^ 52 := rfl
  rw [h, Nat.shiftRight_zero, magnitude, signBit, exponentBit]
  omega

theorem signBits_eq_zero_iff : signBits x = 0#1 ↔ isNegative x = false := by
  have h : (signBits x).toNat = (x.toBits.toNat >>> 63) % 2 ^ 1 := rfl
  have hlt := x.toBits.toNat_lt
  rw [← BitVec.toNat_inj, h, Nat.shiftRight_eq_div_pow, isNegative, signBit,
    decide_eq_false_iff_not]
  change _ = 0 ↔ _
  omega

def sign (x : Float) : UnpackedFloat.Sign :=
  if isNegative x then .negative else .positive

theorem ofBitVec_signBits (x : Float) : UnpackedFloat.Sign.ofBitVec (signBits x) = sign x := by
  unfold UnpackedFloat.Sign.ofBitVec sign
  simp only [signBits_eq_zero_iff]
  cases isNegative x <;> rfl

theorem significand_pos (h : magnitude x ≠ 0) : 0 < significand x := by
  unfold significand exponentBit
  split <;> omega

theorem toNat_append_fractionBits (x : Float) :
    (1#1 ++ fractionBits x).toNat = exponentBit + (fractionBits x).toNat := by
  rw [BitVec.toNat_append, ← Nat.shiftLeft_add_eq_or_of_lt (fractionBits x).isLt]
  rfl

theorem unpack_eq (x : Float) (hpos : 0 < (1#1 ++ fractionBits x).toNat) : x.toModel.unpack =
    if exponentBits x = -1#11 then
      if fractionBits x = 0#52 then .infinity (UnpackedFloat.Sign.ofBitVec (signBits x))
      else .notANumber
    else if exponentBits x = 0#11 then
      if h : fractionBits x = 0#52 then .zero (UnpackedFloat.Sign.ofBitVec (signBits x))
      else .finite (UnpackedFloat.Sign.ofBitVec (signBits x)) (fractionBits x).toNat
        ((exponentBits x).toNat - (1023 + 52) + 1)
        (by simpa [BitVec.toNat_pos, BitVec.pos_iff_ne_zero])
    else .finite (UnpackedFloat.Sign.ofBitVec (signBits x)) (1#1 ++ fractionBits x).toNat
      ((exponentBits x).toNat - (1023 + 52)) hpos := rfl

theorem finite_congr {s : UnpackedFloat.Sign} {m n : Nat} {e f : Int} (hmn : m = n) (hef : e = f)
    (hm : 0 < m) (hn : 0 < n) : UnpackedFloat.finite s m e hm = .finite s n f hn := by
  subst hmn hef
  rfl

/-- A finite double is a zero, or its significand times a power of two. -/
theorem unpack_of_isFinite (hx : isFinite x = true) :
    magnitude x = 0 ∧ x.toModel.unpack = .zero (sign x) ∨
      ∃ h : 0 < significand x, magnitude x ≠ 0 ∧
        x.toModel.unpack = .finite (sign x) (significand x) (exponent x) h := by
  have hlt : magnitude x < 2047 * exponentBit := of_decide_eq_true hx
  have he := toNat_exponentBits x
  have hm := toNat_fractionBits x
  have happend := toNat_append_fractionBits x
  have htop : exponentBits x ≠ -1#11 := by
    intro h
    have h' : (exponentBits x).toNat = 2047 := congrArg BitVec.toNat h
    rw [he] at h'
    have := Nat.div_lt_of_lt_mul ((Nat.mul_comm ..).symm ▸ hlt)
    omega
  have hzero : exponentBits x = 0#11 ↔ magnitude x < exponentBit := by
    rw [← BitVec.toNat_inj, he]
    exact Nat.div_eq_zero_iff_lt (by decide)
  have hfraction : fractionBits x = 0#52 ↔ magnitude x % exponentBit = 0 := by
    rw [← BitVec.toNat_inj, hm]
    exact Iff.rfl
  have hpos : 0 < (1#1 ++ fractionBits x).toNat := by
    rw [happend]
    exact Nat.add_pos_left (by decide) _
  rw [unpack_eq x hpos, if_neg htop, ofBitVec_signBits]
  by_cases hsmall : magnitude x < exponentBit
  · rw [if_pos (hzero.mpr hsmall)]
    rw [Nat.mod_eq_of_lt hsmall] at hm hfraction
    by_cases h0 : magnitude x = 0
    · exact .inl ⟨h0, dif_pos (hfraction.mpr h0)⟩
    · refine .inr ⟨significand_pos h0, h0, ?_⟩
      rw [dif_neg fun h => h0 (hfraction.mp h)]
      refine finite_congr (hm.trans (if_pos hsmall).symm) ?_ _ _
      rw [he, Nat.div_eq_of_lt hsmall, exponent, if_pos hsmall]
      rfl
  · have h0 : magnitude x ≠ 0 := fun h => hsmall (h ▸ by decide)
    refine .inr ⟨significand_pos h0, h0, ?_⟩
    rw [if_neg fun h => hsmall (hzero.mp h)]
    refine finite_congr ?_ ?_ _ _
    · rw [happend, hm, significand, if_neg hsmall]
    · rw [he, exponent, if_neg hsmall]
      rfl

theorem lex_of_magnitude_lt (h : magnitude x < magnitude y) :
    exponent x < exponent y ∨ exponent x = exponent y ∧ significand x < significand y := by
  unfold exponent significand exponentBit
  split <;> split <;> omega

/-- The order of exponents and then significands is the order of the magnitudes. -/
theorem compare_exponent_then (x y : Float) :
    (compare (exponent x) (exponent y)).then (compare (significand x) (significand y)) =
      compare (magnitude x) (magnitude y) := by
  rcases Nat.lt_trichotomy (magnitude x) (magnitude y) with h | h | h
  · rw [compare_lt_iff_lt.mpr h, Ordering.then_eq_lt, compare_lt_iff_lt, compare_eq_iff_eq,
      compare_lt_iff_lt]
    exact lex_of_magnitude_lt h
  · have hexponent : exponent x = exponent y := by rw [exponent, h, exponent]
    have hsignificand : significand x = significand y := by rw [significand, h, significand]
    rw [hexponent, hsignificand, h]
    simp
  · rw [compare_gt_iff_gt.mpr h, Ordering.then_eq_gt, compare_gt_iff_gt, compare_eq_iff_eq,
      compare_gt_iff_gt]
    exact (lex_of_magnitude_lt h).imp id fun h => ⟨h.1.symm, h.2⟩

theorem sign_cases (hm : magnitude x ≠ 0) :
    sign x = .positive ∧ rank x = magnitude x ∧ 0 < rank x ∨
      sign x = .negative ∧ rank x = -(magnitude x : Int) ∧ rank x < 0 := by
  unfold sign rank
  cases isNegative x with
  | false => exact .inl ⟨rfl, rfl, Int.natCast_pos.mpr (Nat.pos_of_ne_zero hm)⟩
  | true => exact .inr ⟨rfl, rfl, Int.neg_neg_of_pos (Int.natCast_pos.mpr (Nat.pos_of_ne_zero hm))⟩

theorem rank_of_magnitude (h : magnitude x = 0) : rank x = 0 := by
  simp [rank, h]

/-- The ranks of finite doubles are in the order of the doubles. -/
theorem compare_unpack (hx : isFinite x = true) (hy : isFinite y = true) :
    x.toModel.unpack.compare y.toModel.unpack = some (compare (rank x) (rank y)) := by
  have hlt (h : rank x < rank y) : some .lt = some (compare (rank x) (rank y)) :=
    congrArg some (compare_lt_iff_lt.mpr h).symm
  have hgt (h : rank y < rank x) : some .gt = some (compare (rank x) (rank y)) :=
    congrArg some (compare_gt_iff_gt.mpr h).symm
  rcases unpack_of_isFinite hx with ⟨hm, hx⟩ | ⟨hp, hm, hx⟩ <;>
    rcases unpack_of_isFinite hy with ⟨hn, hy⟩ | ⟨hq, hn, hy⟩ <;> rw [hx, hy]
  · rw [rank_of_magnitude hm, rank_of_magnitude hn]
    rfl
  · have hzero := rank_of_magnitude hm
    rcases sign_cases hn with ⟨hs, -, hr⟩ | ⟨hs, -, hr⟩ <;> rw [hs]
    · exact hlt (by omega)
    · exact hgt (by omega)
  · have hzero := rank_of_magnitude hn
    rcases sign_cases hm with ⟨hs, -, hr⟩ | ⟨hs, -, hr⟩ <;> rw [hs]
    · exact hgt (by omega)
    · exact hlt (by omega)
  · rcases sign_cases hm with ⟨hs, hr, hpos⟩ | ⟨hs, hr, hneg⟩ <;>
      rcases sign_cases hn with ⟨hs', hr', hpos'⟩ | ⟨hs', hr', hneg'⟩ <;> rw [hs, hs']
    · have hcast : compare (rank x) (rank y) = compare (magnitude x) (magnitude y) := by
        rw [hr, hr']
        exact compare_of_strictMono Nat.strictMono_cast _ _
      rw [hcast, ← compare_exponent_then]
      rfl
    · exact hgt (by omega)
    · exact hlt (by omega)
    · have hcast : compare (rank x) (rank y) = compare (magnitude y) (magnitude x) :=
        compare_congr (by omega) (by omega)
      have hswap : compare (magnitude y) (magnitude x) =
          (compare (magnitude x) (magnitude y)).swap := Std.OrientedCmp.eq_swap
      rw [hcast, hswap, ← compare_exponent_then]
      rfl

theorem lt_iff_rank_lt (hx : isFinite x = true) (hy : isFinite y = true) :
    x < y ↔ rank x < rank y := by
  have h : x < y ↔ (x.toModel.unpack.compare y.toModel.unpack == some .lt) = true :=
    decide_eq_true_iff
  rw [h, compare_unpack hx hy, beq_iff_eq, Option.some.injEq, compare_lt_iff_lt]

theorem le_iff_rank_le (hx : isFinite x = true) (hy : isFinite y = true) :
    x ≤ y ↔ rank x ≤ rank y := by
  have h : x ≤ y ↔ (x.toModel.unpack.compare y.toModel.unpack).any (·.isLE) = true :=
    decide_eq_true_iff
  rw [h, compare_unpack hx hy, Option.any_some, ← Ordering.ne_gt_iff_isLE]
  exact compare_le_iff_le

end LogLab.Binary64
