import LogLab.Text.Lowercase
import Mathlib.Data.List.TakeWhile

/-! # Lower case

Letters of ASCII that have the same lower case, and the lower case of a text inside a longer one.
There only a capital sigma depends on the text around it. A character that is neither cased nor
ignored for casing ends a word: the texts on its two sides are written in lower case on their own.
-/

namespace LogLab.Text

section Ascii

variable {c d : Char} {s t : List Char}

theorem toNat_toLower (c : Char) :
    c.toLower.toNat = if 65 ≤ c.toNat ∧ c.toNat ≤ 90 then c.toNat + 32 else c.toNat := by
  unfold Char.toLower
  simp only [ge_iff_le, UInt32.le_iff_toNat_le, Char.reduceVal, UInt32.reduceToNat]
  split
  · simp only [Char.toNat, UInt32.toNat_add]
    grind
  · exact (if_neg ‹_›).symm

theorem toNat_toUpper (c : Char) :
    c.toUpper.toNat = if 97 ≤ c.toNat ∧ c.toNat ≤ 122 then c.toNat - 32 else c.toNat := by
  unfold Char.toUpper
  simp only [UInt32.le_iff_toNat_le, Char.reduceVal, UInt32.reduceToNat]
  split
  · simp only [Char.toNat, UInt32.toNat_add]
    grind
  · exact (if_neg ‹_›).symm

theorem isAlpha_iff : c.isAlpha = true ↔
    65 ≤ c.toNat ∧ c.toNat ≤ 90 ∨ 97 ≤ c.toNat ∧ c.toNat ≤ 122 := by
  unfold Char.isAlpha Char.isUpper Char.isLower
  simp only [Bool.or_eq_true, Bool.and_eq_true, decide_eq_true_eq, ge_iff_le,
    UInt32.le_iff_toNat_le, Char.reduceVal, UInt32.reduceToNat]
  exact Iff.rfl

theorem isAlpha_toLower (h : c.isAlpha = true) : c.toLower.isAlpha = true := by
  rw [isAlpha_iff] at h ⊢
  rw [toNat_toLower]
  grind

theorem isAlpha_of_toLower_eq (h : c.toLower = d.toLower) (hd : d.isAlpha = true) :
    c.isAlpha = true := by
  have hcode := congrArg Char.toNat h
  rw [toNat_toLower, toNat_toLower] at hcode
  rw [isAlpha_iff] at hd ⊢
  grind

theorem eq_of_toLower_eq (h : c.toLower = d) (hd : d.isAlpha = false) : c = d := by
  have hcode := congrArg Char.toNat h
  rw [toNat_toLower] at hcode
  rw [Bool.eq_false_iff, Ne, isAlpha_iff] at hd
  refine Char.toNat_inj.mp ?_
  grind

theorem toUpper_eq_of_toLower_eq (h : c.toLower = d.toLower) : c.toUpper = d.toUpper := by
  have hcode := congrArg Char.toNat h
  rw [toNat_toLower, toNat_toLower] at hcode
  refine Char.toNat_inj.mp ?_
  rw [toNat_toUpper, toNat_toUpper]
  grind

theorem map_toUpper_eq_of_asciiLower_eq (h : asciiLower s = asciiLower t) :
    s.map Char.toUpper = t.map Char.toUpper := by
  induction s generalizing t with
  | nil => simp_all [asciiLower]
  | cons c s ih =>
    cases t with
    | nil => simp [asciiLower] at h
    | cons d t =>
      simp only [asciiLower, List.map_cons, List.cons.injEq] at h
      rw [List.map_cons, List.map_cons, toUpper_eq_of_toLower_eq h.1, ih h.2]

theorem eqIgnoringCase_iff : eqIgnoringCase s t = true ↔ asciiLower s = asciiLower t := by
  simp [eqIgnoringCase]

end Ascii

section Letters

variable {c w : Char}

/-- The Kelvin sign, the one character above ASCII whose lower case is a letter of ASCII. -/
def kelvinSign : Char := '\u212a'

/-- The lower case of a character is that of ASCII, the character itself, or what a run has. -/
theorem lowerChar_cases (c : Char) :
    c.toNat < 0x80 ∧ lowerChar c = c.toLower ∨ 0x80 ≤ c.toNat ∧ (lowerChar c = c ∨
      ∃ run ∈ caseRuns, run.first ≤ c.toNat ∧ c.toNat ≤ run.last ∧
        ((lowerChar c).toNat = ((c.toNat : Int) + run.shift).toNat ∨ (lowerChar c).toNat = 0)) := by
  unfold lowerChar
  split
  · next hc => exact .inl ⟨hc, rfl⟩
  · next hc =>
    refine .inr ⟨Nat.le_of_not_lt hc, ?_⟩
    split
    · next run hrun =>
      have hcovers := List.find?_some hrun
      simp only [CaseRun.covers, Bool.and_eq_true, decide_eq_true_eq] at hcovers
      refine .inr ⟨run, List.mem_of_find?_eq_some hrun, hcovers.1.1, hcovers.1.2, ?_⟩
      by_cases hvalid : ((c.toNat : Int) + run.shift).toNat.isValidChar
      · exact .inl (congrArg Char.toNat (dif_pos hvalid))
      · exact .inr (congrArg Char.toNat (dif_neg hvalid))
    · exact .inl rfl

theorem lower_of_mem_caseRuns : ∀ run ∈ caseRuns,
    run.first = 0x212A ∧ run.last = 0x212A ∨ 0x80 ≤ (run.first : Int) + run.shift := by
  decide +kernel

theorem eq_kelvinSign_of_isAlpha (hc : 0x80 ≤ c.toNat) (h : (lowerChar c).isAlpha = true) :
    c = kelvinSign := by
  have hkelvin : kelvinSign.toNat = 0x212A := by decide
  rw [isAlpha_iff] at h
  rcases lowerChar_cases c with ⟨hlt, -⟩ | ⟨-, hself | ⟨run, hrun, hfirst, hlast, hcode⟩⟩
  · omega
  · rw [hself] at h
    omega
  · refine Char.toNat_inj.mp ?_
    rcases lower_of_mem_caseRuns run hrun with hone | hlow <;> omega

theorem toNat_lt_of_isAlpha (h : c.isAlpha = true) : c.toNat < 0x80 := by
  rw [isAlpha_iff] at h
  omega

theorem lower_of_lt (h : c.toNat < 0x80) : lower [c] = [c.toLower] := by
  have hne : ∀ d : Char, 0x80 ≤ d.toNat → c ≠ d := by
    rintro d hd rfl
    omega
  simp only [lower, lowerAfter, lowerIn, if_neg (hne capitalSigma (by decide)),
    if_neg (hne capitalDottedI (by decide)), lowerChar, if_pos h, List.append_nil]

/-- Above ASCII only the Kelvin sign has the lower case of a letter. -/
theorem eq_kelvinSign_of_lower_eq (hw : w.isAlpha = true) (hc : 0x80 ≤ c.toNat)
    (h : lower [c] = [w]) : c = kelvinSign := by
  simp only [lower, lowerAfter, lowerIn, List.append_nil] at h
  split at h
  · obtain rfl := (List.cons.inj h).1
    exact absurd hw (by decide)
  · split at h
    · cases h
    · refine eq_kelvinSign_of_isAlpha hc ?_
      rwa [(List.cons.inj h).1]

/-- A letter of ASCII shares its lower case with its other case, and `k` with the Kelvin sign. -/
theorem lower_eq_lower_iff (hw : w.isAlpha = true) : lower [w] = lower [c] ↔
    w.toLower = c.toLower ∨ w.toLower = 'k' ∧ c = kelvinSign := by
  have hkelvin : lower [kelvinSign] = ['k'] := by decide +kernel
  have halpha : w.toLower.isAlpha = true := isAlpha_toLower hw
  rw [lower_of_lt (toNat_lt_of_isAlpha hw)]
  constructor
  · intro h
    by_cases hc : c.toNat < 0x80
    · rw [lower_of_lt hc] at h
      exact .inl (List.cons.inj h).1
    · obtain rfl := eq_kelvinSign_of_lower_eq halpha (Nat.le_of_not_lt hc) h.symm
      exact .inr ⟨(List.cons.inj (h.trans hkelvin)).1, rfl⟩
  · rintro (h | ⟨h, rfl⟩)
    · rw [lower_of_lt (toNat_lt_of_isAlpha (isAlpha_of_toLower_eq h.symm hw)), h]
    · rw [h, hkelvin]

end Letters

section Words

variable {s t : List Char} {c : Char}

def AllIgnorable (s : List Char) : Prop := ∀ c ∈ s, inRanges caseIgnorableRanges c = true

structure EndsWord (c : Char) : Prop where
  notCased : inRanges casedRanges c = false
  notIgnorable : inRanges caseIgnorableRanges c = false

theorem dropWhile_eq_nil_iff_allIgnorable :
    s.dropWhile (inRanges caseIgnorableRanges) = [] ↔ AllIgnorable s :=
  List.dropWhile_eq_nil_iff

theorem startsCased_of_allIgnorable (hs : AllIgnorable s) : startsCased s = false := by
  rw [startsCased, dropWhile_eq_nil_iff_allIgnorable.mpr hs]

theorem startsCased_ignorable_append (hs : AllIgnorable s) :
    startsCased (s ++ t) = startsCased t := by
  rw [startsCased, startsCased, List.dropWhile_append_of_pos hs]

theorem startsCased_append (hs : ¬AllIgnorable s) : startsCased (s ++ t) = startsCased s := by
  obtain ⟨c, rest, hdrop⟩ := List.exists_cons_of_ne_nil
    (mt dropWhile_eq_nil_iff_allIgnorable.mp hs)
  rw [startsCased, startsCased, List.dropWhile_append, hdrop]
  rfl

theorem EndsWord.startsCased_cons (h : EndsWord c) : startsCased (c :: t) = false := by
  rw [startsCased, List.dropWhile_cons_of_neg (by simp [h.notIgnorable])]
  exact h.notCased

/-- The search for a cased character does not go past the end of a word. -/
theorem EndsWord.startsCased_append_cons (h : EndsWord c) :
    startsCased (s ++ c :: t) = startsCased s := by
  by_cases hs : AllIgnorable s
  · rw [startsCased_ignorable_append hs, h.startsCased_cons, startsCased_of_allIgnorable hs]
  · exact startsCased_append hs

end Words

section Context

variable {before before' after after' s t : List Char} {c : Char}

/-- Whether a capital sigma between two texts, the first read backwards, ends a word. -/
def isFinal (before after : List Char) : Bool := startsCased before && !startsCased after

theorem lowerIn_capitalSigma :
    lowerIn before capitalSigma after = [if isFinal before after then '\u03c2' else '\u03c3'] := by
  rw [lowerIn, if_pos rfl, ← isFinal]
  split <;> rfl

theorem lowerIn_of_ne (hc : c ≠ capitalSigma) :
    lowerIn before c after = lowerIn before' c after' := by
  rw [lowerIn, lowerIn, if_neg hc, if_neg hc]

theorem length_lowerIn :
    (lowerIn before c after).length = (lowerIn before' c after').length := by
  by_cases hc : c = capitalSigma
  · rw [hc, lowerIn_capitalSigma, lowerIn_capitalSigma]
    rfl
  · rw [lowerIn_of_ne hc]

theorem lowerIn_eq_iff : lowerIn before c after = lowerIn before' c after' ↔
    (c = capitalSigma → isFinal before after = isFinal before' after') := by
  by_cases hc : c = capitalSigma
  · subst hc
    rw [lowerIn_capitalSigma, lowerIn_capitalSigma]
    cases isFinal before after <;> cases isFinal before' after' <;> simp
  · exact ⟨fun _ h => absurd h hc, fun _ => lowerIn_of_ne hc⟩

/-- The lower case of a text between the text `before` it, read backwards, and the text after it. -/
def lowerBetween (before : List Char) : (s after : List Char) → List Char
  | [], _ => []
  | c :: s, after => lowerIn before c (s ++ after) ++ lowerBetween (c :: before) s after

theorem lowerAfter_eq : lowerAfter before s = lowerBetween before s [] := by
  induction s generalizing before with
  | nil => rfl
  | cons c s ih => rw [lowerAfter, lowerBetween, ih, List.append_nil]

theorem lower_eq : lower s = lowerBetween [] s [] := lowerAfter_eq

theorem lowerBetween_append : lowerBetween before (s ++ t) after =
    lowerBetween before s (t ++ after) ++ lowerBetween (s.reverse ++ before) t after := by
  induction s generalizing before with
  | nil => rfl
  | cons c s ih =>
    simp only [List.cons_append, lowerBetween, ih, List.append_assoc, List.reverse_cons,
      List.nil_append]

theorem length_lowerBetween :
    (lowerBetween before s after).length = (lowerBetween before' s after').length := by
  induction s generalizing before before' with
  | nil => rfl
  | cons c s ih =>
    rw [lowerBetween, lowerBetween, List.length_append, List.length_append]
    exact congrArg₂ (· + ·) length_lowerIn ih

/-- Two contexts give a text the same lower case if and only if they agree at each of its capital
sigmas. -/
theorem lowerBetween_eq_iff : lowerBetween before s after = lowerBetween before' s after' ↔
    ∀ x y, s = x ++ capitalSigma :: y →
      isFinal (x.reverse ++ before) (y ++ after) =
        isFinal (x.reverse ++ before') (y ++ after') := by
  induction s generalizing before before' with
  | nil => simp [lowerBetween]
  | cons c s ih =>
    rw [lowerBetween, lowerBetween]
    constructor
    · intro h x y hs
      obtain ⟨hhead, hrest⟩ := List.append_inj h length_lowerIn
      cases x with
      | nil =>
        obtain ⟨rfl, rfl⟩ := List.cons.inj hs
        exact lowerIn_eq_iff.mp hhead rfl
      | cons d x =>
        obtain ⟨rfl, rfl⟩ := List.cons.inj hs
        simpa using ih.mp hrest x y rfl
    · intro h
      have hhead : lowerIn before c (s ++ after) = lowerIn before' c (s ++ after') := by
        refine lowerIn_eq_iff.mpr ?_
        rintro rfl
        exact h [] s rfl
      have hrest : lowerBetween (c :: before) s after = lowerBetween (c :: before') s after' := by
        refine ih.mpr fun x y hs => ?_
        simpa using h (c :: x) y (by rw [hs, List.cons_append])
      rw [hhead, hrest]

theorem EndsWord.lowerIn_eq (h : EndsWord c) : lowerIn before c after = [lowerChar c] := by
  have hsigma : c ≠ capitalSigma := by
    rintro rfl
    exact absurd h.notCased (by decide)
  have hdotted : c ≠ capitalDottedI := by
    rintro rfl
    exact absurd h.notCased (by decide)
  rw [lowerIn, if_neg hsigma, if_neg hdotted]

/-- The texts on the two sides of the end of a word are written in lower case on their own. -/
theorem EndsWord.lower_append_cons (h : EndsWord c) :
    lower (s ++ c :: t) = lower s ++ lowerChar c :: lower t := by
  have hfront : lowerBetween [] s (c :: t ++ []) = lower s := by
    rw [lower_eq, lowerBetween_eq_iff]
    intro x y _
    simp only [isFinal, List.append_nil, h.startsCased_append_cons]
  have hbehind : lowerBetween (c :: s.reverse) t [] = lower t := by
    rw [lower_eq, lowerBetween_eq_iff]
    intro x y _
    simp only [isFinal, List.append_nil, h.startsCased_append_cons]
  rw [lower_eq, lowerBetween_append, hfront, List.append_nil, lowerBetween, h.lowerIn_eq, hbehind]
  rfl

end Context

end LogLab.Text
