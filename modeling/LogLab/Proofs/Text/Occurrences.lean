import LogLab.Proofs.Text.Comparisons

/-! # Occurrences of a text

A text that stands inside a longer one has there the lower case that its capital sigmas get from
all that surrounds them. It is found unless one of them is exposed, so that the text outside
decides whether it ends a word.
-/

namespace LogLab

namespace Text

variable {before after s v x y : List Char} {c : Char}

/-- Whether a capital sigma ends a word is left to the text outside, where `before`, read backwards,
and `after` are the texts on its two sides: all of one side is ignored for casing, and the other
side lets the sigma end a word. -/
def Exposed (before after : List Char) : Prop :=
  AllIgnorable before ∧ startsCased after = false ∨ AllIgnorable after ∧ startsCased before = true

/-- No capital sigma of the text is exposed. -/
def Sheltered (v : List Char) : Prop :=
  ∀ x y, v = x ++ capitalSigma :: y → ¬Exposed x.reverse y

theorem sheltered_of_not_mem (h : capitalSigma ∉ v) : Sheltered v := by
  rintro x y rfl
  exact absurd (List.mem_append_right x List.mem_cons_self) h

theorem isFinal_append_append (h : ¬Exposed x y) :
    isFinal (x ++ before) (y ++ after) = isFinal x y := by
  by_cases hx : AllIgnorable x
  · have hcased : startsCased y = true := by
      by_contra hy
      exact h (.inl ⟨hx, Bool.eq_false_iff.mpr hy⟩)
    have hy : ¬AllIgnorable y := fun hy => by simp [startsCased_of_allIgnorable hy] at hcased
    simp [isFinal, startsCased_append hy, hcased]
  · by_cases hy : AllIgnorable y
    · have hcased : startsCased x = false := by
        by_contra hcased
        exact h (.inr ⟨hy, Bool.not_eq_false _ |>.mp hcased⟩)
      simp [isFinal, startsCased_append hx, hcased]
    · simp [isFinal, startsCased_append hx, startsCased_append hy]

theorem Sheltered.lowerBetween_eq (h : Sheltered v) : lowerBetween before v after = lower v := by
  rw [lower_eq, lowerBetween_eq_iff]
  intro x y hv
  rw [isFinal_append_append (h x y hv), List.append_nil, List.append_nil]

theorem Sheltered.lower_infix (h : Sheltered v) (hs : v <:+: s) : lower v <:+: lower s := by
  obtain ⟨front, rest, rfl⟩ := hs
  rw [lower_eq (s := front ++ v ++ rest), List.append_assoc, lowerBetween_append,
    lowerBetween_append, h.lowerBetween_eq, ← List.append_assoc]
  exact List.infix_append _ _ _

section Letters

theorem exists_letter (o : Option Char) : ∃ c, (c = 'a' ∨ c = 'b') ∧ c ∉ o := by
  by_cases h : 'a' ∈ o
  · refine ⟨'b', .inr rfl, fun hb => ?_⟩
    cases Option.mem_unique h hb
  · exact ⟨'a', .inl rfl, h⟩

variable (hc : c = 'a' ∨ c = 'b')

include hc

theorem lowerIn_letter : lowerIn before c after = [c] := by
  rcases hc with rfl | rfl <;> rfl

theorem startsCased_letter : startsCased [c] = true := by
  rcases hc with rfl | rfl <;> decide

end Letters

section Lists

variable {α : Type} {a : α} {l m : List α}

theorem eq_of_infix_cons (hlen : l.length = m.length) (hhead : a ∉ l.head?)
    (h : l <:+: a :: m) : l = m := by
  rcases List.infix_cons_iff.mp h with h | h
  · cases l with
    | nil => exact (List.eq_nil_of_length_eq_zero hlen.symm).symm
    | cons b l =>
      obtain ⟨rfl, -⟩ := List.cons_prefix_cons.mp h
      exact absurd rfl hhead
  · exact h.eq_of_length hlen

theorem eq_of_infix_concat (hlen : l.length = m.length) (hlast : a ∉ l.getLast?)
    (h : l <:+: m ++ [a]) : l = m := by
  rcases List.infix_concat_iff.mp h with h | h
  · rcases List.suffix_concat_iff.mp h with rfl | ⟨t, rfl, -⟩
    · exact (List.eq_nil_of_length_eq_zero hlen.symm).symm
    · exact absurd List.getLast?_concat hlast
  · exact h.eq_of_length hlen

end Lists

/-- A letter in front of a text makes an exposed sigma end a word that did not end one before. -/
theorem not_lower_infix_cons (hv : v = x ++ capitalSigma :: y) (hx : AllIgnorable x.reverse)
    (hy : startsCased y = false) (hc : c = 'a' ∨ c = 'b') (hhead : c ∉ (lower v).head?) :
    ¬lower v <:+: lower (c :: v) := by
  intro h
  rw [lower_eq (s := c :: v), lowerBetween, lowerIn_letter hc, List.singleton_append] at h
  have hlen : (lower v).length = (lowerBetween [c] v []).length := by
    rw [lower_eq]
    exact length_lowerBetween
  have heq := eq_of_infix_cons hlen hhead h
  rw [lower_eq, lowerBetween_eq_iff] at heq
  have hfinal := heq x y hv
  simp [isFinal, startsCased_ignorable_append hx, startsCased_of_allIgnorable hx,
    startsCased_letter hc, hy] at hfinal

/-- A letter behind a text makes an exposed sigma end no word that ended one before. -/
theorem not_lower_infix_concat (hv : v = x ++ capitalSigma :: y) (hy : AllIgnorable y)
    (hx : startsCased x.reverse = true) (hc : c = 'a' ∨ c = 'b') (hlast : c ∉ (lower v).getLast?) :
    ¬lower v <:+: lower (v ++ [c]) := by
  intro h
  rw [lower_eq (s := v ++ [c]), lowerBetween_append, lowerBetween, lowerIn_letter hc] at h
  have hlen : (lower v).length = (lowerBetween [] v [c]).length := by
    rw [lower_eq]
    exact length_lowerBetween
  have heq := eq_of_infix_concat hlen hlast h
  rw [lower_eq, lowerBetween_eq_iff] at heq
  have hfinal := heq x y hv
  simp [isFinal, startsCased_ignorable_append hy, startsCased_of_allIgnorable hy,
    startsCased_letter hc, hx] at hfinal

theorem sheltered_iff : Sheltered v ↔ ∀ s, v <:+: s → lower v <:+: lower s := by
  constructor
  · intro h s hs
    exact h.lower_infix hs
  · rintro h x y hv (⟨hx, hy⟩ | ⟨hy, hx⟩)
    · obtain ⟨c, hc, hhead⟩ := exists_letter (lower v).head?
      exact not_lower_infix_cons hv hx hy hc hhead (h _ (List.suffix_cons c v).isInfix)
    · obtain ⟨c, hc, hlast⟩ := exists_letter (lower v).getLast?
      exact not_lower_infix_concat hv hy hx hc hlast (h _ (List.prefix_append v [c]).isInfix)

end Text

end LogLab
