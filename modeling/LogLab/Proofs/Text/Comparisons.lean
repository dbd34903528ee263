import LogLab.Proofs.Pipeline.Groups
import LogLab.Proofs.Text.Casing
import LogLab.Proofs.Text.Wildcards

/-! # Comparisons of texts

What the comparisons of texts say of the lower case of a field. A `%` at an end of a pattern frees
that end, and a pattern without wildcards is matched by itself only, so that the comparisons agree
on literals that hold no wildcard.
-/

namespace LogLab

namespace Like

section Cuts

variable {p pattern ps text rest : List Char}

/-- Every character of the pattern stands for itself only. -/
def IsLiteral (p : List Char) : Prop := '%' ∉ p ∧ '_' ∉ p

instance : Decidable (IsLiteral p) := by unfold IsLiteral; infer_instance

theorem cuts_append : Cuts (p ++ ps) text ↔
    ∃ front rest, Cuts p front ∧ Cuts ps rest ∧ front ++ rest = text := by
  induction p generalizing text with
  | nil => simp [cuts_nil]
  | cons c p ih =>
    simp only [List.cons_append, cuts_cons, ih]
    constructor
    · rintro ⟨piece, _, hfits, ⟨front, rest, hfront, hrest, rfl⟩, rfl⟩
      exact ⟨piece ++ front, rest, ⟨piece, front, hfits, hfront, rfl⟩, hrest,
        List.append_assoc piece front rest⟩
    · rintro ⟨_, rest, ⟨piece, front, hfits, hfront, rfl⟩, hrest, rfl⟩
      exact ⟨piece, front ++ rest, hfits, ⟨front, rest, hfront, hrest, rfl⟩,
        (List.append_assoc piece front rest).symm⟩

/-- A `%` at the end leaves some front of the text to the pattern before it. -/
theorem cuts_append_wildcard : Cuts (p ++ ['%']) text ↔ ∃ front, front <+: text ∧ Cuts p front := by
  have hrest : ∀ rest, Cuts ['%'] rest := fun rest =>
    cuts_wildcard.mpr ⟨[], List.nil_suffix, cuts_nil.mpr rfl⟩
  rw [cuts_append]
  constructor
  · rintro ⟨front, rest, hfront, -, rfl⟩
    exact ⟨front, List.prefix_append front rest, hfront⟩
  · rintro ⟨front, ⟨rest, rfl⟩, hfront⟩
    exact ⟨front, rest, hfront, hrest rest, rfl⟩

theorem fits_self (c : Char) : Fits c [c] := by
  unfold Fits
  split
  · trivial
  · split
    · rfl
    · rfl

/-- Every pattern matches itself. -/
theorem cuts_self : Cuts p p := by
  induction p with
  | nil => exact cuts_nil.mpr rfl
  | cons c p ih => exact cuts_cons.mpr ⟨[c], p, fits_self c, ih, rfl⟩

theorem cuts_iff_of_isLiteral (hp : IsLiteral p) : Cuts p text ↔ text = p := by
  induction p generalizing text with
  | nil => exact cuts_nil
  | cons c p ih =>
    rw [IsLiteral, List.mem_cons, List.mem_cons, not_or, not_or] at hp
    obtain ⟨⟨hc, hp⟩, hc', hp'⟩ := hp
    rw [cuts_cons]
    constructor
    · rintro ⟨piece, rest, hfits, hrest, rfl⟩
      obtain rfl := (ih ⟨hp, hp'⟩).mp hrest
      rw [Fits, if_neg (Ne.symm hc), if_neg (Ne.symm hc')] at hfits
      rw [hfits, List.singleton_append]
    · rintro rfl
      exact cuts_cons.mp cuts_self

end Cuts

end Like

namespace Text

variable {before after s : List Char} {c w : Char}

theorem endsWord_percent : EndsWord '%' := ⟨by decide, by decide⟩

theorem endsWord_underscore : EndsWord '_' := ⟨by decide, by decide⟩

/-- No lower case above ASCII is a sign of ASCII. -/
theorem le_lower_of_mem_caseRuns : ∀ run ∈ caseRuns, 0x61 ≤ (run.first : Int) + run.shift := by
  decide +kernel

/-- Only the character itself has the sign `w` as its lower case. -/
theorem eq_of_lowerChar_eq (hw : w.isAlpha = false) (hlt : w.toNat < 0x61) (hpos : 0 < w.toNat)
    (h : lowerChar c = w) : c = w := by
  rcases lowerChar_cases c with ⟨-, hascii⟩ | ⟨-, hself | ⟨run, hrun, hfirst, -, hcode⟩⟩
  · exact eq_of_toLower_eq (hascii.symm.trans h) hw
  · exact hself.symm.trans h
  · have hshift := le_lower_of_mem_caseRuns run hrun
    rw [h] at hcode
    omega

theorem eq_of_mem_lowerIn (hw : w = '%' ∨ w = '_') (h : w ∈ lowerIn before c after) : c = w := by
  have hchar : lowerChar c = w := by
    unfold lowerIn at h
    rcases hw with rfl | rfl <;> grind
  rcases hw with rfl | rfl <;> exact eq_of_lowerChar_eq rfl (by decide) (by decide) hchar

theorem mem_of_mem_lowerBetween (hw : w = '%' ∨ w = '_') (h : w ∈ lowerBetween before s after) :
    w ∈ s := by
  induction s generalizing before with
  | nil => cases h
  | cons c s ih =>
    rcases List.mem_append.mp h with h | h
    · exact eq_of_mem_lowerIn hw h ▸ List.mem_cons_self
    · exact List.mem_cons_of_mem c (ih h)

theorem isLiteral_lower (h : Like.IsLiteral s) : Like.IsLiteral (lower s) := by
  rw [lower_eq]
  exact ⟨fun hm => h.1 (mem_of_mem_lowerBetween (.inl rfl) hm),
    fun hm => h.2 (mem_of_mem_lowerBetween (.inr rfl) hm)⟩

theorem lower_append_percent : lower (s ++ ['%']) = lower s ++ ['%'] :=
  endsWord_percent.lower_append_cons

theorem lower_percent_cons : lower ('%' :: s) = '%' :: lower s :=
  endsWord_percent.lower_append_cons (s := [])

end Text

open Like Text

variable {part whole : List Char} {text value : String} {r : Record} {field : String}

theorem isInfix_iff : isInfix part whole = true ↔ part <:+: whole := by
  induction whole with
  | nil => rw [isInfix, List.isEmpty_iff, List.infix_nil]
  | cons c whole ih =>
    rw [isInfix, Bool.or_eq_true, List.isPrefixOf_iff_prefix, ih, List.infix_cons_iff]

theorem containsMatch_iff :
    containsMatch text value = true ↔ lower value.toList <:+: lower text.toList :=
  isInfix_iff

theorem equalMatch_iff :
    equalMatch text value = true ↔ lower text.toList = lower value.toList :=
  beq_iff_eq

theorem likeMatch_prefix_iff : likeMatch text (value ++ "%") = true ↔
    ∃ front, front <+: lower text.toList ∧ Cuts (lower value.toList) front := by
  have hpattern : lower (value ++ "%").toList = lower value.toList ++ ['%'] := by
    rw [String.toList_append]
    exact lower_append_percent
  rw [likeMatch, isMatch_iff, hpattern, cuts_append_wildcard]

theorem likeMatch_suffix_iff : likeMatch text ("%" ++ value) = true ↔
    ∃ rest, rest <:+ lower text.toList ∧ Cuts (lower value.toList) rest := by
  have hpattern : lower ("%" ++ value).toList = '%' :: lower value.toList := by
    rw [String.toList_append]
    exact lower_percent_cons
  rw [likeMatch, isMatch_iff, hpattern, cuts_wildcard]

theorem likeMatch_infix_iff : likeMatch text ("%" ++ value ++ "%") = true ↔
    ∃ piece, piece <:+: lower text.toList ∧ Cuts (lower value.toList) piece := by
  have hfront : ("%" ++ value).toList = '%' :: value.toList := String.toList_append
  rw [likeMatch_prefix_iff, hfront, lower_percent_cons]
  simp only [cuts_wildcard]
  constructor
  · rintro ⟨front, hfront, piece, hpiece, hcuts⟩
    exact ⟨piece, hpiece.isInfix.trans hfront.isInfix, hcuts⟩
  · rintro ⟨piece, hpiece, hcuts⟩
    obtain ⟨rest, hrest, hpiece⟩ := List.infix_iff_suffix_prefix.mp hpiece
    exact ⟨rest, hpiece, piece, hrest, hcuts⟩

section IsLiteral

variable (hvalue : IsLiteral value.toList)

include hvalue

theorem likeMatch_eq_equalMatch : likeMatch text value = equalMatch text value := by
  rw [Bool.eq_iff_iff, equalMatch_iff, likeMatch, isMatch_iff,
    cuts_iff_of_isLiteral (isLiteral_lower hvalue)]

theorem likeMatch_prefix : likeMatch text (value ++ "%") = true ↔
    lower value.toList <+: lower text.toList := by
  simp only [likeMatch_prefix_iff, cuts_iff_of_isLiteral (isLiteral_lower hvalue),
    exists_eq_right]

theorem likeMatch_suffix : likeMatch text ("%" ++ value) = true ↔
    lower value.toList <:+ lower text.toList := by
  simp only [likeMatch_suffix_iff, cuts_iff_of_isLiteral (isLiteral_lower hvalue),
    exists_eq_right]

theorem likeMatch_eq_containsMatch :
    likeMatch text ("%" ++ value ++ "%") = containsMatch text value := by
  rw [Bool.eq_iff_iff, containsMatch_iff, likeMatch_infix_iff]
  simp only [cuts_iff_of_isLiteral (isLiteral_lower hvalue), exists_eq_right]

end IsLiteral

namespace Predicate

theorem holds_iff {p : Predicate} :
    p.holds r = true ↔ ∃ x, r.field? p.field = some x ∧ p.holdsOf x = true := by
  rw [holds]
  cases r.field? p.field with
  | none => simp
  | some x => simp

theorem holds_eq {p q : Predicate} (hfield : p.field = q.field)
    (h : ∀ x, p.holdsOf x = q.holdsOf x) : p.holds r = q.holds r := by
  rw [holds, holds, hfield]
  cases r.field? q.field with
  | none => rfl
  | some x => exact h x

/-- The comparisons of texts agree on a literal without wildcards: a pattern of its characters only
is equality, and with a `%` behind it, in front of it or on both sides it asks whether the lower
case of the field starts with the lower case of the literal, ends with it or holds it. -/
theorem comparisons_agree (r : Record) (field value : String)
    (hpercent : '%' ∉ value.toList) (hunderscore : '_' ∉ value.toList) :
    holds ⟨field, .like, value⟩ r = holds ⟨field, .eq, value⟩ r ∧
      (holds ⟨field, .like, value ++ "%"⟩ r = true ↔
        ∃ x, r.field? field = some x ∧ lower value.toList <+: lower x.text.toList) ∧
      (holds ⟨field, .like, "%" ++ value⟩ r = true ↔
        ∃ x, r.field? field = some x ∧ lower value.toList <:+ lower x.text.toList) ∧
      holds ⟨field, .like, "%" ++ value ++ "%"⟩ r = holds ⟨field, .contains, value⟩ r := by
  have hvalue : IsLiteral value.toList := ⟨hpercent, hunderscore⟩
  refine ⟨holds_eq rfl fun x => likeMatch_eq_equalMatch hvalue, ?_, ?_,
    holds_eq rfl fun x => likeMatch_eq_containsMatch hvalue⟩
  · rw [holds_iff]
    exact exists_congr fun x => and_congr_right fun _ => likeMatch_prefix hvalue
  · rw [holds_iff]
    exact exists_congr fun x => and_congr_right fun _ => likeMatch_suffix hvalue

/-- The last sigma of the literal is a final one also in front of a `%`, so that the pattern matches
a field in which the word ends there. -/
theorem comparisons_agree_of_final_sigma :
    let r := Record.empty.insert "name" (.string "ΟΔΟΣ 7")
    ('%' ∉ "οδΟΣ".toList ∧ '_' ∉ "οδΟΣ".toList) ∧
      holds ⟨"name", .like, "οδΟΣ"⟩ r = holds ⟨"name", .eq, "οδΟΣ"⟩ r ∧
      holds ⟨"name", .like, "οδΟΣ" ++ "%"⟩ r = true ∧
      holds ⟨"name", .like, "%" ++ "οδΟΣ"⟩ r = false ∧
      holds ⟨"name", .like, "%" ++ "οδΟΣ" ++ "%"⟩ r = holds ⟨"name", .contains, "οδΟΣ"⟩ r := by
  obtain ⟨heq, hprefix, hsuffix, hcontains⟩ := comparisons_agree
    (Record.empty.insert "name" (.string "ΟΔΟΣ 7")) "name" "οδΟΣ" (by decide) (by decide)
  refine ⟨by decide, heq, hprefix.mpr ⟨_, rfl, by decide⟩, ?_, hcontains⟩
  refine Bool.eq_false_iff.mpr fun h => ?_
  obtain ⟨x, hx, hends⟩ := hsuffix.mp h
  obtain rfl := Option.some.inj hx
  exact absurd hends (by decide)

end Predicate

end LogLab
