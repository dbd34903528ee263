import LogLab.Proofs.Text.Comparisons

/-! # Runs of underscores

An underscore stands for one character of the lower case of a text. That is one character of the
text itself unless the text holds a dotted capital I, whose lower case has two characters.
-/

namespace LogLab

namespace Text

variable {before after s : List Char} {c : Char}

theorem length_lowerIn_eq :
    (lowerIn before c after).length = 1 + [c].count capitalDottedI := by
  rw [List.count_singleton]
  by_cases hsigma : c = capitalSigma
  · rw [hsigma, lowerIn_capitalSigma]
    rfl
  · by_cases hdotted : c = capitalDottedI
    · rw [lowerIn, if_neg hsigma, if_pos hdotted, hdotted]
      rfl
    · rw [lowerIn, if_neg hsigma, if_neg hdotted, if_neg (by simpa using hdotted)]
      rfl

/-- Only a dotted capital I gets longer in lower case. -/
theorem length_lowerAfter :
    (lowerAfter before s).length = s.length + s.count capitalDottedI := by
  induction s generalizing before with
  | nil => rfl
  | cons c s ih =>
    have hcount : (c :: s).count capitalDottedI =
        [c].count capitalDottedI + s.count capitalDottedI := by
      rw [← List.count_append, List.singleton_append]
    rw [lowerAfter, List.length_append, length_lowerIn_eq, ih, hcount, List.length_cons]
    omega

theorem lowerAfter_replicate_underscore (n : Nat) :
    lowerAfter before (List.replicate n '_') = List.replicate n '_' := by
  induction n generalizing before with
  | zero => rfl
  | succ n ih =>
    rw [List.replicate_succ, lowerAfter, endsWord_underscore.lowerIn_eq, ih]
    rfl

end Text

namespace Like

variable {text : List Char}

theorem cuts_replicate_underscore {n : Nat} :
    Cuts (List.replicate n '_') text ↔ text.length = n := by
  induction n generalizing text with
  | zero => rw [List.replicate_zero, cuts_nil, List.length_eq_zero_iff]
  | succ n ih =>
    rw [List.replicate_succ]
    cases text with
    | nil => simp [cuts_empty]
    | cons t text =>
      have hfits : standsFor '_' t = true := rfl
      rw [cuts_read (by decide), ih, List.length_cons, Nat.add_right_cancel_iff]
      exact and_iff_right hfits

end Like

open Text

def underscores (n : Nat) : String := String.ofList (List.replicate n '_')

theorem likeMatch_underscores_iff {text : String} {n : Nat} :
    likeMatch text (underscores n) = true ↔
      n = text.length + text.toList.count capitalDottedI := by
  rw [likeMatch, Like.isMatch_iff, underscores, String.toList_ofList, lower,
    lowerAfter_replicate_underscore, Like.cuts_replicate_underscore, lower, length_lowerAfter,
    String.length_toList]
  exact eq_comm

/-- Underscores match the texts that have as many characters in lower case, where a dotted capital I
counts for two. So they count the characters of a text as written if and only if it holds none. -/
theorem underscores_count (text : String) :
    (∀ n, likeMatch text (underscores n) = true ↔
        n = text.length + text.toList.count capitalDottedI) ∧
      ((∀ n, likeMatch text (underscores n) = true ↔ n = text.length) ↔
        capitalDottedI ∉ text.toList) := by
  refine ⟨fun n => likeMatch_underscores_iff, ⟨fun h hmem => ?_, fun hmem n => ?_⟩⟩
  · have hlength := likeMatch_underscores_iff.mp ((h text.length).mpr rfl)
    have hpos := List.count_pos_iff.mpr hmem
    omega
  · rw [likeMatch_underscores_iff, List.count_eq_zero.mpr hmem, Nat.add_zero]

/-- One character that one underscore does not match, and two do. -/
theorem not_underscore_of_dotted :
    "İ".length = 1 ∧ likeMatch "İ" "_" = false ∧ likeMatch "İ" "__" = true ∧
      ¬∀ (text : String) (n : Nat), likeMatch text (underscores n) = true ↔ n = text.length := by
  have hcount : "İ".toList.count capitalDottedI = 1 := rfl
  have hone : ¬likeMatch "İ" (underscores 1) = true := by
    rw [likeMatch_underscores_iff, hcount]
    decide
  have htwo : likeMatch "İ" (underscores 2) = true := by
    rw [likeMatch_underscores_iff, hcount]
    rfl
  exact ⟨rfl, Bool.eq_false_iff.mpr hone, htwo, fun h => hone ((h "İ" 1).mpr rfl)⟩

end LogLab
