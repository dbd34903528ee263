import LogLab.Proofs.Query.Bars
import Mathlib.Data.List.Infix

/-! # What is enclosed

What stands in front of a place of a text tells whether the place is enclosed. It is in a quotation
if the text in front of it is not made of closed quotations and other characters, and it is in
parentheses if one that was opened outside quotations is not closed. Parentheses that close without
being opened enclose nothing.
-/

namespace LogLab.Query

open Scan Text

variable {c : Char} {s t front value : List Char}

section Places

/-- The characters of a text, each with what stands in front of it. -/
def places (s : List Char) : List (List Char × Char) := s.inits.zip s

@[simp] theorem places_nil : places [] = [] := rfl

theorem places_cons (c : Char) (s : List Char) :
    places (c :: s) = ([], c) :: (places s).map fun place => (c :: place.1, place.2) := by
  rw [places, List.inits_cons, List.zip_cons_cons, List.zip_map_left]
  rfl

theorem places_append (s t : List Char) :
    places (s ++ t) = places s ++ (places t).map fun place => (s ++ place.1, place.2) := by
  induction s with
  | nil => simp
  | cons c s ih =>
    rw [List.cons_append, places_cons, ih, places_cons]
    simp

@[simp] theorem places_concat : places (s ++ [c]) = places s ++ [(s, c)] := by
  rw [places_append]
  simp [places_cons]

theorem map_snd_places (s : List Char) : (places s).map Prod.snd = s :=
  List.map_snd_zip (by simp)

def charsWhere (p : List Char → Char → Prop) [∀ front, DecidablePred (p front)] (s : List Char) :
    List Char :=
  ((places s).filter fun place => p place.1 place.2).map Prod.snd

variable {p : List Char → Char → Prop} [∀ front, DecidablePred (p front)]

theorem charsWhere_concat : charsWhere p (s ++ [c]) =
    charsWhere p s ++ if p s c then [c] else [] := by
  rw [charsWhere, places_concat, List.filter_append, List.map_append, charsWhere]
  by_cases h : p s c <;> simp [h]

theorem charsWhere_append (h : ∀ front c, p (s ++ front) c ↔ p front c) :
    charsWhere p (s ++ t) = charsWhere p s ++ charsWhere p t := by
  simp only [charsWhere, places_append, List.filter_append, List.map_append, List.filter_map,
    List.map_map, Function.comp_def, h]

theorem charsWhere_eq_self (h : ∀ place ∈ places s, p place.1 place.2) : charsWhere p s = s := by
  rw [charsWhere, List.filter_eq_self.mpr, map_snd_places]
  exact fun place hplace => decide_eq_true (h place hplace)

end Places

section Quotations

/-- A text of characters that are no quotes and of quotations, each closed by its own quote. -/
inductive QuotesClosed : List Char → Prop where
  | nil : QuotesClosed []
  | char {c : Char} {s : List Char} : isQuote c = false → QuotesClosed s → QuotesClosed (c :: s)
  | quotation {quote : Char} {value s : List Char} : isQuote quote = true → quote ∉ value →
      QuotesClosed s → QuotesClosed (quote :: (value ++ quote :: s))

theorem Quotation.after_of_not_mem {quote : Char} (h : quote ∉ s) :
    Quotation.after (some quote) s = some quote := by
  induction s with
  | nil => rfl
  | cons c s ih =>
    rw [List.mem_cons, not_or] at h
    rw [after_cons, step, if_neg (Ne.symm h.1), ih h.2]

theorem unquoted_cons (h : isQuote c = false) : Unquoted (c :: s) ↔ Unquoted s := by
  rw [Unquoted, Quotation.after_cons, Quotation.step_of_isOutside, Unquoted]
  simp [Quotation.isOutside, h]

theorem unquoted_quotation {quote : Char} (hq : isQuote quote = true) (hv : quote ∉ value) :
    Unquoted (quote :: (value ++ quote :: s)) ↔ Unquoted s := by
  have hopen : Quotation.step none quote = some quote := if_pos hq
  have hclose : Quotation.step (some quote) quote = none := if_pos rfl
  rw [Unquoted, Quotation.after_cons, hopen, Quotation.after_append,
    Quotation.after_of_not_mem hv, Quotation.after_cons, hclose, Unquoted]

theorem not_unquoted_of_open {quote : Char} (hq : isQuote quote = true) (hv : quote ∉ value) :
    ¬ Unquoted (quote :: value) := by
  have hopen : Quotation.step none quote = some quote := if_pos hq
  rw [Unquoted, Quotation.after_cons, hopen, Quotation.after_of_not_mem hv]
  exact Option.some_ne_none quote

theorem quotesClosed_iff : QuotesClosed s ↔ Unquoted s := by
  constructor
  · intro h
    induction h with
    | nil => rfl
    | char hc _ ih => exact (unquoted_cons hc).mpr ih
    | quotation hq hv _ ih => exact (unquoted_quotation hq hv).mpr ih
  · -- On the length of the text, since a quotation takes several characters of it at once.
    induction hlen : s.length using Nat.strongRecOn generalizing s with
    | ind k ih =>
      intro h
      cases s with
      | nil => exact .nil
      | cons c s =>
        cases hc : isQuote c with
        | false => exact .char hc (ih s.length (by simp [← hlen]) rfl ((unquoted_cons hc).mp h))
        | true =>
          by_cases hmem : c ∈ s
          · obtain ⟨value, t, rfl, hv⟩ := List.eq_append_cons_of_mem hmem
            have hlt : t.length < k := by
              rw [← hlen, List.length_cons, List.length_append, List.length_cons]
              omega
            exact .quotation hc hv (ih t.length hlt rfl ((unquoted_quotation hc hv).mp h))
          · exact absurd h (not_unquoted_of_open hc hmem)

instance : Decidable (QuotesClosed s) := decidable_of_iff _ quotesClosed_iff.symm

theorem QuotesClosed.append_iff (h : QuotesClosed s) :
    QuotesClosed (s ++ t) ↔ QuotesClosed t := by
  rw [quotesClosed_iff, quotesClosed_iff, (quotesClosed_iff.mp h).append_iff]

def IsOutside (front : List Char) (c : Char) : Prop :=
  QuotesClosed front ∧ isQuote c = false

instance : DecidablePred (IsOutside front) := fun c => by unfold IsOutside; infer_instance

theorem isOutside_iff :
    IsOutside front c ↔ (Quotation.after none front).isOutside c = true := by
  rw [IsOutside, quotesClosed_iff, Unquoted]
  cases Quotation.after none front <;> simp [Quotation.isOutside]

end Quotations

section Parentheses

/-- Every parenthesis that is opened is closed behind it: no end of the text opens more than it
closes. -/
def ParenthesesClosed (s : List Char) : Prop := ∀ u, u <:+ s → u.count '(' ≤ u.count ')'

/-- The number of open parentheses is the largest surplus of opening ones in an end of the text. -/
theorem depth_isGreatest (s : List Char) :
    (∀ u, u <:+ s → u.count '(' ≤ u.count ')' + s.foldl stepDepth 0) ∧
      ∃ u, u <:+ s ∧ u.count '(' = u.count ')' + s.foldl stepDepth 0 := by
  induction s using List.reverseRecOn with
  | nil => simp
  | append_singleton s c ih =>
    obtain ⟨hle, t, ht, heq⟩ := ih
    rw [List.foldl_concat]
    generalize s.foldl stepDepth 0 = depth at hle heq ⊢
    constructor
    · intro u hu
      rcases List.suffix_concat_iff.mp hu with rfl | ⟨v, rfl, hv⟩
      · simp
      · have := hle v hv
        simp only [stepDepth, List.count_append, List.count_singleton]
        grind
    · by_cases hzero : stepDepth depth c = 0
      · exact ⟨[], List.nil_suffix, by simp [hzero]⟩
      · refine ⟨t ++ [c], List.suffix_concat_iff.mpr (.inr ⟨t, rfl, ht⟩), ?_⟩
        simp only [stepDepth, List.count_append, List.count_singleton] at hzero ⊢
        grind

theorem parenthesesClosed_iff : ParenthesesClosed s ↔ s.foldl stepDepth 0 = 0 := by
  obtain ⟨hle, t, ht, heq⟩ := depth_isGreatest s
  constructor
  · intro h
    have := h t ht
    omega
  · intro h u hu
    rw [h] at hle
    exact hle u hu

end Parentheses

/-- Nothing is open behind the text, neither a quotation nor a parenthesis outside quotations. -/
structure Unenclosed (s : List Char) : Prop where
  quotes : QuotesClosed s
  parentheses : ParenthesesClosed (charsWhere IsOutside s)

/-- Only the characters outside quotations change the depth. -/
theorem depth_after_start (s : List Char) :
    (Nesting.after {} s).depth = (charsWhere IsOutside s).foldl stepDepth 0 := by
  induction s using List.reverseRecOn with
  | nil => rfl
  | append_singleton s c ih =>
    rw [Nesting.after_append, Nesting.after_cons, Nesting.after_nil, Nesting.step,
      quotation_after_start, charsWhere_concat]
    by_cases h : IsOutside s c
    · rw [if_pos (isOutside_iff.mp h), if_pos h, List.foldl_concat, ih]
    · rw [if_neg (mt isOutside_iff.mpr h), if_neg h, List.append_nil, ih]

theorem unenclosed_iff : Unenclosed s ↔ Closed s := by
  rw [closed_iff, depth_after_start, ← parenthesesClosed_iff, ← quotesClosed_iff]
  constructor
  · rintro ⟨hquotes, hparentheses⟩
    exact ⟨hquotes, hparentheses⟩
  · rintro ⟨hquotes, hparentheses⟩
    exact ⟨hquotes, hparentheses⟩

end LogLab.Query
