import LogLab.Query.Split

/-! # Nesting

What is open at some place of a text decides where a text is cut at a separator. The pieces of two
texts that are put together are the pieces of both, where the last piece of the first goes on as
the first piece of the second.
-/

namespace LogLab.Query

variable {separator : Char} {s t : List Char}

namespace Quotation

variable {q : Quotation}

@[simp] theorem after_nil : q.after [] = q := rfl
@[simp] theorem after_cons (c : Char) : q.after (c :: s) = (q.step c).after s := rfl
@[simp] theorem after_append : q.after (s ++ t) = (q.after s).after t := by
  simp only [after, List.foldl_append]

theorem step_of_isOutside {c : Char} (h : q.isOutside c = true) : q.step c = q := by
  cases q <;> simp_all [isOutside, step]

theorem after_none_of_forall (h : ∀ c ∈ s, Scan.isQuote c = false) :
    Quotation.after none s = none := by
  induction s with
  | nil => rfl
  | cons c s ih =>
    rw [List.forall_mem_cons] at h
    rw [after_cons, step_of_isOutside (by simp [isOutside, h.1]), ih h.2]

end Quotation

/-- What is open at some place of a text: a quotation, and parentheses outside quotations. -/
structure Nesting where
  quotation : Quotation := none
  depth : Nat := 0
  deriving DecidableEq, Repr

namespace Nesting

variable {n : Nesting} {c : Char}

/-- What is open after a character. The depth never goes below zero. -/
def step (n : Nesting) (c : Char) : Nesting :=
  if n.quotation.isOutside c then ⟨n.quotation, stepDepth n.depth c⟩
  else ⟨n.quotation.step c, n.depth⟩

def after (n : Nesting) (s : List Char) : Nesting :=
  s.foldl step n

def CutsAt (separator : Char) (n : Nesting) (c : Char) : Prop :=
  n.quotation.isOutside c = true ∧ c ≠ '(' ∧ c ≠ ')' ∧ c = separator ∧ n.depth = 0

instance : Decidable (CutsAt separator n c) := by
  unfold CutsAt; infer_instance

/-- The pieces of a text between the separators, from a place where `n` is open. -/
def split (separator : Char) (n : Nesting) (s : List Char) : List (List Char) :=
  splitFrom separator n.quotation n.depth s

@[simp] theorem after_nil : n.after [] = n := rfl
@[simp] theorem after_cons : n.after (c :: s) = (n.step c).after s := rfl
@[simp] theorem after_append : n.after (s ++ t) = (n.after s).after t := by
  simp only [after, List.foldl_append]

theorem step_of_cutsAt (h : CutsAt separator n c) : n.step c = n := by
  obtain ⟨ho, hl, hr, -, -⟩ := h
  simp [step, stepDepth, ho, hl, hr]

@[simp] theorem quotation_step : (n.step c).quotation = n.quotation.step c := by
  unfold step
  split
  · next h => rw [Quotation.step_of_isOutside h]
  · rfl

@[simp] theorem quotation_after : (n.after s).quotation = n.quotation.after s := by
  induction s generalizing n with
  | nil => rfl
  | cons c s ih => rw [after_cons, ih, quotation_step, Quotation.after_cons]

theorem split_nil : split separator n [] = [[]] := rfl

theorem split_cons : split separator n (c :: s) =
    if CutsAt separator n c then [] :: split separator (n.step c) s
    else Text.consFirst c (split separator (n.step c) s) := by
  by_cases ho : n.quotation.isOutside c = true
  · by_cases hc : c ≠ '(' ∧ c ≠ ')' ∧ c = separator ∧ n.depth = 0
    · have hcut : CutsAt separator n c := ⟨ho, hc⟩
      rw [if_pos hcut, step_of_cutsAt hcut, split, splitFrom, if_pos ho, if_pos hc, split]
    · rw [if_neg fun h => hc h.2, split, splitFrom, if_pos ho, if_neg hc, step, if_pos ho, split]
  · rw [if_neg fun h => ho h.1, split, splitFrom, if_neg ho, step, if_neg ho, split]

theorem split_ne_nil (separator : Char) (n : Nesting) (s : List Char) :
    split separator n s ≠ [] := by
  cases s with
  | nil => simp [split_nil]
  | cons c s =>
    rw [split_cons]
    split
    · simp
    · unfold Text.consFirst; split <;> simp

end Nesting

/-- Nothing is open after the text. -/
def Closed (s : List Char) : Prop := Nesting.after {} s = {}

instance : Decidable (Closed s) := by
  unfold Closed; infer_instance

/-- Two lists of pieces, where the last piece of the first list goes on as the first piece of the
second. -/
def joinPieces : (xs ys : List (List Char)) → List (List Char)
  | [], ys => ys
  | [x], ys => ys.modifyHead (x ++ ·)
  | x :: x' :: xs, ys => x :: joinPieces (x' :: xs) ys

variable {xs ys : List (List Char)}

theorem joinPieces_cons (x : List Char) (hx : xs ≠ []) :
    joinPieces (x :: xs) ys = x :: joinPieces xs ys := by
  cases xs with
  | nil => exact absurd rfl hx
  | cons x' xs => rfl

theorem joinPieces_consFirst (c : Char) (hx : xs ≠ []) (hy : ys ≠ []) :
    joinPieces (Text.consFirst c xs) ys = Text.consFirst c (joinPieces xs ys) := by
  obtain ⟨y, ys, rfl⟩ := List.exists_cons_of_ne_nil hy
  match xs with
  | [] => exact absurd rfl hx
  | [x] => rfl
  | x :: x' :: xs => rfl

/-- A separator at the cut ends the last piece of the first list. -/
theorem joinPieces_nil_cons (hx : xs ≠ []) : joinPieces xs ([] :: ys) = xs ++ ys := by
  induction xs with
  | nil => exact absurd rfl hx
  | cons x xs ih =>
    cases xs with
    | nil => simp [joinPieces]
    | cons x' xs =>
      rw [joinPieces_cons x (by simp), ih (by simp)]
      rfl

namespace Nesting

variable {n : Nesting}

theorem split_append (separator : Char) (n : Nesting) (s t : List Char) :
    split separator n (s ++ t) =
    joinPieces (split separator n s) (split separator (n.after s) t) := by
  induction s generalizing n with
  | nil =>
    obtain ⟨y, ys, hy⟩ := List.exists_cons_of_ne_nil (split_ne_nil separator n t)
    simp [split_nil, joinPieces, hy]
  | cons c s ih =>
    rw [List.cons_append, split_cons, split_cons, ih, after_cons]
    split
    · rw [joinPieces_cons _ (split_ne_nil _ _ _)]
    · rw [joinPieces_consFirst c (split_ne_nil _ _ _) (split_ne_nil _ _ _)]

end Nesting

/-- A separator behind a text in which nothing stays open cuts the text there. -/
theorem splitTopLevel_append_cons (hs : Closed s) (hq : Scan.isQuote separator = false)
    (hp : separator ≠ '(' ∧ separator ≠ ')') :
    splitTopLevel separator (s ++ separator :: t) =
      splitTopLevel separator s ++ splitTopLevel separator t := by
  have hcut : Nesting.CutsAt separator {} separator :=
    ⟨by simp [Quotation.isOutside, hq], hp.1, hp.2, rfl, rfl⟩
  have h := Nesting.split_append separator {} s (separator :: t)
  rw [hs, Nesting.split_cons, if_pos hcut, Nesting.step_of_cutsAt hcut,
    joinPieces_nil_cons (Nesting.split_ne_nil _ _ _)] at h
  exact h

namespace Nesting

variable {n : Nesting} {c : Char}

/-- The character neither opens nor closes anything. -/
def Neutral (c : Char) : Prop := Scan.isQuote c = false ∧ c ≠ '(' ∧ c ≠ ')'

instance : Decidable (Neutral c) := by
  unfold Neutral; infer_instance

theorem step_of_neutral (hq : n.quotation = none) (hc : Neutral c) : n.step c = n := by
  have ho : n.quotation.isOutside c = true := by simp [hq, Quotation.isOutside, hc.1]
  simp [step, ho, stepDepth, hc.2.1, hc.2.2]

theorem after_of_neutral (hq : n.quotation = none) (hs : ∀ c ∈ s, Neutral c) : n.after s = n := by
  induction s with
  | nil => rfl
  | cons c s ih =>
    rw [List.forall_mem_cons] at hs
    rw [after_cons, step_of_neutral hq hs.1, ih hs.2]

/-- Inside a quotation only its quote changes what is open. -/
theorem step_of_ne_quote {quote : Char} {depth : Nat} (hc : c ≠ quote) :
    (⟨some quote, depth⟩ : Nesting).step c = ⟨some quote, depth⟩ := by
  simp [step, Quotation.isOutside, Quotation.step, hc]

theorem after_quotation {quote : Char} (hs : quote ∉ s) :
    (⟨some quote, n.depth⟩ : Nesting).after (s ++ [quote]) = ⟨none, n.depth⟩ := by
  induction s with
  | nil => simp [step, Quotation.isOutside, Quotation.step]
  | cons c s ih =>
    rw [List.mem_cons, not_or] at hs
    rw [List.cons_append, after_cons, step_of_ne_quote (Ne.symm hs.1), ih hs.2]

theorem split_of_not_mem (hs : separator ∉ s) : split separator n s = [s] := by
  induction s generalizing n with
  | nil => rfl
  | cons c s ih =>
    rw [List.mem_cons, not_or] at hs
    rw [split_cons, if_neg fun h => hs.1 h.2.2.2.1.symm, ih hs.2]
    rfl

theorem split_quotation {quote : Char} (hs : quote ∉ s) (hne : quote ≠ separator) :
    split separator ⟨some quote, n.depth⟩ (s ++ [quote]) = [s ++ [quote]] := by
  have hcut : ∀ c, ¬ CutsAt separator ⟨some quote, n.depth⟩ c := fun c h => by cases h.1
  induction s with
  | nil => exact split_of_not_mem (by simpa using hne.symm)
  | cons c s ih =>
    rw [List.mem_cons, not_or] at hs
    rw [List.cons_append, split_cons, if_neg (hcut c), step_of_ne_quote (Ne.symm hs.1), ih hs.2]
    rfl

end Nesting

/-- Nothing is open after the text, and no separator cuts it. -/
structure Unbroken (separator : Char) (s : List Char) : Prop where
  closed : Closed s
  split : splitTopLevel separator s = [s]

namespace Unbroken

/-- An unbroken text is the front of the first piece. -/
theorem splitTopLevel_append (hs : Unbroken separator s) :
    splitTopLevel separator (s ++ t) = (splitTopLevel separator t).modifyHead (s ++ ·) := by
  have h := Nesting.split_append separator {} s t
  rw [hs.closed, show Nesting.split separator {} s = [s] from hs.split] at h
  exact h

theorem append (hs : Unbroken separator s) (ht : Unbroken separator t) :
    Unbroken separator (s ++ t) where
  closed := by rw [Closed, Nesting.after_append, hs.closed, ht.closed]
  split := by
    rw [hs.splitTopLevel_append, ht.split]
    rfl

theorem of_neutral (hs : ∀ c ∈ s, Nesting.Neutral c) (hne : separator ∉ s) :
    Unbroken separator s :=
  ⟨Nesting.after_of_neutral rfl hs, Nesting.split_of_not_mem (n := {}) hne⟩

/-- A separator behind an unbroken text cuts it off. -/
theorem splitTopLevel_cons (hs : Unbroken separator s) (hq : Scan.isQuote separator = false)
    (hp : separator ≠ '(' ∧ separator ≠ ')') :
    splitTopLevel separator (s ++ separator :: t) = s :: splitTopLevel separator t := by
  rw [splitTopLevel_append_cons hs.closed hq hp, hs.split]
  rfl

end Unbroken

theorem unbroken_parenthesized (hs : ∀ c ∈ s, Nesting.Neutral c)
    (hne : separator ∉ '(' :: (s ++ [')'])) : Unbroken separator ('(' :: (s ++ [')'])) where
  closed := by
    rw [Closed, Nesting.after_cons, Nesting.after_append, Nesting.after_of_neutral rfl hs]
    rfl
  split := Nesting.split_of_not_mem (n := {}) hne

def quotation (quote : Char) (value : List Char) : List Char :=
  quote :: (value ++ [quote])

/-- No separator cuts a quotation. -/
theorem unbroken_quotation {quote : Char} (hq : Scan.isQuote quote = true) (hs : quote ∉ s)
    (hne : quote ≠ separator) : Unbroken separator (quotation quote s) := by
  have hstep : Nesting.step {} quote = ⟨some quote, 0⟩ := by
    simp [Nesting.step, Quotation.isOutside, Quotation.step, hq]
  have hcut : ¬ Nesting.CutsAt separator {} quote := fun h => hne h.2.2.2.1
  constructor
  · rw [Closed, quotation, Nesting.after_cons, hstep, Nesting.after_quotation (n := {}) hs]
  · have h : Nesting.split separator {} (quote :: (s ++ [quote])) = [quote :: (s ++ [quote])] := by
      rw [Nesting.split_cons, if_neg hcut, hstep, Nesting.split_quotation (n := {}) hs hne]
      rfl
    exact h

end LogLab.Query
