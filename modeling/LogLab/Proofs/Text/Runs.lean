import LogLab.Text.Blank

/-! # Runs of characters

A run of characters of one kind ends where a text stops the kind. Trimming drops the runs of blanks
at the two ends and keeps what stands between two characters that are not blank.
-/

namespace LogLab.Text

variable {p : Char → Bool} {c : Char} {s t g : List Char}

-- The characters of a text are tested, not all the characters there are.
instance decidableForallMemText (q : Char → Prop) [DecidablePred q] : Decidable (∀ c ∈ s, q c) :=
  List.decidableBAll q s
instance decidableForallMemOption (q : Char → Prop) [DecidablePred q] (o : Option Char) :
    Decidable (∀ c ∈ o, q c) :=
  Option.decidableForallMem o

/-- The text does not begin with a character of the kind. -/
def Stops (p : Char → Bool) (s : List Char) : Prop := ∀ c ∈ s.head?, p c = false

instance : Decidable (Stops p s) := by unfold Stops; infer_instance

@[simp] theorem stops_nil : Stops p [] := by simp [Stops]
@[simp] theorem stops_cons : Stops p (c :: s) ↔ p c = false := by simp [Stops]

theorem Stops.append (hs : Stops p s) (ht : Stops p t) : Stops p (s ++ t) := by
  cases s with
  | nil => exact ht
  | cons c s => simpa using hs

theorem Stops.append_of_ne_nil (hs : Stops p s) (hne : s ≠ []) : Stops p (s ++ t) := by
  obtain ⟨c, s, rfl⟩ := List.exists_cons_of_ne_nil hne
  simpa using hs

theorem stops_append_of_forall (hne : s ≠ []) (hs : ∀ c ∈ s, p c = false) : Stops p (s ++ t) :=
  Stops.append_of_ne_nil (fun c hc => hs c (List.mem_of_mem_head? hc)) hne

theorem stops_dropWhile : Stops p (s.dropWhile p) := fun c hc => by
  have h := List.head?_dropWhile_not p s
  rw [Option.mem_def.mp hc] at h
  exact h

theorem dropWhile_of_stops (h : Stops p s) : s.dropWhile p = s := by
  cases s with
  | nil => rfl
  | cons c s => simp [stops_cons.mp h]

theorem takeWhile_of_stops (h : Stops p s) : s.takeWhile p = [] := by
  cases s with
  | nil => rfl
  | cons c s => simp [stops_cons.mp h]

theorem takeWhile_append_of_stops (hs : ∀ c ∈ s, p c = true) (ht : Stops p t) :
    (s ++ t).takeWhile p = s := by
  rw [List.takeWhile_append_of_pos hs, takeWhile_of_stops ht, List.append_nil]

theorem dropWhile_append_of_stops (hs : ∀ c ∈ s, p c = true) (ht : Stops p t) :
    (s ++ t).dropWhile p = t := by
  rw [List.dropWhile_append_of_pos hs, dropWhile_of_stops ht]

/-- Two runs of one kind that are followed by other characters are equal if the texts are. -/
theorem run_unique {s' t' : List Char} (hs : ∀ c ∈ s, p c = true) (ht : Stops p t)
    (hs' : ∀ c ∈ s', p c = true) (ht' : Stops p t') (h : s ++ t = s' ++ t') :
    s = s' ∧ t = t' :=
  ⟨by rw [← takeWhile_append_of_stops hs ht, h, takeWhile_append_of_stops hs' ht'],
    by rw [← dropWhile_append_of_stops hs ht, h, dropWhile_append_of_stops hs' ht']⟩

/-- The code points of the blanks. -/
def blankCodes : List Nat :=
  [0x9, 0xA, 0xB, 0xC, 0xD, 0x20, 0x85, 0xA0, 0x1680, 0x2000, 0x2001, 0x2002, 0x2003, 0x2004,
    0x2005, 0x2006, 0x2007, 0x2008, 0x2009, 0x200A, 0x2028, 0x2029, 0x202F, 0x205F, 0x3000]

theorem mem_blankCodes_of_isBlank (h : isBlank c = true) : c.toNat ∈ blankCodes := by
  simp only [isBlank, Bool.or_eq_true, Bool.and_eq_true, decide_eq_true_eq, beq_iff_eq] at h
  simp only [blankCodes, List.mem_cons, List.not_mem_nil, or_false]
  omega

/-- A run of blanks, which may be empty. -/
def AllBlank (s : List Char) : Prop := ∀ c ∈ s, isBlank c = true

instance : Decidable (AllBlank s) := by unfold AllBlank; infer_instance

structure Trimmed (s : List Char) : Prop where
  head : Stops isBlank s
  last : ∀ c ∈ s.getLast?, isBlank c = false

@[simp] theorem allBlank_nil : AllBlank [] := by simp [AllBlank]

theorem AllBlank.append (hs : AllBlank s) (ht : AllBlank t) : AllBlank (s ++ t) := fun c hc =>
  (List.mem_append.mp hc).elim (hs c) (ht c)

theorem AllBlank.reverse (h : AllBlank s) : AllBlank s.reverse := fun c hc =>
  h c (List.mem_reverse.mp hc)

theorem Trimmed.between (hs : Trimmed s) (hne : s ≠ []) (ht : Trimmed t) (hne' : t ≠ []) :
    Trimmed (s ++ (g ++ t)) := by
  refine ⟨hs.head.append_of_ne_nil hne, fun c hc => ht.last c ?_⟩
  rwa [List.getLast?_append, List.getLast?_append, List.getLast?_eq_some_getLast hne',
    Option.some_or, Option.some_or, ← List.getLast?_eq_some_getLast hne'] at hc

theorem trimStart_append (hg : AllBlank g) : trimStart (g ++ s) = trimStart s :=
  List.dropWhile_append_of_pos hg

theorem trimStart_eq_nil (h : AllBlank s) : trimStart s = [] := by
  simpa [trimStart] using dropWhile_append_of_stops (t := []) h stops_nil

theorem trimEnd_append (hg : AllBlank g) : trimEnd (s ++ g) = trimEnd s := by
  simp only [trimEnd, List.reverse_append, List.dropWhile_append_of_pos hg.reverse]

/-- Trimming the end of a text stops at a character that is not blank. -/
theorem trimEnd_append_of_last (hs : ∀ c ∈ s.getLast?, isBlank c = false) :
    trimEnd (s ++ t) = s ++ trimEnd t := by
  have hr : s.reverse.dropWhile isBlank = s.reverse :=
    dropWhile_of_stops (by simpa [Stops] using hs)
  simp only [trimEnd, List.reverse_append, List.dropWhile_append, hr]
  split <;> simp_all

theorem trim_blank_append (hg : AllBlank g) : trim (g ++ s) = trim s := by
  rw [trim, trimStart_append hg, trim]

theorem trim_append_blank (hg : AllBlank g) : trim (s ++ g) = trim s := by
  simp only [trim, trimStart, List.dropWhile_append]
  split
  · next h => rw [List.isEmpty_iff.mp h, ← trimStart, trimStart_eq_nil hg]
  · exact trimEnd_append hg

theorem map_trim_modifyHead {pieces : List (List Char)} (hg : AllBlank g) :
    (pieces.modifyHead (g ++ ·)).map trim = pieces.map trim := by
  cases pieces with
  | nil => rfl
  | cons piece pieces => rw [List.modifyHead_cons, List.map_cons, trim_blank_append hg]; rfl

/-- A text that begins and ends with characters that are not blank is only trimmed after them. -/
theorem Trimmed.trim_append (h : Trimmed s) (hs : s ≠ []) : trim (s ++ t) = s ++ trimEnd t := by
  obtain ⟨c, s, rfl⟩ := List.exists_cons_of_ne_nil hs
  have hd : trimStart (c :: s ++ t) = c :: s ++ t := dropWhile_of_stops h.head
  rw [trim, hd, trimEnd_append_of_last h.last]

theorem Trimmed.trim_eq (h : Trimmed s) : trim s = s := by
  cases s with
  | nil => rfl
  | cons c s => simpa [trimEnd] using h.trim_append (t := []) (by simp)

theorem Trimmed.trim_between (h : Trimmed s) (hg : AllBlank g) (ht : AllBlank t) :
    trim (g ++ (s ++ t)) = s := by
  rw [trim_blank_append hg, trim_append_blank ht, h.trim_eq]

/-- In front of a text that is trimmed only the start is trimmed, and behind it only the end. -/
theorem Trimmed.trim_append_append (h : Trimmed t) (hne : t ≠ []) :
    trim (s ++ (t ++ g)) = trimStart s ++ (t ++ trimEnd g) := by
  have hlast : ∀ r c, c ∈ (r ++ t).getLast? → isBlank c = false := fun r c hc => h.last c (by
    rwa [List.getLast?_append, List.getLast?_eq_some_getLast hne, Option.some_or,
      ← List.getLast?_eq_some_getLast hne] at hc)
  have hstart : trimStart (s ++ (t ++ g)) = trimStart s ++ (t ++ g) := by
    rw [trimStart, trimStart, List.dropWhile_append]
    split
    · next hs => rw [List.isEmpty_iff.mp hs, dropWhile_of_stops (h.head.append_of_ne_nil hne)]; rfl
    · rfl
  rw [trim, hstart, ← List.append_assoc, trimEnd_append_of_last (hlast _), List.append_assoc]

theorem exists_eq_trimEnd_append (s : List Char) : ∃ g, AllBlank g ∧ s = trimEnd s ++ g := by
  refine ⟨(s.reverse.takeWhile isBlank).reverse, ?_, ?_⟩
  · intro c hc
    exact List.all_eq_true.mp List.all_takeWhile c (List.mem_reverse.mp hc)
  · rw [trimEnd, ← List.reverse_append, List.takeWhile_append_dropWhile, List.reverse_reverse]

/-- A text is its trimmed part between blanks. -/
theorem exists_eq_append_trim (s : List Char) :
    ∃ g g', AllBlank g ∧ AllBlank g' ∧ s = g ++ (trim s ++ g') := by
  obtain ⟨g', hg', he⟩ := exists_eq_trimEnd_append (trimStart s)
  refine ⟨s.takeWhile isBlank, g', ?_, hg', ?_⟩
  · intro c hc
    exact List.all_eq_true.mp List.all_takeWhile c hc
  · rw [trim, ← he, trimStart, List.takeWhile_append_dropWhile]

theorem mem_of_mem_trim (h : c ∈ trim s) : c ∈ s := by
  obtain ⟨g, g', -, -, he⟩ := exists_eq_append_trim s
  rw [he]
  exact List.mem_append_right g (List.mem_append_left g' h)

@[simp] theorem trim_trim : trim (trim s) = trim s := by
  obtain ⟨g, g', hg, hg', he⟩ := exists_eq_append_trim s
  calc trim (trim s) = trim (g ++ (trim s ++ g')) := by
        rw [trim_blank_append hg, trim_append_blank hg']
    _ = trim s := by rw [← he]

/-- Trimming the end takes nothing from the front. -/
theorem Stops.trimEnd (h : Stops p s) : Stops p (trimEnd s) := by
  obtain ⟨g, -, he⟩ := exists_eq_trimEnd_append s
  intro c hc
  refine h c ?_
  rw [he, List.head?_append, hc, Option.some_or]
  rfl

theorem cutAt_of_forall (h : ∀ c ∈ s, p c = false) : cutAt p s = [s] := by
  induction s with
  | nil => rfl
  | cons c s ih =>
    rw [List.forall_mem_cons] at h
    rw [cutAt, if_neg (by simp [h.1]), ih h.2]
    rfl

theorem cutAt_append_cons (h : ∀ c ∈ s, p c = false) (hc : p c = true) :
    cutAt p (s ++ c :: t) = s :: cutAt p t := by
  induction s with
  | nil => rw [List.nil_append, cutAt, if_pos hc]
  | cons d s ih =>
    rw [List.forall_mem_cons] at h
    rw [List.cons_append, cutAt, if_neg (by simp [h.1]), ih h.2]
    rfl

theorem head?_cutAt : (cutAt p s).head? = some (s.takeWhile fun c => !p c) := by
  induction s with
  | nil => rfl
  | cons c s ih =>
    cases hc : p c with
    | true => simp [cutAt, hc]
    | false =>
      obtain ⟨pieces, hcut⟩ := List.head?_eq_some_iff.mp ih
      simp [cutAt, hc, hcut, consFirst]

theorem fieldsAt_append (h : ∀ c ∈ s, p c = true) : fieldsAt p (s ++ t) = fieldsAt p t := by
  induction s with
  | nil => rfl
  | cons c s ih =>
    rw [List.forall_mem_cons] at h
    rw [List.cons_append, fieldsAt, cutAt, if_pos h.1]
    exact ih h.2

theorem fieldsAt_of_forall (h : ∀ c ∈ s, p c = false) (hne : s ≠ []) : fieldsAt p s = [s] := by
  rw [fieldsAt, cutAt_of_forall h, List.filter_cons_of_pos (by simpa using hne), List.filter_nil]

/-- A field that something of the kind stands behind is cut off. -/
theorem fieldsAt_append_append (h : ∀ c ∈ s, p c = false) (hne : s ≠ [])
    (hg : ∀ c ∈ g, p c = true) (hne' : g ≠ []) :
    fieldsAt p (s ++ (g ++ t)) = s :: fieldsAt p t := by
  obtain ⟨c, g, rfl⟩ := List.exists_cons_of_ne_nil hne'
  rw [List.forall_mem_cons] at hg
  rw [List.cons_append, fieldsAt, cutAt_append_cons h hg.1,
    List.filter_cons_of_pos (by simpa using hne), ← fieldsAt, fieldsAt_append hg.2]

theorem mem_fieldsAt_append_cons (h : ∀ c ∈ s, p c = false) (hc : p c = true) :
    g ∈ fieldsAt p (s ++ c :: t) ↔ g = s ∧ s ≠ [] ∨ g ∈ fieldsAt p t := by
  simp only [fieldsAt, cutAt_append_cons h hc, List.mem_filter, List.mem_cons]
  constructor
  · rintro ⟨rfl | hm, hg⟩
    · exact .inl ⟨rfl, by simpa using hg⟩
    · exact .inr ⟨hm, hg⟩
  · rintro (⟨rfl, hs⟩ | ⟨hm, hg⟩)
    · exact ⟨.inl rfl, by simpa using hs⟩
    · exact ⟨.inr hm, hg⟩

theorem mem_fieldsAt_of_forall (h : ∀ c ∈ s, p c = false) :
    g ∈ fieldsAt p s ↔ g = s ∧ s ≠ [] := by
  simp only [fieldsAt, cutAt_of_forall h, List.mem_filter, List.mem_singleton]
  refine and_congr_right fun he => ?_
  simp [he]

end LogLab.Text
