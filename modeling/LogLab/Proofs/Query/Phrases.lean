import LogLab.Proofs.Query.Nesting
import LogLab.Proofs.Query.Tokens

/-! # Phrases in texts

Where a keyword phrase begins, it is found whatever follows it. A text that holds no first word of
a phrase outside quotations is passed over, and a text that ends a word is cut on its own.
-/

namespace LogLab.Query

open Scan Text

variable {α : Type} {s t g n : List Char} {words : List String}

inductive Phrase : List String → List Char → Prop where
  | single {word : String} {n : List Char} : Spelled word n → Phrase [word] n
  | cons {word next : String} {words : List String} {n g m : List Char} : Spelled word n →
      g ≠ [] → (∀ c ∈ g, isGap c = true) → Phrase (next :: words) m →
      Phrase (word :: next :: words) (n ++ (g ++ m))

/-- Phrases of words, no two of which begin with the same word. -/
structure WellFormed (phrases : List (α × List String)) : Prop where
  ne_nil : ∀ phrase ∈ phrases, phrase.2 ≠ []
  isWord : ∀ phrase ∈ phrases, ∀ word ∈ phrase.2, IsWord word
  head_inj : ∀ phrase ∈ phrases, ∀ other ∈ phrases, ∀ word ∈ phrase.2.head?,
    ∀ word' ∈ other.2.head?, asciiLower word.toList = asciiLower word'.toList → phrase = other

/-- The text does not begin with the first word of one of the phrases. -/
def FreeOf (phrases : List (α × List String)) (n : List Char) : Prop :=
  ∀ phrase ∈ phrases, ∀ word ∈ phrase.2.head?, ¬ Spelled word n

theorem FreeOf.of_spelled {phrases : List (α × List String)} {word : String}
    (h : FreeOf phrases word.toList) (hn : Spelled word n) : FreeOf phrases n :=
  fun phrase hp other ho hs => h phrase hp other ho (hn.symm.trans hs)

instance {phrases : List (α × List String)} : Decidable (FreeOf phrases n) := by
  unfold FreeOf; infer_instance

theorem Phrase.exists_head (h : Phrase words n) (hw : ∀ word ∈ words, IsWord word) :
    ∃ word ∈ words.head?, ∃ m r, Spelled word m ∧ n = m ++ r ∧ Stops isNameChar r := by
  cases h with
  | single hn => exact ⟨_, rfl, n, [], hn, by simp, stops_nil⟩
  | @cons _ _ _ m g _ hn hne hg _ =>
    exact ⟨_, rfl, m, _, hn, rfl,
      stops_append_of_forall hne fun c hc => isNameChar_of_isGap (hg c hc)⟩

theorem Phrase.exists_cons (h : Phrase words n) (hw : ∀ word ∈ words, IsWord word) :
    ∃ c m, n = c :: m ∧ isNameChar c = true := by
  obtain ⟨word, hm, m, r, hs, rfl, -⟩ := h.exists_head hw
  have hn := hs.isName (hw word (List.mem_of_mem_head? hm))
  obtain ⟨c, m, rfl⟩ := List.exists_cons_of_ne_nil hn.1
  exact ⟨c, m ++ r, rfl, hn.2 c (by simp)⟩

theorem Phrase.chars_ne_nil (h : Phrase words n) (hw : ∀ word ∈ words, IsWord word) : n ≠ [] := by
  obtain ⟨c, m, rfl, -⟩ := h.exists_cons hw
  simp

theorem Phrase.isNameChar_or_isGap (h : Phrase words n) (hw : ∀ word ∈ words, IsWord word) :
    ∀ c ∈ n, isNameChar c = true ∨ isGap c = true := by
  induction h with
  | single hn => exact fun c hc => .inl ((hn.isName (hw _ (by simp))).2 c hc)
  | cons hn _ hg _ ih =>
    intro c hc
    simp only [List.mem_append] at hc
    rcases hc with hc | hc | hc
    · exact .inl ((hn.isName (hw _ (by simp))).2 c hc)
    · exact .inr (hg c hc)
    · exact ih (fun w hm => hw w (List.mem_cons_of_mem _ hm)) c hc

theorem Phrase.isQuote (h : Phrase words n) (hw : ∀ word ∈ words, IsWord word) :
    ∀ c ∈ n, isQuote c = false := fun c hc =>
  (h.isNameChar_or_isGap hw c hc).elim isQuote_of_isNameChar isQuote_of_isGap

theorem Phrase.last (h : Phrase words n) (hw : ∀ word ∈ words, IsWord word) :
    ∀ c ∈ n.getLast?, isNameChar c = true := by
  induction h with
  | single hn =>
    exact fun c hc => (hn.isName (hw _ (by simp))).2 c (List.mem_of_getLast? hc)
  | cons _ _ _ hm ih =>
    have hw' := fun w hm => hw w (List.mem_cons_of_mem _ hm)
    obtain ⟨c, m, rfl, -⟩ := hm.exists_cons hw'
    simpa [List.getLast?_append] using ih hw'

theorem phraseRest?_cons {word next : String} : phraseRest? (word :: next :: words) s =
    (keyword word s).bind fun r => (gaps1 r.2).bind fun r' =>
      phraseRest? (next :: words) r'.2 := by
  rw [phraseRest?]
  · cases keyword word s with
    | none => rfl
    | some r => cases h : gaps1 r.2 <;> simp [h]
  · simp

theorem phraseRest?_append (h : Phrase words n) (hw : ∀ word ∈ words, IsWord word)
    (ht : Stops isNameChar t) : phraseRest? words (n ++ t) = some t := by
  induction h with
  | single hn => rw [phraseRest?, keyword_append hn ht]; rfl
  | @cons word next words n g m hn hne hg hm ih =>
    have hw' := fun w hm => hw w (List.mem_cons_of_mem _ hm)
    have hgap : Stops isNameChar (g ++ (m ++ t)) :=
      stops_append_of_forall hne fun c hc => isNameChar_of_isGap (hg c hc)
    have hstop : Stops isGap (m ++ t) := by
      obtain ⟨c, m, rfl, hc⟩ := hm.exists_cons hw'
      simpa using isGap_of_isNameChar hc
    rw [List.append_assoc, List.append_assoc, phraseRest?_cons, keyword_append hn hgap,
      Option.bind_some, gaps1_append hne hg hstop, Option.bind_some, ih hw']

theorem exists_of_phraseRest? (hne : words ≠ []) (h : phraseRest? words s = some t) :
    ∃ n, Phrase words n ∧ Stops isNameChar t ∧ s = n ++ t := by
  induction words generalizing s with
  | nil => exact absurd rfl hne
  | cons word words ih =>
    cases words with
    | nil =>
      obtain ⟨⟨_, r⟩, hk, rfl⟩ := Option.map_eq_some_iff.mp h
      obtain ⟨n, hn, ht, rfl⟩ := keyword_eq_some_iff.mp hk
      exact ⟨n, .single hn, ht, rfl⟩
    | cons next words =>
      rw [phraseRest?_cons] at h
      obtain ⟨⟨_, r⟩, hk, hr⟩ := Option.bind_eq_some_iff.mp h
      obtain ⟨⟨_, r'⟩, hgaps, hr'⟩ := Option.bind_eq_some_iff.mp hr
      obtain ⟨n, hn, -, rfl⟩ := keyword_eq_some_iff.mp hk
      obtain ⟨g, hne, hg, -, rfl⟩ := gaps1_eq_some_iff.mp hgaps
      obtain ⟨m, hm, ht, rfl⟩ := ih (by simp) hr'
      exact ⟨n ++ (g ++ m), .cons hn hne hg hm, ht, by simp⟩

theorem phraseRest?_eq_none {word : String} (h : keyword word s = none) :
    phraseRest? (word :: words) s = none := by
  cases words with
  | nil => rw [phraseRest?, h]; rfl
  | cons next words => rw [phraseRest?_cons, h]; rfl

section Match

variable {phrases : List (α × List String)}

theorem matchPhrase?_eq_none (h : ∀ phrase ∈ phrases, ∀ word ∈ phrase.2.head?,
    keyword word s = none) (hne : ∀ phrase ∈ phrases, phrase.2 ≠ []) :
    matchPhrase? phrases s = none := by
  refine List.findSome?_eq_none_iff.mpr fun phrase hp => ?_
  obtain ⟨word, words, he⟩ := List.exists_cons_of_ne_nil (hne phrase hp)
  rw [he, phraseRest?_eq_none (h phrase hp word (by simp [he]))]
  rfl

theorem matchPhrase?_eq_none_of_stops (hw : WellFormed phrases) (hs : Stops isNameChar s) :
    matchPhrase? phrases s = none :=
  matchPhrase?_eq_none (fun phrase hp _ hm =>
    keyword_eq_none_of_stops (hw.isWord phrase hp _ (List.mem_of_mem_head? hm)) hs) hw.ne_nil

theorem matchPhrase?_eq_none_of_freeOf (hw : WellFormed phrases) (hn : IsName n)
    (hf : FreeOf phrases n) (ht : Stops isNameChar t) : matchPhrase? phrases (n ++ t) = none :=
  matchPhrase?_eq_none (fun phrase hp word hm => keyword_eq_none_of_isName
    (hw.isWord phrase hp _ (List.mem_of_mem_head? hm)) hn ht (hf phrase hp word hm)) hw.ne_nil

theorem findSome?_eq_of_mem {β γ : Type} {f : β → Option γ} {xs : List β} {x : β} {y : γ}
    (hx : x ∈ xs) (hu : ∀ z ∈ xs, z = x ∨ f z = none) (hy : f x = some y) :
    xs.findSome? f = some y := by
  induction xs with
  | nil => cases hx
  | cons z xs ih =>
    rw [List.findSome?_cons]
    rcases hu z (by simp) with rfl | hz
    · rw [hy]
    · rw [hz]
      refine ih ?_ fun w hw => hu w (List.mem_cons_of_mem _ hw)
      rcases List.mem_cons.mp hx with rfl | hx
      · rw [hz] at hy; cases hy
      · exact hx

/-- A phrase that is written at the start of a text is found there. -/
theorem matchPhrase?_append (hw : WellFormed phrases) {a : α} (ha : (a, words) ∈ phrases)
    (hn : Phrase words n) (ht : Stops isNameChar t) :
    matchPhrase? phrases (n ++ t) = some (a, n.length) := by
  have hwords := hw.isWord _ ha
  obtain ⟨word, hword, m, r, hm, rfl, hr⟩ := hn.exists_head hwords
  have hname := hm.isName (hwords word (List.mem_of_mem_head? hword))
  refine findSome?_eq_of_mem ha (fun p hp => ?_) ?_
  · obtain ⟨other, others, hother⟩ := List.exists_cons_of_ne_nil (hw.ne_nil p hp)
    have ho : other ∈ p.2.head? := by simp [hother]
    by_cases hs : Spelled other m
    · exact .inl (hw.head_inj p hp _ ha other ho word hword (hs.symm.trans hm))
    · right
      rw [hother, List.append_assoc, phraseRest?_eq_none (keyword_eq_none_of_isName
        (hw.isWord p hp other (List.mem_of_mem_head? ho)) hname (hr.append ht) hs)]
      rfl
  · rw [phraseRest?_append hn hwords ht, Option.map_some, List.length_append, Nat.add_sub_cancel]

theorem exists_of_matchPhrase? (hw : WellFormed phrases) {a : α} {len : Nat}
    (h : matchPhrase? phrases s = some (a, len)) : ∃ words n t, (a, words) ∈ phrases ∧
      Phrase words n ∧ Stops isNameChar t ∧ s = n ++ t ∧ len = n.length := by
  obtain ⟨⟨b, words⟩, hp, hf⟩ := List.exists_of_findSome?_eq_some h
  obtain ⟨t, ht, he⟩ := Option.map_eq_some_iff.mp hf
  obtain ⟨n, hn, hstop, rfl⟩ := exists_of_phraseRest? (hw.ne_nil _ hp) ht
  obtain ⟨rfl, rfl⟩ := Prod.mk.inj he
  exact ⟨words, n, t, hp, hn, hstop, rfl, by simp⟩

end Match

namespace Cut

def prepend (s : List Char) (cut : Cut α) : Cut α :=
  ⟨s ++ cut.lead, cut.sections⟩

@[simp] theorem prepend_nil (cut : Cut α) : cut.prepend [] = cut := rfl
@[simp] theorem prepend_append (cut : Cut α) :
    cut.prepend (s ++ t) = (cut.prepend t).prepend s := by
  simp [prepend]
theorem prepend_cons (c : Char) (cut : Cut α) :
    cut.prepend (c :: s) = (cut.prepend s).cons c := rfl

end Cut

section CutFrom

variable {phrases : List (α × List String)} {b : Bool} {q : Quotation} {c : Char}

theorem cutFrom_nil {skip : Nat} : cutFrom phrases b q skip [] = ⟨[], []⟩ := by
  rw [cutFrom]

theorem cutFrom_cons (h : q.isOutside c = true → b = false →
    matchPhrase? phrases (c :: s) = none) : cutFrom phrases b q 0 (c :: s) =
      (cutFrom phrases (isNameChar c) (q.step c) 0 s).cons c := by
  have hf : (if q.isOutside c && !b then matchPhrase? phrases (c :: s) else none) = none := by
    split
    · next hc => simp only [Bool.and_eq_true, Bool.not_eq_true'] at hc; exact h hc.1 hc.2
    · rfl
  rw [cutFrom, hf]

/-- Characters of a phrase that was found are passed over. -/
theorem cutFrom_skip (hs : ∀ c ∈ s.getLast?, isNameChar c = true)
    (hb : s = [] → b = true) : cutFrom phrases b q s.length (s ++ t) =
      cutFrom phrases true q 0 t := by
  induction s generalizing b with
  | nil => rw [hb rfl]; rfl
  | cons c s ih =>
    rw [List.cons_append, List.length_cons, cutFrom]
    refine ih (fun d hd => hs d ?_) fun he => hs c (by simp [he])
    rw [List.getLast?_cons, Option.mem_def.mp hd]
    rfl

/-- In front of a character that ends a name it does not matter whether a name is going on. -/
theorem cutFrom_of_stops (hw : WellFormed phrases) (ht : Stops isNameChar t) :
    cutFrom phrases b q 0 t = cutFrom phrases false q 0 t := by
  cases t with
  | nil => rw [cutFrom_nil, cutFrom_nil]
  | cons c t =>
    have hm := matchPhrase?_eq_none_of_stops hw ht
    rw [cutFrom_cons fun _ _ => hm, cutFrom_cons fun _ _ => hm]

/-- A phrase that is found opens a section, and the search goes on behind it. -/
theorem cutFrom_found (hwords : ∀ word ∈ words, IsWord word) {a : α} (hn : Phrase words n)
    (hf : matchPhrase? phrases (n ++ t) = some (a, n.length)) :
    cutFrom phrases false none 0 (n ++ t) = (cutFrom phrases true none 0 t).openSection a n := by
  obtain ⟨c, m, rfl, hc⟩ := hn.exists_cons hwords
  have hout : Quotation.isOutside none c = true := by
    simp [Quotation.isOutside, isQuote_of_isNameChar hc]
  have hlast := hn.last hwords
  rw [List.cons_append] at hf ⊢
  rw [cutFrom, hout, Bool.not_false, Bool.and_self, if_pos rfl, hf]
  simp only [List.length_cons, Nat.add_sub_cancel]
  rw [cutFrom_skip (fun d hd => hlast d ?_) fun _ => hc]
  · simp
  · rw [List.getLast?_cons, Option.mem_def.mp hd]
    rfl

/-- A phrase opens a section wherever it stands. -/
theorem cutFrom_phrase (hw : WellFormed phrases) {a : α} (ha : (a, words) ∈ phrases)
    (hn : Phrase words n) (ht : Stops isNameChar t) :
    cutFrom phrases false none 0 (n ++ t) =
      (cutFrom phrases false none 0 t).openSection a n := by
  rw [cutFrom_found (hw.isWord _ ha) hn (matchPhrase?_append hw ha hn ht), cutFrom_of_stops hw ht]

/-- No phrase begins in the text when the other text follows. -/
def Passes (phrases : List (α × List String)) (s t : List Char) : Prop :=
  cutFrom phrases false none 0 (s ++ t) = (cutFrom phrases false none 0 t).prepend s

theorem passes_nil : Passes phrases [] t := by
  simp [Passes]

theorem Passes.append (hs : Passes phrases s (t ++ g)) (ht : Passes phrases t g) :
    Passes phrases (s ++ t) g := by
  unfold Passes at *
  rw [List.append_assoc, hs, ht, Cut.prepend_append]

/-- Characters that belong to no name and to no quotation are passed over. -/
theorem passes_of_stops (hw : WellFormed phrases)
    (hs : ∀ c ∈ s, isNameChar c = false ∧ isQuote c = false) : Passes phrases s t := by
  induction s with
  | nil => exact passes_nil
  | cons c s ih =>
    rw [List.forall_mem_cons] at hs
    have hm : matchPhrase? phrases (c :: (s ++ t)) = none :=
      matchPhrase?_eq_none_of_stops hw (by simpa using hs.1.1)
    have hstep : Quotation.step none c = none :=
      Quotation.step_of_isOutside (by simp [Quotation.isOutside, hs.1.2])
    rw [Passes, List.cons_append, cutFrom_cons fun _ _ => hm, hs.1.1, hstep, ih hs.2,
      Cut.prepend_cons]

theorem passes_sign (hw : WellFormed phrases) (hn : isNameChar c = false)
    (hq : isQuote c = false) : Passes phrases [c] t :=
  passes_of_stops hw (by simp [hn, hq])

theorem cutFrom_name (hn : ∀ c ∈ n, isNameChar c = true) :
    cutFrom phrases true none 0 (n ++ t) = (cutFrom phrases true none 0 t).prepend n := by
  induction n with
  | nil => rfl
  | cons c n ih =>
    rw [List.forall_mem_cons] at hn
    have hstep : Quotation.step none c = none :=
      Quotation.step_of_isOutside (by simp [Quotation.isOutside, isQuote_of_isNameChar hn.1])
    rw [List.cons_append, cutFrom_cons (fun _ hb => by cases hb), hn.1, hstep, ih hn.2,
      Cut.prepend_cons]

/-- A name that is no first word of a phrase is passed over. -/
theorem passes_name (hw : WellFormed phrases) (hn : IsName n) (hf : FreeOf phrases n)
    (ht : Stops isNameChar t) : Passes phrases n t := by
  have hm := matchPhrase?_eq_none_of_freeOf hw hn hf ht
  obtain ⟨c, n, rfl⟩ := List.exists_cons_of_ne_nil hn.1
  have hc := List.forall_mem_cons.mp hn.2
  have hstep : Quotation.step none c = none :=
    Quotation.step_of_isOutside (by simp [Quotation.isOutside, isQuote_of_isNameChar hc.1])
  rw [List.cons_append] at hm
  rw [Passes, List.cons_append, cutFrom_cons fun _ _ => hm, hc.1, hstep, cutFrom_name hc.2,
    cutFrom_of_stops hw ht, Cut.prepend_cons]

theorem cutFrom_quotation {quote : Char} (hq : isQuote quote = true)
    (h : quote ∉ s) : cutFrom phrases b (some quote) 0 (s ++ quote :: t) =
      (cutFrom phrases false none 0 t).prepend (s ++ [quote]) := by
  induction s generalizing b with
  | nil =>
    rw [List.nil_append, cutFrom_cons (fun ho _ => by cases ho), isNameChar_of_isQuote hq,
      Quotation.step, if_pos rfl]
    rfl
  | cons c s ih =>
    rw [List.mem_cons, not_or] at h
    rw [List.cons_append, cutFrom_cons (fun ho _ => by cases ho), Quotation.step,
      if_neg fun hc => h.1 hc.symm, ih h.2]
    rfl

/-- A quotation is passed over, whatever stands in it. -/
theorem passes_quotation {quote : Char} (hq : isQuote quote = true)
    (h : quote ∉ s) : Passes phrases (quotation quote s) t := by
  have hout : Quotation.isOutside none quote = false := by simp [Quotation.isOutside, hq]
  rw [Passes, quotation, List.cons_append, List.append_assoc, List.singleton_append,
    cutFrom_cons (fun ho _ => by rw [hout] at ho; cases ho), Quotation.step, if_pos hq,
    cutFrom_quotation hq h, Cut.prepend_cons]

/-- The runs of name characters in a text. -/
def nameRuns (s : List Char) : List (List Char) :=
  fieldsAt (fun c => !isNameChar c) s

/-- A text without quotes is passed over if none of its names is a first word of a phrase. -/
theorem passes_of_nameRuns (hw : WellFormed phrases) (hq : ∀ c ∈ s, isQuote c = false)
    (hf : ∀ run ∈ nameRuns s, FreeOf phrases run) (ht : Stops isNameChar t) :
    Passes phrases s t := by
  induction hlen : s.length using Nat.strongRecOn generalizing s with
  | ind k ih =>
    have hrun : ∀ c ∈ s.takeWhile isNameChar, (!isNameChar c) = false := fun c hc => by
      simpa using List.all_eq_true.mp List.all_takeWhile c hc
    have hsplit := List.takeWhile_append_dropWhile (p := isNameChar) (l := s)
    have hstop := stops_dropWhile (p := isNameChar) (s := s)
    generalize s.takeWhile isNameChar = run at *
    generalize s.dropWhile isNameChar = rest at *
    subst hsplit
    have hname : ∀ y, Stops isNameChar y → (run ≠ [] → FreeOf phrases run) →
        Passes phrases run y := fun y hy hfree => by
      by_cases hne : run = []
      · rw [hne]; exact passes_nil
      · exact passes_name hw ⟨hne, fun c hc => by simpa using hrun c hc⟩ (hfree hne) hy
    cases rest with
    | nil =>
      rw [List.append_nil] at hf ⊢
      exact hname t ht fun hne => hf run ((mem_fieldsAt_of_forall hrun).mpr ⟨rfl, hne⟩)
    | cons c rest =>
      have hc : isNameChar c = false := stops_cons.mp hstop
      have hmem : ∀ g, g ∈ nameRuns (run ++ c :: rest) ↔ g = run ∧ run ≠ [] ∨ g ∈ nameRuns rest :=
        fun g => mem_fieldsAt_append_cons hrun (by simp [hc])
      refine Passes.append (hname _ (by simpa using hc) fun hne =>
        hf run ((hmem run).mpr (.inl ⟨rfl, hne⟩))) ?_
      refine Passes.append (s := [c]) (passes_of_stops hw ?_) (ih rest.length ?_ ?_ ?_ rfl)
      · simpa using ⟨hc, hq c (by simp)⟩
      · simp only [← hlen, List.length_append, List.length_cons]; omega
      · exact fun d hd => hq d (by simp [hd])
      · exact fun g hg => hf g ((hmem g).mpr (.inr hg))

end CutFrom

section Append

variable {phrases : List (α × List String)} {b : Bool} {q : Quotation}

/-- The text ends with a character that ends a name. -/
def EndsName (s : List Char) : Prop := ∃ c ∈ s.getLast?, isNameChar c = false

theorem EndsName.ne_nil (h : EndsName s) : s ≠ [] := by
  rintro rfl
  obtain ⟨c, hc, -⟩ := h
  cases hc

theorem EndsName.of_append (h : EndsName (s ++ t)) (ht : t ≠ []) : EndsName t := by
  obtain ⟨c, hc, hn⟩ := h
  rw [List.getLast?_append, List.getLast?_eq_some_getLast ht, Option.some_or] at hc
  exact ⟨c, by rwa [List.getLast?_eq_some_getLast ht], hn⟩

theorem EndsName.rest_ne_nil (h : EndsName (n ++ t)) (hn : ∀ c ∈ n.getLast?, isNameChar c = true) :
    t ≠ [] := by
  rintro rfl
  obtain ⟨c, hc, hf⟩ := h
  rw [List.append_nil] at hc
  rw [hn c hc] at hf
  cases hf

theorem keyword_append_of_endsName {word : String} (hw : IsWord word) (hs : EndsName s) :
    keyword word (s ++ t) = (keyword word s).map fun r => (r.1, r.2 ++ t) := by
  have hlast : ∀ {n}, Spelled word n → ∀ c ∈ n.getLast?, isNameChar c = true := fun hn c hc =>
    (hn.isName hw).2 c (List.mem_of_getLast? hc)
  cases hk : keyword word s with
  | some found =>
    obtain ⟨_, r⟩ := found
    obtain ⟨n, hn, hr, rfl⟩ := keyword_eq_some_iff.mp hk
    obtain ⟨c, r, rfl⟩ := List.exists_cons_of_ne_nil (hs.rest_ne_nil (hlast hn))
    rw [List.append_assoc, keyword_append hn (by simpa using hr)]
    rfl
  | none =>
    refine Option.eq_none_iff_forall_ne_some.mpr fun ⟨_, r⟩ hk' => ?_
    obtain ⟨n, hn, hr, he⟩ := keyword_eq_some_iff.mp hk'
    rcases List.append_eq_append_iff.mp he with ⟨m, rfl, rfl⟩ | ⟨m, rfl, rfl⟩
    · obtain ⟨c, hc, hf⟩ := hs
      rw [(hn.isName hw).2 c (List.mem_append_left m (List.mem_of_getLast? hc))] at hf
      cases hf
    · obtain ⟨c, m, rfl⟩ := List.exists_cons_of_ne_nil (hs.rest_ne_nil (hlast hn))
      rw [keyword_append hn (by simpa using hr)] at hk
      cases hk

theorem gaps1_append_of_stops (ht : Stops isGap t) :
    gaps1 (s ++ t) = (gaps1 s).map fun r => (r.1, r.2 ++ t) := by
  cases hs : gaps1 s with
  | none => rw [gaps1_eq_none_iff.mpr ((gaps1_eq_none_iff.mp hs).append ht)]; rfl
  | some found =>
    obtain ⟨_, r⟩ := found
    obtain ⟨g, hne, hg, hr, rfl⟩ := gaps1_eq_some_iff.mp hs
    rw [List.append_assoc, gaps1_append hne hg (hr.append ht)]
    rfl

/-- The text begins neither with a gap nor with a later word of a phrase. -/
structure NoLaterWord (phrases : List (α × List String)) (t : List Char) : Prop where
  stops : Stops isGap t
  later : ∀ phrase ∈ phrases, ∀ word ∈ phrase.2.tail, keyword word t = none

theorem phraseRest?_append_of_endsName (hw : ∀ word ∈ words, IsWord word) (hs : EndsName s)
    (ht : Stops isGap t) (hl : ∀ word ∈ words.tail, keyword word t = none) :
    phraseRest? words (s ++ t) = (phraseRest? words s).map (· ++ t) := by
  induction words generalizing s with
  | nil => rfl
  | cons word words ih =>
    have hk := keyword_append_of_endsName (t := t) (hw word (by simp)) hs
    cases words with
    | nil => rw [phraseRest?, phraseRest?, hk, Option.map_map, Option.map_map]; rfl
    | cons next words =>
      have hw' := fun w hm => hw w (List.mem_cons_of_mem _ hm)
      rw [phraseRest?_cons, phraseRest?_cons, hk]
      cases hk' : keyword word s with
      | none => rfl
      | some found =>
        obtain ⟨_, r⟩ := found
        obtain ⟨n, hn, -, rfl⟩ := keyword_eq_some_iff.mp hk'
        have hr := hs.rest_ne_nil fun c hc => (hn.isName (hw word (by simp))).2 c
          (List.mem_of_getLast? hc)
        simp only [Option.map_some, Option.bind_some, gaps1_append_of_stops ht]
        cases hg : gaps1 r with
        | none => rfl
        | some found =>
          obtain ⟨_, r'⟩ := found
          obtain ⟨g, -, -, -, rfl⟩ := gaps1_eq_some_iff.mp hg
          simp only [Option.map_some, Option.bind_some]
          by_cases hr' : r' = []
          -- the next word would have to stand at the start of `t`
          · have hnil := keyword_eq_none_of_stops (hw' next (by simp)) stops_nil
            rw [hr', List.nil_append, phraseRest?_eq_none (hl next (by simp)),
              phraseRest?_eq_none hnil]
            rfl
          · refine ih hw' ((hs.of_append hr).of_append hr') fun w hm => hl w ?_
            simpa using List.mem_of_mem_tail hm

theorem findSome?_congr {β γ : Type} {f f' : β → Option γ} {xs : List β}
    (h : ∀ x ∈ xs, f x = f' x) : xs.findSome? f = xs.findSome? f' := by
  induction xs with
  | nil => rfl
  | cons x xs ih =>
    rw [List.forall_mem_cons] at h
    rw [List.findSome?_cons, List.findSome?_cons, h.1, ih h.2]

theorem matchPhrase?_append_of_endsName (hw : WellFormed phrases) (hs : EndsName s)
    (ht : NoLaterWord phrases t) : matchPhrase? phrases (s ++ t) = matchPhrase? phrases s := by
  refine findSome?_congr fun phrase hp => ?_
  rw [phraseRest?_append_of_endsName (hw.isWord phrase hp) hs ht.stops (ht.later phrase hp),
    Option.map_map]
  simp only [Function.comp_def, List.length_append, Nat.add_sub_add_right]

def Cut.extend (cut : Cut α) (sections : List (Section α)) : Cut α :=
  ⟨cut.lead, cut.sections ++ sections⟩

/-- At a character either a phrase begins or the search goes on. -/
theorem phrase_or_none (hw : WellFormed phrases) (b : Bool) (q : Quotation) (c : Char)
    (s : List Char) :
    (b = false ∧ q = none ∧ ∃ a words n t, (a, words) ∈ phrases ∧ Phrase words n ∧
      Stops isNameChar t ∧ c :: s = n ++ t) ∨
    (q.isOutside c = true → b = false → matchPhrase? phrases (c :: s) = none) := by
  cases hm : matchPhrase? phrases (c :: s) with
  | none => exact .inr fun _ _ => rfl
  | some found =>
    obtain ⟨words, n, t, ha, hn, ht, he, -⟩ := exists_of_matchPhrase? hw hm
    by_cases hstart : q.isOutside c = true ∧ b = false
    · refine .inl ⟨hstart.2, ?_, found.1, words, n, t, ha, hn, ht, he⟩
      cases q with
      | none => rfl
      | some quote => cases hstart.1
    · exact .inr fun ho hb => absurd ⟨ho, hb⟩ hstart

/-- A text that ends a name is cut on its own if a phrase begins behind it. -/
theorem cutFrom_append (hw : WellFormed phrases) (ht : NoLaterWord phrases t)
    (hlead : (cutFrom phrases false none 0 t).lead = []) (hs : s = [] ∧ b = false ∨ EndsName s)
    (hq : q.after s = none) : cutFrom phrases b q 0 (s ++ t) =
      (cutFrom phrases b q 0 s).extend (cutFrom phrases false none 0 t).sections := by
  induction hlen : s.length using Nat.strongRecOn generalizing s b q with
  | ind k ih =>
    cases s with
    | nil =>
      obtain ⟨-, rfl⟩ := hs.resolve_right fun h => h.ne_nil rfl
      obtain rfl : q = none := hq
      rw [List.nil_append, cutFrom_nil, Cut.extend, List.nil_append, ← hlead]
    | cons c s =>
      have hends : EndsName (c :: s) := hs.resolve_left (by simp)
      rcases phrase_or_none hw b q c s with
        ⟨rfl, rfl, a, words, n, r, ha, hn, hr, he⟩ | hnone
      · have hwords := hw.isWord _ ha
        have hlt : r.length < k := by
          have := congrArg List.length he
          have := List.length_pos_iff.mpr (hn.chars_ne_nil hwords)
          simp only [List.length_append] at *
          omega
        rw [he] at hends hq ⊢
        have hne := hends.rest_ne_nil (hn.last hwords)
        have hstop : Stops isNameChar (r ++ t) := by
          obtain ⟨d, r, rfl⟩ := List.exists_cons_of_ne_nil hne
          simpa using hr
        rw [Quotation.after_append, Quotation.after_none_of_forall (hn.isQuote hwords)] at hq
        rw [List.append_assoc, cutFrom_phrase hw ha hn hstop, cutFrom_phrase hw ha hn hr,
          ih r.length hlt (.inr (hends.of_append hne)) hq rfl]
        rfl
      · have hmatch := matchPhrase?_append_of_endsName hw hends ht
        have hlast : s = [] ∧ isNameChar c = false ∨ EndsName s := by
          by_cases hne : s = []
          · obtain ⟨d, hd, hf⟩ := hends
            simp only [hne, List.getLast?_singleton, Option.mem_some] at hd
            exact .inl ⟨hne, hd ▸ hf⟩
          · exact .inr (EndsName.of_append (s := [c]) hends hne)
        rw [List.cons_append] at hmatch ⊢
        rw [cutFrom_cons fun ho hb => hmatch.trans (hnone ho hb),
          cutFrom_cons hnone, ih s.length (by simp [← hlen]) hlast hq rfl]
        rfl

end Append

end LogLab.Query
