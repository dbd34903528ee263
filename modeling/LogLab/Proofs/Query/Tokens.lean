import LogLab.Proofs.Number.Digits
import LogLab.Proofs.Text.Casing
import LogLab.Proofs.Text.Runs
import LogLab.Query.Words

/-! # Tokens of queries

What each small scanner finds in a text that is written as it expects: gaps, words in any letter
case, names, literals and comparisons, with any text behind them that does not go on.
-/

namespace LogLab

namespace Scan

open Text

section Combinators

variable {α β : Type} {s t : List Char} {a : α}

theorem bind_eq {scan : Scan α} {next : α → Scan β} (h : scan s = some (a, t)) :
    (scan >>= next) s = next a t := by
  simp only [Bind.bind, StateT.bind, h, Option.bind]

theorem bind_eq_none {scan : Scan α} {next : α → Scan β} (h : scan s = none) :
    (scan >>= next) s = none := by
  simp only [Bind.bind, StateT.bind, h, Option.bind]

@[simp] theorem pure_eq : (pure a : Scan α) s = some (a, s) := rfl

theorem maybe_eq {scan : Scan α} (h : scan s = some (a, t)) :
    maybe scan s = some (some a, t) := by
  simp only [maybe, h]

theorem maybe_eq_none {scan : Scan α} (h : scan s = none) : maybe scan s = some (none, s) := by
  simp only [maybe, h]

theorem orElse_eq {first second : Scan α} (h : first s = some (a, t)) :
    orElse first second s = some (a, t) := by
  simp only [orElse, h]

theorem orElse_eq_second {first second : Scan α} (h : first s = none) :
    orElse first second s = second s := by
  simp only [orElse, h]

theorem char_cons {c : Char} : char c (c :: s) = some ((), s) :=
  if_pos rfl

theorem bind_eq_some_iff {scan : Scan α} {next : α → Scan β} {b : β} :
    (scan >>= next) s = some (b, t) ↔ ∃ a r, scan s = some (a, r) ∧ next a r = some (b, t) := by
  simp only [Bind.bind, StateT.bind]
  constructor
  · intro h
    obtain ⟨⟨a, r⟩, ha, hb⟩ := Option.bind_eq_some_iff.mp h
    exact ⟨a, r, ha, hb⟩
  · rintro ⟨a, r, ha, hb⟩
    exact Option.bind_eq_some_iff.mpr ⟨(a, r), ha, hb⟩

theorem pure_eq_some_iff {b : α} : (pure a : Scan α) s = some (b, t) ↔ a = b ∧ s = t := by
  rw [pure_eq, Option.some.injEq, Prod.mk.injEq]

theorem char_eq_some_iff {c : Char} {u : Unit} : char c s = some (u, t) ↔ s = c :: t := by
  cases s with
  | nil => simp [char]
  | cons d s => simp [char]

theorem first?_eq {scan : Scan α} (h : scan s = some (a, t)) : first? scan s = some a := by
  simp only [first?, h, Option.map_some]

theorem whole?_eq_some_iff {scan : Scan α} :
    whole? scan s = some a ↔ scan s = some (a, []) := by
  unfold whole?
  split
  · next h => simp [h]
  · next h => exact ⟨fun he => (nomatch he), fun he => absurd he (h a)⟩

end Combinators

end Scan

namespace RiskyScan

variable {α β : Type} {s t : List Char} {a : α} {crash : Crash}

theorem bind_eq {scan : RiskyScan α} {next : α → RiskyScan β} (h : scan s = some (.ok a, t)) :
    (scan >>= next) s = next a t := by
  simp only [Bind.bind, ExceptT.bind, ExceptT.mk, StateT.bind, h, Option.bind, ExceptT.bindCont]

theorem bind_eq_none {scan : RiskyScan α} {next : α → RiskyScan β} (h : scan s = none) :
    (scan >>= next) s = none := by
  simp only [Bind.bind, ExceptT.bind, ExceptT.mk, StateT.bind, h, Option.bind]

theorem bind_eq_error {scan : RiskyScan α} {next : α → RiskyScan β}
    (h : scan s = some (.error crash, t)) : (scan >>= next) s = some (.error crash, t) := by
  simp only [Bind.bind, ExceptT.bind, ExceptT.mk, StateT.bind, h, Option.bind, ExceptT.bindCont]
  rfl

theorem lift_eq {scan : Scan α} (h : scan s = some (a, t)) :
    (liftM scan : RiskyScan α) s = some (.ok a, t) := by
  simp only [liftM, monadLift, MonadLift.monadLift, ExceptT.lift, ExceptT.mk, Functor.map,
    StateT.map, h, Bind.bind, Option.bind]
  rfl

theorem lift_eq_none {scan : Scan α} (h : scan s = none) : (liftM scan : RiskyScan α) s = none := by
  simp only [liftM, monadLift, MonadLift.monadLift, ExceptT.lift, ExceptT.mk, Functor.map,
    StateT.map, h, Bind.bind, Option.bind]

/-- A scanner that cannot crash is bound like any other. -/
theorem lift_bind_eq {scan : Scan α} {next : α → RiskyScan β} (h : scan s = some (a, t)) :
    (liftM scan >>= next) s = next a t :=
  bind_eq (lift_eq h)

theorem orElse_eq {first second : RiskyScan α} (h : first s = some (.ok a, t)) :
    orElse first second s = some (.ok a, t) :=
  Scan.orElse_eq h

theorem orElse_eq_second {first second : RiskyScan α} (h : first s = none) :
    orElse first second s = second s :=
  Scan.orElse_eq_second h

theorem first?_eq {scan : RiskyScan α} (h : scan s = some (.ok a, t)) :
    first? scan s = .ok (some a) := by
  simp only [first?, Scan.first?, ExceptT.run, h, Option.map_some]

end RiskyScan

namespace Scan

open Text

variable {c : Char} {s t g n : List Char} {word : String}

theorem isBlank_of_isNameChar (h : isNameChar c = true) : isBlank c = false := by
  have hn : ∀ k ∈ blankCodes, isNameChar (Char.ofNat k) = false := by decide +kernel
  refine Bool.eq_false_iff.mpr fun hb => ?_
  have := hn _ (mem_blankCodes_of_isBlank hb)
  rw [Char.ofNat_toNat, h] at this
  cases this

theorem isNameChar_of_isAlpha (h : c.isAlpha = true) : isNameChar c = true := by
  simp [isNameChar, isAlphanumeric, Char.isAlphanum, h]

theorem isNameChar_of_isBlank (h : isBlank c = true) : isNameChar c = false :=
  Bool.eq_false_iff.mpr fun hn => absurd h (by simp [isBlank_of_isNameChar hn])

theorem isNameChar_of_isGap (h : isGap c = true) : isNameChar c = false :=
  isNameChar_of_isBlank (isBlank_of_isGap h)

theorem isGap_of_isNameChar (h : isNameChar c = true) : isGap c = false :=
  Bool.eq_false_iff.mpr fun hg => absurd h (by simp [isNameChar_of_isGap hg])

theorem isNameChar_of_isQuote (h : isQuote c = true) : isNameChar c = false := by
  simp only [isQuote, Bool.or_eq_true, beq_iff_eq] at h
  rcases h with rfl | rfl <;> decide +kernel

theorem isQuote_of_isNameChar (h : isNameChar c = true) : isQuote c = false :=
  Bool.eq_false_iff.mpr fun hq => absurd h (by simp [isNameChar_of_isQuote hq])

theorem isBlank_of_isQuote (h : isQuote c = true) : isBlank c = false := by
  simp only [isQuote, Bool.or_eq_true, beq_iff_eq] at h
  rcases h with rfl | rfl <;> decide

theorem isQuote_of_isGap (h : isGap c = true) : isQuote c = false := by
  simp only [isGap, Bool.or_eq_true, beq_iff_eq] at h
  rcases h with ((rfl | rfl) | rfl) | rfl <;> decide

theorem isGap_of_isQuote (h : isQuote c = true) : isGap c = false :=
  Bool.eq_false_iff.mpr fun hg => absurd h (by simp [isQuote_of_isGap hg])

/-- The signs that stand between tokens are no characters of names. -/
theorem isNameChar_of_mem_signs : ∀ c ∈ ",*()|= ".toList, isNameChar c = false := by
  decide +kernel

/-- The word in some letter case. -/
def Spelled (word : String) (s : List Char) : Prop := asciiLower s = asciiLower word.toList

def IsWord (word : String) : Prop := word.toList ≠ [] ∧ ∀ c ∈ word.toList, c.isAlpha = true

def IsName (s : List Char) : Prop := s ≠ [] ∧ ∀ c ∈ s, isNameChar c = true

instance : Decidable (Spelled word s) := by unfold Spelled; infer_instance
instance : Decidable (IsWord word) := by unfold IsWord; infer_instance
instance : Decidable (IsName s) := by unfold IsName; infer_instance

theorem Spelled.isAlpha (h : Spelled word s) (hw : IsWord word) : ∀ c ∈ s, c.isAlpha = true := by
  intro c hc
  have hm : c.toLower ∈ asciiLower word.toList := h ▸ List.mem_map_of_mem hc
  obtain ⟨d, hd, he⟩ := List.mem_map.mp hm
  exact isAlpha_of_toLower_eq he.symm (hw.2 d hd)

theorem Spelled.isName (h : Spelled word s) (hw : IsWord word) : IsName s := by
  refine ⟨?_, fun c hc => isNameChar_of_isAlpha (h.isAlpha hw c hc)⟩
  rintro rfl
  exact hw.1 (by simpa [Spelled, asciiLower] using h.symm)

/-- Digits that write a number below `2 ^ 64`. -/
structure IsCount (s : List Char) : Prop where
  ne_nil : s ≠ []
  isDigit : ∀ c ∈ s, Numeral.isDigit c = true
  lt : Numeral.digitsValue s < UInt64.size

theorem isCount_toDigits {n : Nat} (h : n < UInt64.size) : IsCount (Nat.toDigits 10 n) where
  ne_nil := Nat.toDigits_ne_nil
  isDigit _ hc := Numeral.isDigit_of_mem_toDigits hc
  lt := by rwa [Numeral.digitsValue_toDigits]

theorem isNameChar_of_isDigit (h : Numeral.isDigit c = true) : isNameChar c = true := by
  rw [Numeral.isDigit_eq_charIsDigit] at h
  simp [isNameChar, isAlphanumeric, Char.isAlphanum, h]

theorem isAlpha_of_isDigit (h : Numeral.isDigit c = true) : c.isAlpha = false := by
  rw [Numeral.isDigit_iff] at h
  rw [Bool.eq_false_iff, Ne, isAlpha_iff]
  omega

theorem IsCount.isName (h : IsCount s) : IsName s :=
  ⟨h.ne_nil, fun c hc => isNameChar_of_isDigit (h.isDigit c hc)⟩

theorem IsCount.not_spelled (h : IsCount s) (hw : IsWord word) : ¬ Spelled word s := fun hs => by
  obtain ⟨c, hc⟩ := List.exists_mem_of_ne_nil s h.ne_nil
  cases (isAlpha_of_isDigit (h.isDigit c hc)).symm.trans (hs.isAlpha hw c hc)

theorem IsName.trimmed (h : IsName s) : Trimmed s :=
  ⟨fun c hc => isBlank_of_isNameChar (h.2 c (List.mem_of_mem_head? hc)),
    fun c hc => isBlank_of_isNameChar (h.2 c (List.mem_of_getLast? hc))⟩

theorem dropWord?_append {w : List Char} (h : asciiLower s = asciiLower w) :
    dropWord? w (s ++ t) = some t := by
  induction w generalizing s with
  | nil => simp_all [asciiLower, dropWord?]
  | cons d w ih =>
    cases s with
    | nil => simp [asciiLower] at h
    | cons c s =>
      simp only [asciiLower, List.map_cons, List.cons.injEq] at h
      rw [List.cons_append, dropWord?, if_pos h.1.symm, ih h.2]

theorem exists_of_dropWord? {w : List Char} (h : dropWord? w s = some t) :
    ∃ u, asciiLower u = asciiLower w ∧ s = u ++ t := by
  fun_induction dropWord? w s with
  | case1 s => exact ⟨[], rfl, by simpa using h⟩
  | case2 d w c cs hc ih =>
    obtain ⟨u, hu, rfl⟩ := ih h
    exact ⟨c :: u, by simp_all [asciiLower], rfl⟩
  | case3 | case4 => simp at h

theorem keyword_eq_some_iff {u : Unit} :
    keyword word s = some (u, t) ↔ ∃ n, Spelled word n ∧ Stops isNameChar t ∧ s = n ++ t := by
  constructor
  · intro h
    obtain ⟨n, hn, rfl⟩ := exists_of_dropWord? (dropWord?_of_keyword h)
    refine ⟨n, hn, ?_, rfl⟩
    rw [keyword, dropWord?_append hn] at h
    cases t with
    | nil => exact stops_nil
    | cons c t => simpa using h
  · rintro ⟨n, hn, ht, rfl⟩
    rw [keyword, dropWord?_append hn]
    cases t with
    | nil => rfl
    | cons c t => simp [stops_cons.mp ht]

theorem keyword_append (hn : Spelled word n) (ht : Stops isNameChar t) :
    keyword word (n ++ t) = some ((), t) :=
  keyword_eq_some_iff.mpr ⟨n, hn, ht, rfl⟩

/-- A name that is not the word is not taken for it. -/
theorem keyword_eq_none_of_isName (hw : IsWord word) (hn : IsName n) (ht : Stops isNameChar t)
    (h : ¬ Spelled word n) : keyword word (n ++ t) = none := by
  refine Option.eq_none_iff_forall_ne_some.mpr fun ⟨_, r⟩ hk => ?_
  obtain ⟨m, hm, hr, he⟩ := keyword_eq_some_iff.mp hk
  obtain ⟨rfl, -⟩ := run_unique hn.2 ht (hm.isName hw).2 hr he
  exact h hm

theorem keyword_eq_none_of_stops (hw : IsWord word) (ht : Stops isNameChar t) :
    keyword word t = none := by
  refine Option.eq_none_iff_forall_ne_some.mpr fun ⟨_, r⟩ hk => ?_
  obtain ⟨m, hm, -, rfl⟩ := keyword_eq_some_iff.mp hk
  obtain ⟨c, m, rfl⟩ := List.exists_cons_of_ne_nil (hm.isName hw).1
  have := (hm.isName hw).2 c (by simp)
  simp [stops_cons.mp ht] at this

section Octets

@[simp] theorem octets_nil : octets [] = 0 := rfl

@[simp] theorem octets_cons : octets (c :: s) = c.utf8Size + octets s := rfl

theorem octets_append : octets (s ++ t) = octets s + octets t := by
  induction s with
  | nil => simp
  | cons c s ih => rw [List.cons_append, octets_cons, ih, octets_cons, Nat.add_assoc]

theorem octets_eq_zero : octets s = 0 ↔ s = [] := by
  cases s with
  | nil => simp
  | cons c s =>
    have hpos := c.utf8Size_pos
    simp only [octets_cons, List.cons_ne_nil, iff_false]
    omega

end Octets

section FoldedWords

theorem utf8Size_of_isAlpha (h : c.isAlpha = true) : c.utf8Size = 1 := by
  have hlt := toNat_lt_of_isAlpha h
  rw [Char.toNat] at hlt
  rw [Char.utf8Size, if_pos]
  rw [UInt32.le_iff_toNat_le]
  exact Nat.le_of_lt_succ hlt

theorem dropFolded?_nil : dropFolded? [] s = some (.ok s) := by
  simp [dropFolded?, agree, octets, dropOctets]

theorem dropFolded?_cons_nil {d : Char} {w : List Char} (hd : d.isAlpha = true) :
    dropFolded? (d :: w) [] = none := by
  rw [dropFolded?, octets_cons, utf8Size_of_isAlpha hd, Nat.add_comm]
  rfl

theorem dropFolded?_cons_of_eq {d : Char} {w : List Char} (hd : d.isAlpha = true)
    (h : d.toLower = c.toLower) : dropFolded? (d :: w) (c :: s) = dropFolded? w s := by
  have hlower := (lower_eq_lower_iff hd).mpr (.inl h)
  have hsize := utf8Size_of_isAlpha (isAlpha_of_toLower_eq h.symm hd)
  simp only [dropFolded?, agree, hlower, beq_self_eq_true, Bool.true_and, octets_cons,
    utf8Size_of_isAlpha hd, Nat.add_comm 1, dropOctets, hsize]
  simp

theorem dropFolded?_cons_of_ne {d : Char} {w : List Char} (hd : d.isAlpha = true)
    (h : d.toLower ≠ c.toLower) (hk : c = kelvinSign → d.toLower ≠ 'k') :
    dropFolded? (d :: w) (c :: s) = none := by
  have hlower : lower [d] ≠ lower [c] := fun he => by
    rcases (lower_eq_lower_iff hd).mp he with he | ⟨he, hc⟩
    · exact h he
    · exact hk hc he
  rw [dropFolded?, agree, beq_eq_false_iff_ne.mpr hlower]
  rfl

/-- Only the Kelvin sign tells the two ways to compare the letters of a word apart. -/
theorem dropFolded?_eq {w : List Char} (hw : ∀ c ∈ w, c.isAlpha = true)
    (h : kelvinSign ∈ s.take w.length → 'k' ∉ asciiLower w) :
    dropFolded? w s = (dropWord? w s).map .ok := by
  induction w generalizing s with
  | nil => exact dropFolded?_nil
  | cons d w ih =>
    rw [List.forall_mem_cons] at hw
    cases s with
    | nil => exact dropFolded?_cons_nil hw.1
    | cons c s =>
      simp only [List.length_cons, List.take_succ_cons, List.mem_cons, asciiLower, List.map_cons,
        not_or] at h
      by_cases he : d.toLower = c.toLower
      · rw [dropFolded?_cons_of_eq hw.1 he, dropWord?, if_pos he, ih hw.2 fun hs => (h (.inr hs)).2]
      · rw [dropWord?, if_neg he, Option.map_none]
        exact dropFolded?_cons_of_ne hw.1 he fun hc => Ne.symm (h (.inl hc.symm)).1

theorem comparisonWord_eq_none {comparison : Comparison}
    (h : dropFolded? word.toList s = none) : comparisonWord word comparison s = none := by
  have hfolded : foldedWord word.toList s = none := by
    simp only [foldedWord, ExceptT.mk, h, Option.map_none]
  rw [comparisonWord, RiskyScan.bind_eq_none hfolded]

theorem comparisonWord_eq {comparison : Comparison} (hw : IsWord word)
    (h : kelvinSign ∈ s.take word.toList.length → 'k' ∉ asciiLower word.toList) :
    comparisonWord word comparison s =
      (keyword word s).map fun found => (.ok comparison, found.2) := by
  have hdrop := dropFolded?_eq hw.2 h
  cases hrest : dropWord? word.toList s with
  | none =>
    rw [hrest] at hdrop
    rw [comparisonWord_eq_none hdrop, keyword, hrest, Option.map_none]
  | some rest =>
    have hfolded : foldedWord word.toList s = some (.ok (), rest) := by
      simp only [foldedWord, ExceptT.mk, hdrop, hrest, Option.map_some]
    rw [comparisonWord, RiskyScan.bind_eq hfolded, keyword, hrest]
    cases rest with
    | nil => exact RiskyScan.lift_bind_eq rfl
    | cons c rest =>
      by_cases hc : isNameChar c = true
      · simp only [if_pos hc, Option.map_none]
        exact RiskyScan.bind_eq_none (RiskyScan.lift_eq_none (if_pos hc))
      · simp only [if_neg hc, Option.map_some]
        exact RiskyScan.lift_bind_eq (if_neg hc)

theorem comparisonWord_append {comparison : Comparison} (hw : IsWord word) (hn : Spelled word n)
    (ht : Stops isNameChar t) :
    comparisonWord word comparison (n ++ t) = some (.ok comparison, t) := by
  have hlength : word.toList.length = n.length := by
    simpa [asciiLower] using (congrArg List.length hn).symm
  rw [comparisonWord_eq hw, keyword_append hn ht, Option.map_some]
  rw [hlength, List.take_left]
  intro hk
  exact absurd (hn.isAlpha hw kelvinSign hk) (by decide)

end FoldedWords

theorem gaps_append (hg : ∀ c ∈ g, isGap c = true) (ht : Stops isGap t) :
    gaps (g ++ t) = some ((), t) := by
  rw [gaps, dropWhile_append_of_stops hg ht]

theorem gaps1_eq_some_iff {u : Unit} : gaps1 s = some (u, t) ↔
    ∃ g, g ≠ [] ∧ (∀ c ∈ g, isGap c = true) ∧ Stops isGap t ∧ s = g ++ t := by
  constructor
  · intro h
    cases s with
    | nil => cases h
    | cons c s =>
      rw [gaps1] at h
      split at h
      · next hc =>
        obtain rfl := (Prod.mk.inj (Option.some.inj h)).2
        refine ⟨c :: s.takeWhile isGap, by simp, ?_, stops_dropWhile, ?_⟩
        · rw [List.forall_mem_cons]
          exact ⟨hc, fun d hd => List.all_eq_true.mp List.all_takeWhile d hd⟩
        · rw [List.cons_append, List.takeWhile_append_dropWhile]
      · cases h
  · rintro ⟨g, hne, hg, ht, rfl⟩
    obtain ⟨c, g, rfl⟩ := List.exists_cons_of_ne_nil hne
    rw [List.forall_mem_cons] at hg
    rw [List.cons_append, gaps1, if_pos hg.1, dropWhile_append_of_stops hg.2 ht]

theorem gaps1_append (hne : g ≠ []) (hg : ∀ c ∈ g, isGap c = true) (ht : Stops isGap t) :
    gaps1 (g ++ t) = some ((), t) :=
  gaps1_eq_some_iff.mpr ⟨g, hne, hg, ht, rfl⟩

theorem gaps1_eq_none_iff : gaps1 s = none ↔ Stops isGap s := by
  cases s with
  | nil => simp [gaps1]
  | cons c s => simp [gaps1]

theorem takeWhile1_append {p : Char → Bool} (hne : n ≠ []) (hn : ∀ c ∈ n, p c = true)
    (ht : Stops p t) : takeWhile1 p (n ++ t) = some (n, t) := by
  rw [takeWhile1, takeWhile_append_of_stops hn ht, dropWhile_append_of_stops hn ht,
    if_neg (by simpa using hne)]

theorem takeWhile1_eq_some_iff {p : Char → Bool} : takeWhile1 p s = some (n, t) ↔
    n ≠ [] ∧ (∀ c ∈ n, p c = true) ∧ Stops p t ∧ s = n ++ t := by
  constructor
  · intro h
    unfold takeWhile1 at h
    split at h
    · cases h
    · next hne =>
      obtain ⟨rfl, rfl⟩ := Prod.mk.inj (Option.some.inj h)
      refine ⟨by simpa using hne, fun c hc => ?_, stops_dropWhile,
        List.takeWhile_append_dropWhile.symm⟩
      exact List.all_eq_true.mp List.all_takeWhile c hc
  · rintro ⟨hne, hn, ht, rfl⟩
    exact takeWhile1_append hne hn ht

theorem IsCount.count_eq (h : IsCount s) :
    count s = some (UInt64.ofNat (Numeral.digitsValue s), []) := by
  have hdigits : takeWhile1 Numeral.isDigit s = some (s, []) := by
    simpa using takeWhile1_append (t := []) h.ne_nil h.isDigit stops_nil
  rw [count, bind_eq hdigits, if_pos h.lt]
  rfl

theorem name_append (hn : IsName n) (ht : Stops isNameChar t) :
    name (n ++ t) = some (n, t) :=
  takeWhile1_append hn.1 hn.2 ht

theorem name_eq (hn : IsName n) : name n = some (n, []) := by
  simpa using name_append hn stops_nil

theorem IsCount.count?_eq (h : IsCount s) :
    count? s = some (UInt64.ofNat (Numeral.digitsValue s)) := by
  rw [count?, h.isName.trimmed.trim_eq, whole?_eq_some_iff.mpr h.count_eq]

/-- A name behind a space is found. -/
theorem first?_name_trim (hn : IsName n) : first? name (trim (' ' :: n)) = some n := by
  have htrim : trim (' ' :: n) = n :=
    (trim_blank_append (g := [' ']) (by decide)).trans hn.trimmed.trim_eq
  rw [htrim, first?_eq (name_eq hn)]

theorem upTo_append {quote : Char} (h : quote ∉ s) :
    upTo quote (s ++ quote :: t) = some (s, t) := by
  have hs : ∀ c ∈ s, (c != quote) = true := fun c hc =>
    bne_iff_ne.mpr fun he => h (he ▸ hc)
  have ht : Stops (· != quote) (quote :: t) := by simp
  rw [upTo, takeWhile_append_of_stops hs ht, dropWhile_append_of_stops hs ht,
    if_pos (by simp)]
  rfl

theorem comparisonSign_eq_none (h : isNameChar c = true) : comparisonSign (c :: t) = none := by
  simp only [comparisonSign]
  split <;> simp_all <;> revert h <;> decide +kernel

theorem literal_quoted {quote : Char} (hq : isQuote quote = true) (h : quote ∉ s) :
    literal (quote :: (s ++ quote :: t)) = some (s, t) := by
  refine orElse_eq ?_
  rw [quoted, if_pos hq, upTo_append h]

end Scan

end LogLab
