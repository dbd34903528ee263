import LogLab.Proofs.Query.Clauses

/-! # The search for phrases

A text is searched from left to right, and the search goes on behind each phrase that was found. So
the finds stand in order and apart from each other, and wherever one of the phrases stands in the
text, a find begins, or the place is inside of an earlier find.
-/

namespace LogLab.Query

open Scan Text

variable {α : Type} {phrases : List (α × List String)} {words : List String}
  {s t n before front heading rest : List Char} {c : Char}

/-- One word or more, all of letters. -/
def IsPhrase (words : List String) : Prop := words ≠ [] ∧ ∀ word ∈ words, IsWord word

instance : Decidable (IsPhrase words) := by unfold IsPhrase; infer_instance

/-- The phrase stands in the text between `before` and `rest`: outside quotations, and neither
directly behind nor directly in front of a character of a name. -/
structure Occurs (words : List String) (s before heading rest : List Char) : Prop where
  eq : s = before ++ (heading ++ rest)
  outside : Quotation.after none before = none
  apart : ∀ c ∈ before.getLast?, isNameChar c = false
  isPhrase : Phrase words heading
  stops : Stops isNameChar rest

def OccursAt (phrases : List (α × List String)) (s before : List Char) : Prop :=
  ∃ phrase ∈ phrases, ∃ heading rest, Occurs phrase.2 s before heading rest

/-- The first of the phrases that stands in the text behind `before`, with its place. -/
def FirstAt (phrases : List (α × List String)) (s before : List Char) (f : Find α) : Prop :=
  ∃ earlier words later heading rest, phrases = earlier ++ (f.phrase, words) :: later ∧
    ¬OccursAt earlier s before ∧ Occurs words s before heading rest ∧
    f.start = octets before ∧ f.stop = octets (before ++ heading)

section Match

theorem phraseRest?_eq_some_iff (hw : IsPhrase words) : phraseRest? words s = some t ↔
    ∃ n, Phrase words n ∧ Stops isNameChar t ∧ s = n ++ t := by
  refine ⟨exists_of_phraseRest? hw.1, ?_⟩
  rintro ⟨n, hn, ht, rfl⟩
  exact phraseRest?_append hn hw.2 ht

theorem phraseRest?_eq_none_iff (hw : IsPhrase words) : phraseRest? words s = none ↔
    ¬∃ n t, Phrase words n ∧ Stops isNameChar t ∧ s = n ++ t := by
  rw [Option.eq_none_iff_forall_ne_some, not_exists]
  constructor
  · rintro h n ⟨t, hn⟩
    exact h t ((phraseRest?_eq_some_iff hw).mpr ⟨n, hn⟩)
  · intro h t ht
    obtain ⟨n, hn⟩ := (phraseRest?_eq_some_iff hw).mp ht
    exact h n ⟨t, hn⟩

theorem not_beginsPhrase (hw : ∀ phrase ∈ phrases, IsPhrase phrase.2)
    (h : ∀ phrase ∈ phrases, phraseRest? phrase.2 s = none) : ¬BeginsPhrase phrases s := by
  rintro ⟨phrase, hp, hbegins⟩
  exact (phraseRest?_eq_none_iff (hw phrase hp)).mp (h phrase hp) hbegins

theorem not_beginsPhrase_of_matchPhrase? (hw : ∀ phrase ∈ phrases, IsPhrase phrase.2)
    (h : matchPhrase? phrases s = none) : ¬BeginsPhrase phrases s :=
  not_beginsPhrase hw fun phrase hp =>
    Option.map_eq_none_iff.mp (List.findSome?_eq_none_iff.mp h phrase hp)

/-- What is found at the start of a text is the first of the phrases that stand there. -/
theorem exists_first_of_matchPhrase? (hw : ∀ phrase ∈ phrases, IsPhrase phrase.2) {a : α}
    {len : Nat} (h : matchPhrase? phrases s = some (a, len)) :
    ∃ earlier words later n t, phrases = earlier ++ (a, words) :: later ∧
      ¬BeginsPhrase earlier s ∧ Phrase words n ∧ Stops isNameChar t ∧ s = n ++ t ∧
      len = n.length := by
  obtain ⟨earlier, ⟨b, words⟩, later, rfl, hfound, hearlier⟩ := List.findSome?_eq_some_iff.mp h
  obtain ⟨t, ht, he⟩ := Option.map_eq_some_iff.mp hfound
  obtain ⟨rfl, rfl⟩ := Prod.mk.inj he
  obtain ⟨n, hn, hstop, rfl⟩ := (phraseRest?_eq_some_iff (hw _ (by simp))).mp ht
  have hnone : ¬BeginsPhrase earlier (n ++ t) :=
    not_beginsPhrase (fun phrase hp => hw phrase (by simp [hp])) fun phrase hp =>
      Option.map_eq_none_iff.mp (hearlier phrase hp)
  exact ⟨earlier, words, later, n, t, rfl, hnone, hn, hstop, rfl, by simp⟩

end Match

theorem inName_eq_false_iff :
    inName false before = false ↔ ∀ c ∈ before.getLast?, isNameChar c = false := by
  rcases List.eq_nil_or_concat before with rfl | ⟨front, c, rfl⟩
  · simp [inName]
  · simp [inName]

theorem occursAt_iff (hs : s = before ++ rest) : OccursAt phrases s before ↔
    Quotation.after none before = none ∧ inName false before = false ∧
      BeginsPhrase phrases rest := by
  rw [inName_eq_false_iff]
  constructor
  · rintro ⟨phrase, hp, heading, t, h⟩
    obtain rfl : rest = heading ++ t := List.append_cancel_left (hs.symm.trans h.eq)
    exact ⟨h.outside, h.apart, phrase, hp, heading, t, h.isPhrase, h.stops, rfl⟩
  · rintro ⟨houtside, hapart, phrase, hp, heading, t, hn, ht, rfl⟩
    exact ⟨phrase, hp, heading, t, hs, houtside, hapart, hn, ht⟩

section Search

variable {finds : List (Find α)} {f : Find α}

/-- The finds are what a search of the text finds behind `before`. -/
structure IsSearch (phrases : List (α × List String)) (s before : List Char)
    (finds : List (Find α)) : Prop where
  behind : ∀ f ∈ finds, octets before ≤ f.start
  ordered : finds.Pairwise fun f g => f.stop ≤ g.start
  sound : ∀ f ∈ finds, ∃ front, FirstAt phrases s front f
  complete : ∀ front, before <+: front → OccursAt phrases s front →
    ∃ f ∈ finds, FirstAt phrases s front f ∨
      f.start < octets front ∧ octets front < f.stop

theorem octets_lt_of_isPrefix (h : s <+: t) (hne : s ≠ t) : octets s < octets t := by
  obtain ⟨u, rfl⟩ := h
  have hu : u ≠ [] := by
    rintro rfl
    exact hne (List.append_nil s).symm
  have hpos := Nat.pos_of_ne_zero (mt octets_eq_zero.mp hu)
  rw [octets_append]
  omega

theorem octets_lt_append (h : n ≠ []) : octets s < octets (s ++ n) :=
  octets_lt_of_isPrefix (List.prefix_append s n) (by simpa using h)

/-- A place from `before` on is there, inside of what stands there, or behind that. -/
theorem place_cases (hfront : before <+: front) (hs : before ++ heading <+: s)
    (h : front <+: s) : before = front ∨
      (octets before < octets front ∧ octets front < octets (before ++ heading)) ∨
      before ++ heading <+: front := by
  rcases List.prefix_or_prefix_of_prefix hs h with hle | hle
  · exact .inr (.inr hle)
  · by_cases hstart : before = front
    · exact .inl hstart
    · by_cases hstop : front = before ++ heading
      · exact .inr (.inr (hstop ▸ List.prefix_rfl))
      · exact .inr (.inl
          ⟨octets_lt_of_isPrefix hfront hstart, octets_lt_of_isPrefix hle hstop⟩)

theorem OccursAt.isPrefix (h : OccursAt phrases s front) : front <+: s := by
  obtain ⟨_, -, _, _, hoccurs⟩ := h
  exact ⟨_, hoccurs.eq.symm⟩

/-- Nothing is found at the end of a text. -/
theorem isSearch_nil (hw : ∀ phrase ∈ phrases, IsPhrase phrase.2) :
    IsSearch phrases s s [] where
  behind := by simp
  ordered := .nil
  sound := by simp
  complete front hfront h := by
    obtain rfl := h.isPrefix.eq_of_length_le hfront.length_le
    obtain ⟨-, -, hbegins⟩ := (occursAt_iff (List.append_nil _).symm).mp h
    obtain ⟨phrase, hp, n, t, hn, -, he⟩ := hbegins
    exact absurd (List.append_eq_nil_iff.mp he.symm).1 (hn.chars_ne_nil (hw phrase hp).2)

/-- A place at which no phrase stands is passed over. -/
theorem IsSearch.pass (h : IsSearch phrases s (before ++ [c]) finds) (hs : before ++ [c] <+: s)
    (hnone : ¬OccursAt phrases s before) : IsSearch phrases s before finds where
  behind f hf := by
    have := h.behind f hf
    rw [octets_append] at this
    omega
  ordered := h.ordered
  sound := h.sound
  complete front hfront hoccurs := by
    refine h.complete front ?_ hoccurs
    rcases List.prefix_or_prefix_of_prefix hs hoccurs.isPrefix with hle | hle
    · exact hle
    · rcases List.prefix_concat_iff.mp hle with rfl | hle
      · exact List.prefix_rfl
      · obtain rfl := hle.eq_of_length_le hfront.length_le
        exact absurd hoccurs hnone

/-- A find covers its place, and the search goes on behind it. -/
theorem IsSearch.find (h : IsSearch phrases s (before ++ heading) finds)
    (hf : FirstAt phrases s before f) (hstop : f.stop = octets (before ++ heading))
    (hs : before ++ heading <+: s) (hne : heading ≠ []) :
    IsSearch phrases s before (f :: finds) := by
  have hstart : f.start = octets before := by
    obtain ⟨-, -, -, -, -, -, -, -, hstart, -⟩ := hf
    exact hstart
  have hlt : octets before < octets (before ++ heading) := octets_lt_append hne
  refine ⟨List.forall_mem_cons.mpr ⟨hstart.ge, fun g hg => hlt.le.trans (h.behind g hg)⟩,
    List.pairwise_cons.mpr ⟨fun g hg => hstop.trans_le (h.behind g hg), h.ordered⟩,
    List.forall_mem_cons.mpr ⟨⟨before, hf⟩, h.sound⟩, fun front hfront hoccurs => ?_⟩
  rcases place_cases hfront hs hoccurs.isPrefix with rfl | hinside | hbehind
  · exact ⟨f, List.mem_cons_self, .inl hf⟩
  · exact ⟨f, List.mem_cons_self, .inr (by rwa [hstart, hstop])⟩
  · obtain ⟨g, hg, hfind⟩ := h.complete front hbehind hoccurs
    exact ⟨g, List.mem_cons_of_mem f hg, hfind⟩

theorem Cut.findsFrom_cons {cut : Cut α} {start : Nat} :
    (cut.cons c).findsFrom start = cut.findsFrom (start + octets [c]) := by
  simp [Cut.cons, Cut.findsFrom, Nat.add_assoc]

theorem Cut.findsFrom_openSection {cut : Cut α} {a : α} {start : Nat} :
    (cut.openSection a n).findsFrom start =
      ⟨a, start, start + octets n⟩ :: cut.findsFrom (start + octets n) := by
  simp [Cut.openSection, Cut.findsFrom, findsOf]

theorem inName_append_singleton {b : Bool} : inName b (before ++ [c]) = isNameChar c := by
  simp [inName]

theorem Phrase.inName_append (hn : Phrase words n) (hwords : ∀ word ∈ words, IsWord word)
    {b : Bool} : inName b (before ++ n) = true := by
  rcases List.eq_nil_or_concat' n with rfl | ⟨m, c, rfl⟩
  · exact absurd rfl (hn.chars_ne_nil hwords)
  · rw [← List.append_assoc, inName_append_singleton]
    exact hn.last hwords c List.getLast?_concat

/-- Cuts the rest of a text whose first part is `before`. -/
def cutBehind (phrases : List (α × List String)) (before rest : List Char) : Cut α :=
  cutFrom phrases (inName false before) (Quotation.after none before) 0 rest

/-- Where phrases stand, the first of them opens a section. -/
theorem cutBehind_of_occursAt (hw : ∀ phrase ∈ phrases, IsPhrase phrase.2)
    (hs : s = before ++ rest) (h : OccursAt phrases s before) :
    ∃ a n t, n ≠ [] ∧ rest = n ++ t ∧
      FirstAt phrases s before ⟨a, octets before, octets before + octets n⟩ ∧
      cutBehind phrases before rest = (cutBehind phrases (before ++ n) t).openSection a n := by
  obtain ⟨houtside, hname, hbegins⟩ := (occursAt_iff hs).mp h
  obtain ⟨⟨a, len⟩, hm⟩ := Option.ne_none_iff_exists'.mp fun hm =>
    not_beginsPhrase_of_matchPhrase? hw hm hbegins
  obtain ⟨earlier, words, later, n, t, he, hearlier, hn, ht, rfl, rfl⟩ :=
    exists_first_of_matchPhrase? hw hm
  have hwords := (hw (a, words) (by simp [he])).2
  have hfirst : ¬OccursAt earlier s before := fun h => hearlier ((occursAt_iff hs).mp h).2.2
  have hoccurs : Occurs words s before n t :=
    ⟨hs, houtside, inName_eq_false_iff.mp hname, hn, ht⟩
  refine ⟨a, n, t, hn.chars_ne_nil hwords, rfl, ?_, ?_⟩
  · exact ⟨earlier, words, later, n, t, he, hfirst, hoccurs, rfl, octets_append.symm⟩
  · rw [cutBehind, cutBehind, hn.inName_append hwords, Quotation.after_append, houtside,
      Quotation.after_none_of_forall (hn.isQuote hwords), hname, cutFrom_found hwords hn hm]

/-- Where no phrase stands, the character is passed over. -/
theorem cutBehind_of_not_occursAt (hw : ∀ phrase ∈ phrases, IsPhrase phrase.2)
    (hs : s = before ++ c :: rest) (h : ¬OccursAt phrases s before) :
    cutBehind phrases before (c :: rest) = (cutBehind phrases (before ++ [c]) rest).cons c := by
  rw [cutBehind, cutBehind, inName_append_singleton, Quotation.after_append, cutFrom_cons]
  · rfl
  · intro hout hname
    by_contra hm
    obtain ⟨⟨a, len⟩, hm⟩ := Option.ne_none_iff_exists'.mp hm
    obtain ⟨earlier, words, later, n, t, he, -, hn, ht, hrest, -⟩ :=
      exists_first_of_matchPhrase? hw hm
    have hquote : Quotation.after none before = none := by
      cases hq : Quotation.after none before with
      | none => rfl
      | some quote => rw [hq] at hout; cases hout
    exact h ((occursAt_iff hs).mpr
      ⟨hquote, hname, (a, words), by simp [he], n, t, hn, ht, hrest⟩)

/-- Cutting a text is a search of it, from every place that is not inside of a find. -/
theorem isSearch_cutBehind (hw : ∀ phrase ∈ phrases, IsPhrase phrase.2) (hs : s = before ++ rest) :
    IsSearch phrases s before ((cutBehind phrases before rest).findsFrom (octets before)) := by
  -- On the length of the rest, since a find takes several characters of it at once.
  induction hlen : rest.length using Nat.strongRecOn generalizing before rest with
  | ind k ih =>
    by_cases hoccurs : OccursAt phrases s before
    · obtain ⟨a, n, t, hne, rfl, hfirst, hcut⟩ := cutBehind_of_occursAt hw hs hoccurs
      have htext : s = before ++ n ++ t := by rw [hs, List.append_assoc]
      have hlt : t.length < k := by
        have := List.length_pos_iff.mpr hne
        rw [← hlen, List.length_append]
        omega
      have hnext := ih t.length hlt htext rfl
      rw [octets_append] at hnext
      rw [hcut, Cut.findsFrom_openSection]
      exact hnext.find hfirst octets_append.symm ⟨t, htext.symm⟩ hne
    · cases rest with
      | nil =>
        rw [List.append_nil] at hs
        rw [cutBehind, cutFrom_nil, ← hs]
        exact isSearch_nil hw
      | cons c rest =>
        have htext : s = before ++ [c] ++ rest := by rw [hs, List.append_assoc]; rfl
        have hnext := ih rest.length (by simp [← hlen]) htext rfl
        rw [octets_append] at hnext
        rw [cutBehind_of_not_occursAt hw hs hoccurs, Cut.findsFrom_cons]
        exact hnext.pass ⟨rest, htext.symm⟩ hoccurs

end Search

theorem FirstAt.start_lt {f : Find α} (hw : ∀ phrase ∈ phrases, IsPhrase phrase.2)
    (h : FirstAt phrases s before f) : f.start < f.stop := by
  obtain ⟨earlier, words, later, heading, rest, he, -, hoccurs, hstart, hstop⟩ := h
  have hwords := (hw (f.phrase, words) (by simp [he])).2
  rw [hstart, hstop]
  exact octets_lt_append (hoccurs.isPhrase.chars_ne_nil hwords)

/-- The search for phrases is sound and complete. The finds are in order and do not overlap. Each of
them is the first of the phrases that stand at its place, outside quotations and apart from names.
Where one of the phrases stands, such a find begins, or the place is inside of an earlier find. -/
theorem finds_exact (hw : ∀ phrase ∈ phrases, IsPhrase phrase.2) (s : List Char) :
    (findPhrases phrases s).Pairwise (fun f g => f.stop ≤ g.start) ∧
      (∀ f ∈ findPhrases phrases s, f.start < f.stop ∧ ∃ before, FirstAt phrases s before f) ∧
      ∀ before, OccursAt phrases s before → ∃ f ∈ findPhrases phrases s,
        FirstAt phrases s before f ∨ f.start < octets before ∧ octets before < f.stop := by
  have htext : s = [] ++ s := rfl
  have hsearch : IsSearch phrases s [] (findPhrases phrases s) := isSearch_cutBehind hw htext
  refine ⟨hsearch.ordered, fun f hf => ?_, fun before h => hsearch.complete before ?_ h⟩
  · obtain ⟨before, hfirst⟩ := hsearch.sound f hf
    exact ⟨hfirst.start_lt hw, before, hfirst⟩
  · exact List.nil_prefix

/-- The phrases that the languages search for, each under its name. -/
def searchedPhrases : List (String × List String) :=
  [("FROM", ["FROM"]), ("WHERE", ["WHERE"]), ("GROUP BY", ["GROUP", "BY"]),
    ("ORDER BY", ["ORDER", "BY"]), ("LIMIT", ["LIMIT"]), ("AND", ["AND"]), ("BY", ["BY"])]

/-- A text in which one phrase is quoted, two go on with a name and one is part of another. -/
def textWithPhrases : List Char := "é WHERE by_ = 'LIMIT' and Group\t BY limited".toList

def textInFront : List Char := "é WHERE by_ = 'LIMIT' and Group\t ".toList

theorem finds_exact_of_quoted :
    (∀ phrase ∈ searchedPhrases, IsPhrase phrase.2) ∧
      findPhrases searchedPhrases textWithPhrases =
        [⟨"WHERE", 3, 8⟩, ⟨"AND", 23, 26⟩, ⟨"GROUP BY", 27, 36⟩] ∧
      (findPhrases searchedPhrases textWithPhrases).Pairwise (fun f g => f.stop ≤ g.start) ∧
      (∃ before, FirstAt searchedPhrases textWithPhrases before ⟨"AND", 23, 26⟩) ∧
      OccursAt searchedPhrases textWithPhrases textInFront ∧
      ∃ f ∈ findPhrases searchedPhrases textWithPhrases,
        FirstAt searchedPhrases textWithPhrases textInFront f ∨ f.start < 34 ∧ 34 < f.stop := by
  have hw : ∀ phrase ∈ searchedPhrases, IsPhrase phrase.2 := by decide +kernel
  have hfinds : findPhrases searchedPhrases textWithPhrases =
      [⟨"WHERE", 3, 8⟩, ⟨"AND", 23, 26⟩, ⟨"GROUP BY", 27, 36⟩] := by decide +kernel
  have hby : OccursAt searchedPhrases textWithPhrases textInFront :=
    ⟨("BY", ["BY"]), by simp [searchedPhrases], "BY".toList, " limited".toList, rfl,
      by decide +kernel, by decide +kernel, .single (by decide +kernel), by decide +kernel⟩
  obtain ⟨hordered, hsound, hcomplete⟩ := finds_exact hw textWithPhrases
  refine ⟨hw, hfinds, hordered, (hsound ⟨"AND", 23, 26⟩ ?_).2, hby, hcomplete textInFront hby⟩
  rw [hfinds]
  decide

end LogLab.Query
