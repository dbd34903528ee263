import LogLab.Proofs.Query.Injection

/-! # Bars between commands

Commands end at the bars in front of which nothing is open, no quotation and no parenthesis. A bar
behind an open parenthesis ends no command, also where the parenthesis is never closed, so that the
commands behind it are lost. The commands are those between all bars outside quotations only if no
such bar is there.
-/

namespace LogLab.Query

open Scan Text

section Pieces

variable {separator c : Char} {cut cut' : List Char → Prop} {front s : List Char}
  {pieces pieces' : List (List Char)}

/-- No separator in the text `s` behind `front` cuts it. -/
def Uncut (separator : Char) (cut : List Char → Prop) (front s : List Char) : Prop :=
  ∀ t u, s = t ++ separator :: u → ¬ cut (front ++ t)

/-- The pieces of a text behind `front` between the separators that cut it. It depends on the whole
text in front of a separator whether it does. -/
inductive Pieces (separator : Char) (cut : List Char → Prop) :
    (front s : List Char) → (pieces : List (List Char)) → Prop where
  | last {front s : List Char} : Uncut separator cut front s → Pieces separator cut front s [s]
  | next {front p s : List Char} {pieces : List (List Char)} : Uncut separator cut front p →
      cut (front ++ p) → Pieces separator cut (front ++ p ++ [separator]) s pieces →
      Pieces separator cut front (p ++ separator :: s) (p :: pieces)

theorem uncut_of_not_mem (h : separator ∉ s) : Uncut separator cut front s := by
  rintro t u rfl
  exact absurd (List.mem_append_right t List.mem_cons_self) h

theorem uncut_cons : Uncut separator cut front (c :: s) ↔
    (c = separator → ¬ cut front) ∧ Uncut separator cut (front ++ [c]) s := by
  constructor
  · intro h
    constructor
    · rintro rfl
      simpa using h [] s rfl
    · rintro t u rfl
      simpa using h (c :: t) u rfl
  · rintro ⟨hc, hs⟩ t u he
    cases t with
    | nil =>
      obtain ⟨rfl, rfl⟩ := List.cons.inj he
      simpa using hc rfl
    | cons d t =>
      obtain ⟨rfl, rfl⟩ := List.cons.inj he
      simpa using hs t u rfl

theorem pieces_nil_iff : Pieces separator cut front [] pieces ↔ pieces = [[]] := by
  constructor
  · intro h
    generalize he : ([] : List Char) = s at h
    cases h with
    | last => rfl
    | next => simp at he
  · rintro rfl
    exact .last (uncut_of_not_mem (by simp))

/-- The pieces of a text by its first character. -/
theorem pieces_cons_iff : Pieces separator cut front (c :: s) pieces ↔
    ∃ rest, Pieces separator cut (front ++ [c]) s rest ∧
      (c = separator ∧ cut front ∧ pieces = [] :: rest ∨
        ¬ (c = separator ∧ cut front) ∧ pieces = consFirst c rest) := by
  constructor
  · intro h
    generalize he : c :: s = t at h
    cases h with
    | last hs =>
      rw [← he, uncut_cons] at hs
      refine ⟨_, .last hs.2, .inr ⟨fun h => hs.1 h.1 h.2, ?_⟩⟩
      rw [← he, consFirst]
    | @next _ p _ rest hp hcut hrest =>
      cases p with
      | nil =>
        obtain ⟨rfl, rfl⟩ := List.cons.inj he
        rw [List.append_nil] at hcut hrest
        exact ⟨rest, hrest, .inl ⟨rfl, hcut, rfl⟩⟩
      | cons d p =>
        obtain ⟨rfl, rfl⟩ := List.cons.inj he
        rw [uncut_cons] at hp
        refine ⟨p :: rest, .next hp.2 ?_ ?_, .inr ⟨fun h => hp.1 h.1 h.2, rfl⟩⟩
        · simpa using hcut
        · simpa using hrest
  · rintro ⟨rest, hrest, ⟨rfl, hcut, rfl⟩ | ⟨hnot, rfl⟩⟩
    · refine .next (p := []) (uncut_of_not_mem (by simp)) ?_ ?_
      · simpa using hcut
      · simpa using hrest
    · have hc : c = separator → ¬ cut front := fun hc h => hnot ⟨hc, h⟩
      cases hrest with
      | last hs => exact .last (uncut_cons.mpr ⟨hc, hs⟩)
      | next hp hcut hrest =>
        refine .next (p := c :: _) (uncut_cons.mpr ⟨hc, hp⟩) ?_ ?_
        · simpa using hcut
        · simpa using hrest

theorem Pieces.unique (h : Pieces separator cut front s pieces)
    (h' : Pieces separator cut front s pieces') : pieces = pieces' := by
  induction s generalizing front pieces pieces' with
  | nil => rw [pieces_nil_iff.mp h, pieces_nil_iff.mp h']
  | cons c s ih =>
    obtain ⟨rest, hrest, hpieces⟩ := pieces_cons_iff.mp h
    obtain ⟨rest', hrest', hpieces'⟩ := pieces_cons_iff.mp h'
    obtain rfl := ih hrest hrest'
    rcases hpieces with ⟨hc, hcut, rfl⟩ | ⟨hnot, rfl⟩ <;>
      rcases hpieces' with ⟨hc', hcut', rfl⟩ | ⟨hnot', rfl⟩
    · rfl
    · exact absurd ⟨hc, hcut⟩ hnot'
    · exact absurd ⟨hc', hcut'⟩ hnot
    · rfl

theorem exists_pieces (separator : Char) (cut : List Char → Prop) (front s : List Char) :
    ∃ pieces, Pieces separator cut front s pieces := by
  induction s generalizing front with
  | nil => exact ⟨_, pieces_nil_iff.mpr rfl⟩
  | cons c s ih =>
    obtain ⟨rest, hrest⟩ := ih (front ++ [c])
    by_cases h : c = separator ∧ cut front
    · exact ⟨_, pieces_cons_iff.mpr ⟨rest, hrest, .inl ⟨h.1, h.2, rfl⟩⟩⟩
    · exact ⟨_, pieces_cons_iff.mpr ⟨rest, hrest, .inr ⟨h, rfl⟩⟩⟩

theorem Pieces.congr (h : Pieces separator cut front s pieces)
    (hcut : ∀ t u, s = t ++ separator :: u → (cut (front ++ t) ↔ cut' (front ++ t))) :
    Pieces separator cut' front s pieces := by
  induction h with
  | last hs => exact .last fun t u he h => hs t u he ((hcut t u he).mpr h)
  | @next front p s pieces hp hat _ ih =>
    refine .next (fun t u he h => hp t u he ((hcut t (u ++ separator :: s) ?_).mpr h))
      ((hcut p s rfl).mp hat) (ih fun t u he => ?_)
    · simp [he]
    · simpa using hcut (p ++ separator :: t) u (by simp [he])

theorem Pieces.ne_nil (h : Pieces separator cut front s pieces) : pieces ≠ [] := by
  cases h <;> exact List.cons_ne_nil _ _

/-- Pieces that are joined with the separator are the text again. -/
theorem Pieces.intercalate_eq (h : Pieces separator cut front s pieces) :
    [separator].intercalate pieces = s := by
  induction h with
  | last => exact List.intercalate_singleton
  | next _ _ hrest ih =>
    obtain ⟨piece, pieces, rfl⟩ := List.exists_cons_of_ne_nil hrest.ne_nil
    rw [List.intercalate_cons_cons, ih]
    simp

/-- A piece on its own has no cut in it, if a text behind `front` or behind a cut is cut as if it
stood alone. -/
theorem Pieces.uncut_of_mem (h : Pieces separator cut front s pieces)
    (hfront : ∀ t, cut (front ++ t) ↔ cut t)
    (hbehind : ∀ front, cut front → ∀ t, cut (front ++ [separator] ++ t) ↔ cut t) :
    ∀ p ∈ pieces, Uncut separator cut [] p := by
  have hpiece : ∀ {front p}, (∀ t, cut (front ++ t) ↔ cut t) → Uncut separator cut front p →
      Uncut separator cut [] p := by
    intro front p hfront hp t u he hcut
    exact hp t u he ((hfront t).mpr hcut)
  induction h with
  | last hs =>
    intro p hp
    obtain rfl := List.mem_singleton.mp hp
    exact hpiece hfront hs
  | next hp hcut _ ih =>
    exact List.forall_mem_cons.mpr ⟨hpiece hfront hp, ih (hbehind _ hcut)⟩

end Pieces

variable {front s t : List Char} {pieces : List (List Char)}

def Unquoted (s : List Char) : Prop := Quotation.after none s = none

instance : Decidable (Unquoted s) := by unfold Unquoted; infer_instance

/-- A bar stands in the text outside its quotations. -/
def HoldsBar (s : List Char) : Prop := ∃ t u, s = t ++ '|' :: u ∧ Unquoted t

/-- The commands that are written in pieces: they are trimmed, and left out if they are empty. -/
def commandsIn (pieces : List (List Char)) : List (List Char) :=
  (pieces.map trim).filter fun command => !command.isEmpty

theorem quotation_after_start : (Nesting.after {} s).quotation = Quotation.after none s :=
  Nesting.quotation_after

theorem closed_iff : Closed s ↔ Unquoted s ∧ (Nesting.after {} s).depth = 0 := by
  rw [Closed, Unquoted, ← quotation_after_start]
  cases Nesting.after {} s
  simp

theorem Closed.unquoted (h : Closed s) : Unquoted s :=
  (closed_iff.mp h).1

theorem Unquoted.append_iff (h : Unquoted front) : Unquoted (front ++ s) ↔ Unquoted s := by
  rw [Unquoted, Quotation.after_append, h, Unquoted]

theorem unquoted_of_allBlank (h : AllBlank s) : Unquoted s :=
  Quotation.after_none_of_forall fun c hc => (neutral_of_isBlank (h c hc)).1.1

theorem Nesting.cutsAt_self_iff {separator : Char} {n : Nesting} :
    Nesting.CutsAt separator n separator ↔ Nesting.Neutral separator ∧ n = {} := by
  constructor
  · rintro ⟨hout, hopen, hclose, -, hdepth⟩
    obtain ⟨q, depth⟩ := n
    obtain rfl : depth = 0 := hdepth
    cases q with
    | none => exact ⟨⟨by simpa [Quotation.isOutside] using hout, hopen, hclose⟩, rfl⟩
    | some quote => cases hout
  · rintro ⟨⟨hquote, hopen, hclose⟩, rfl⟩
    exact ⟨by simp [Quotation.isOutside, hquote], hopen, hclose, rfl, rfl⟩

/-- Splitting gives the pieces between the separators that cut. -/
theorem pieces_split (separator : Char) (front s : List Char) :
    Pieces separator (fun t => Nesting.CutsAt separator (Nesting.after {} t) separator) front s
      (Nesting.split separator (Nesting.after {} front) s) := by
  induction s generalizing front with
  | nil => exact pieces_nil_iff.mpr rfl
  | cons c s ih =>
    have hrest := ih (front ++ [c])
    rw [Nesting.after_append, Nesting.after_cons, Nesting.after_nil] at hrest
    rw [pieces_cons_iff, Nesting.split_cons]
    refine ⟨_, hrest, ?_⟩
    split
    · next h =>
      obtain rfl := h.2.2.2.1
      exact .inl ⟨rfl, h, rfl⟩
    · next h =>
      refine .inr ⟨?_, rfl⟩
      rintro ⟨rfl, hcut⟩
      exact h hcut

/-- Bars cut where nothing is open in front of them. -/
theorem pieces_splitTopLevel (s : List Char) : Pieces '|' Closed [] s (splitTopLevel '|' s) :=
  (pieces_split '|' [] s).congr fun _ _ _ =>
    Nesting.cutsAt_self_iff.trans (and_iff_right (by decide))

/-- No bar stands in a piece between bars outside quotations. -/
theorem Pieces.not_holdsBar (h : Pieces '|' Unquoted front s pieces) (hfront : Unquoted front) :
    ∀ p ∈ pieces, ¬ HoldsBar p := by
  have hbar : Unquoted ['|'] := by decide
  rintro p hp ⟨t, u, he, ht⟩
  exact h.uncut_of_mem (fun _ => hfront.append_iff)
    (fun _ hcut _ => (hcut.append_iff.mpr hbar).append_iff) p hp t u he ht

/-- A bar outside quotations that does not end a piece stands in one. -/
theorem Pieces.exists_holdsBar (h : Pieces '|' Closed front s pieces) (hfront : Unquoted front)
    {u : List Char} (he : s = t ++ '|' :: u) (ht : Unquoted (front ++ t))
    (hopen : ¬ Closed (front ++ t)) : ∃ p ∈ pieces, HoldsBar p := by
  induction h generalizing t with
  | last hs => exact ⟨_, List.mem_singleton_self _, t, u, he, hfront.append_iff.mp ht⟩
  | @next front p s pieces hp hcut _ ih =>
    rcases List.append_eq_append_iff.mp he with ⟨m, rfl, hm⟩ | ⟨m, rfl, hm⟩
    · cases m with
      | nil =>
        rw [List.append_nil] at hopen
        exact absurd hcut hopen
      | cons d m =>
        obtain ⟨rfl, rfl⟩ := List.cons.inj hm
        have hbar : Unquoted (front ++ p ++ ['|']) := hcut.unquoted.append_iff.mpr (by decide)
        have hm : front ++ (p ++ '|' :: m) = front ++ p ++ ['|'] ++ m := by simp
        obtain ⟨piece, hpiece, hholds⟩ := ih hbar rfl (hm ▸ ht) (hm ▸ hopen)
        exact ⟨piece, List.mem_cons_of_mem _ hpiece, hholds⟩
    · cases m with
      | nil =>
        rw [List.append_nil] at hcut
        exact absurd hcut hopen
      | cons d m =>
        obtain ⟨rfl, -⟩ := List.cons.inj hm
        exact ⟨_, List.mem_cons_self, t, m, rfl, hfront.append_iff.mp ht⟩

theorem holdsBar_trim_iff : HoldsBar (trim s) ↔ HoldsBar s := by
  constructor
  · rintro ⟨t, u, he, ht⟩
    obtain ⟨g, g', hg, -, hs⟩ := exists_eq_append_trim s
    refine ⟨g ++ t, u ++ g', ?_, (unquoted_of_allBlank hg).append_iff.mpr ht⟩
    rw [hs, he]
    simp
  · rintro ⟨t, u, rfl, ht⟩
    have hbar : Trimmed ['|'] := ⟨by decide, by decide⟩
    exact ⟨trimStart t, trimEnd u, hbar.trim_append_append (by simp),
      Slot.after_trimStart.trans ht⟩

theorem mem_commandsIn_iff : t ∈ commandsIn pieces ↔ t ≠ [] ∧ ∃ p ∈ pieces, trim p = t := by
  simp [commandsIn, and_comm]

/-- The commands of a pipeline are what stands between the bars in front of which nothing is open.
They are what stands between the bars outside quotations if and only if no such bar stands behind an
open parenthesis. -/
theorem splitPipeline_eq_iff (s : List Char) :
    (∃ pieces, Pieces '|' Closed [] s pieces ∧ splitPipeline s = commandsIn pieces) ∧
      ∃ pieces, Pieces '|' Unquoted [] s pieces ∧
        (splitPipeline s = commandsIn pieces ↔
          ∀ t u, s = t ++ '|' :: u → Unquoted t → Closed t) := by
  have hclosed := pieces_splitTopLevel s
  obtain ⟨pieces, hpieces⟩ := exists_pieces '|' Unquoted [] s
  refine ⟨⟨_, hclosed, rfl⟩, pieces, hpieces, fun heq t u he ht => ?_, fun h => ?_⟩
  · by_contra hopen
    obtain ⟨p, hp, hbar⟩ := hclosed.exists_holdsBar rfl he ht hopen
    have hne : trim p ≠ [] := by
      obtain ⟨t, u, htrim, -⟩ := holdsBar_trim_iff.mpr hbar
      simp [htrim]
    have hmem : trim p ∈ splitPipeline s := mem_commandsIn_iff.mpr ⟨hne, p, hp, rfl⟩
    rw [heq] at hmem
    obtain ⟨-, p', hp', htrim⟩ := mem_commandsIn_iff.mp hmem
    refine hpieces.not_holdsBar rfl p' hp' ?_
    rw [← holdsBar_trim_iff, htrim, holdsBar_trim_iff]
    exact hbar
  · have hcongr : Pieces '|' Unquoted [] s (splitTopLevel '|' s) :=
      hclosed.congr fun t u he => ⟨Closed.unquoted, h t u he⟩
    rw [hpieces.unique hcongr]
    rfl

/-- A bar behind a parenthesis that is never closed: the command behind it is not carried out. -/
theorem splitPipeline_of_open_parenthesis :
    Pieces '|' Unquoted [] "where (a = 1 | head 1".toList
        ["where (a = 1 ".toList, " head 1".toList] ∧
      splitPipeline "where (a = 1 | head 1".toList ≠
        commandsIn ["where (a = 1 ".toList, " head 1".toList] ∧
      Spl.compile "where (a = 1 | head 1".toList = .ok ⟨[]⟩ ∧
      (commandsIn ["where (a = 1 ".toList, " head 1".toList]).filterMapM Spl.readSegment? =
        .ok [.limit ⟨1, .head⟩] := by
  refine ⟨?_, by decide +kernel, by decide +kernel, by decide +kernel⟩
  exact .next (p := "where (a = 1 ".toList) (uncut_of_not_mem (by decide)) (by decide)
    (.last (uncut_of_not_mem (by decide)))

end LogLab.Query
