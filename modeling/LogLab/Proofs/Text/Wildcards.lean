import LogLab.Condition
import Mathlib.Data.List.Forall2
import Mathlib.Data.List.Infix
import Mathlib.Logic.Relation

/-! # Texts cut by patterns

A pattern matches a text if the text can be cut into pieces, one for each character of the pattern
and in their order. A match that goes back to the latest `%` only finds such a cut if there is one,
since whatever an earlier `%` could cover in its place, the latest one can cover as well.
-/

namespace LogLab.Like

/-- A piece of text that a pattern character stands for. -/
def Fits (p : Char) (piece : List Char) : Prop :=
  if p = '%' then True else if p = '_' then piece.length = 1 else piece = [p]

/-- A text that can be cut into pieces for the characters of a pattern. -/
def Cuts (pattern text : List Char) : Prop :=
  ∃ pieces, List.Forall₂ Fits pattern pieces ∧ pieces.flatten = text

section Cuts

variable {p t : Char} {pattern ps run text rest piece : List Char}

theorem fits_wildcard : Fits '%' piece := by
  simp [Fits]

theorem fits_iff (hp : p ≠ '%') : Fits p piece ↔ ∃ t, piece = [t] ∧ standsFor p t = true := by
  unfold Fits standsFor
  rw [if_neg hp]
  by_cases h : p = '_'
  · subst h
    simp only [if_true, beq_self_eq_true, Bool.true_or, and_true, List.length_eq_one_iff]
  · rw [if_neg h]
    simp only [beq_eq_false_iff_ne.mpr h, Bool.false_or, beq_iff_eq, exists_eq_right']

theorem cuts_nil : Cuts [] text ↔ text = [] := by
  simp [Cuts, eq_comm]

theorem cuts_cons : Cuts (p :: ps) text ↔
    ∃ piece rest, Fits p piece ∧ Cuts ps rest ∧ piece ++ rest = text := by
  constructor
  · rintro ⟨_, h, rfl⟩
    obtain ⟨piece, pieces, hpiece, hpieces, rfl⟩ := List.forall₂_cons_left_iff.mp h
    exact ⟨piece, pieces.flatten, hpiece, ⟨pieces, hpieces, rfl⟩, rfl⟩
  · rintro ⟨piece, _, hpiece, ⟨pieces, hpieces, rfl⟩, rfl⟩
    exact ⟨piece :: pieces, .cons hpiece hpieces, rfl⟩

/-- A `%` leaves some end of the text to the pattern behind it. -/
theorem cuts_wildcard : Cuts ('%' :: ps) text ↔ ∃ rest, rest <:+ text ∧ Cuts ps rest := by
  rw [cuts_cons]
  constructor
  · rintro ⟨piece, rest, -, hrest, h⟩
    exact ⟨rest, ⟨piece, h⟩, hrest⟩
  · rintro ⟨rest, ⟨piece, h⟩, hrest⟩
    exact ⟨piece, rest, fits_wildcard, hrest, h⟩

/-- A `%` covers nothing or some first character. -/
theorem cuts_wildcard_or :
    Cuts ('%' :: ps) text ↔ Cuts ps text ∨ text ≠ [] ∧ Cuts ('%' :: ps) text.tail := by
  cases text with
  | nil => simp [cuts_wildcard]
  | cons t text =>
    simp [cuts_wildcard, List.suffix_cons_iff, or_and_right, exists_or]

theorem Cuts.of_suffix (h : Cuts ('%' :: ps) rest) (hrest : rest <:+ text) :
    Cuts ('%' :: ps) text := by
  obtain ⟨behind, hbehind, hcuts⟩ := cuts_wildcard.mp h
  exact cuts_wildcard.mpr ⟨behind, hbehind.trans hrest, hcuts⟩

theorem cuts_read (hp : p ≠ '%') :
    Cuts (p :: ps) (t :: text) ↔ standsFor p t = true ∧ Cuts ps text := by
  rw [cuts_cons]
  constructor
  · rintro ⟨_, rest, hfits, hrest, h⟩
    obtain ⟨s, rfl, hs⟩ := (fits_iff hp).mp hfits
    obtain ⟨rfl, rfl⟩ := List.cons.inj h
    exact ⟨hs, hrest⟩
  · rintro ⟨hs, hrest⟩
    exact ⟨[t], text, (fits_iff hp).mpr ⟨t, rfl, hs⟩, hrest, rfl⟩

/-- A run without `%` takes as many characters as it has. -/
theorem Cuts.exists_append (h : Cuts (run ++ ps) text) (hrun : '%' ∉ run) :
    ∃ front rest, text = front ++ rest ∧ front.length = run.length ∧ Cuts ps rest := by
  induction run generalizing text with
  | nil => exact ⟨[], text, rfl, rfl, h⟩
  | cons p run ih =>
    rw [List.mem_cons, not_or] at hrun
    obtain ⟨piece, rest, hfits, hrest, rfl⟩ := cuts_cons.mp h
    obtain ⟨t, rfl, -⟩ := (fits_iff (Ne.symm hrun.1)).mp hfits
    obtain ⟨front, rest, rfl, hlen, hcuts⟩ := ih hrest hrun.2
    exact ⟨t :: front, rest, rfl, congrArg (· + 1) hlen, hcuts⟩

theorem cuts_empty : Cuts pattern [] ↔ (pattern.all (· == '%')) = true := by
  induction pattern with
  | nil => simp [cuts_nil]
  | cons p pattern ih =>
    by_cases hp : p = '%'
    · subst hp
      simp [cuts_wildcard, ih]
    · simp only [List.all_cons, beq_eq_false_iff_ne.mpr hp, Bool.false_and, Bool.false_eq_true,
        iff_false]
      intro (h : Cuts ([p] ++ pattern) [])
      obtain ⟨front, rest, hnil, hlen, -⟩ := h.exists_append (by simpa using Ne.symm hp)
      rw [(List.append_eq_nil_iff.mp hnil.symm).1] at hlen
      cases hlen

theorem Cursor.Stuck.not_cuts (h : Cursor.Stuck pattern t) : ¬Cuts pattern (t :: text) := by
  cases pattern with
  | nil => simp [cuts_nil]
  | cons p ps =>
    obtain ⟨hp, hfits⟩ := h p rfl
    simp [cuts_read hp, hfits]

end Cuts

namespace Cursor

variable {c next start : Cursor} {w : Wildcard} {verdict : Bool}

/-- Since the latest `%` as many characters of the text were read as of the pattern, and no other
`%` was among them. -/
def FollowsOn (c : Cursor) (w : Wildcard) : Prop :=
  ∃ run front, w.pattern = run ++ c.pattern ∧ w.text = front ++ c.text ∧
    front.length = run.length ∧ '%' ∉ run

/-- What the match can still come to: a cut from where it stands, or one for which the latest `%`
covers more. -/
def Open (c : Cursor) : Prop :=
  Cuts c.pattern c.text ∨ ∃ w ∈ c.latest, w.text ≠ [] ∧ Cuts ('%' :: w.pattern) w.text.tail

/-- What holds of every cursor that a match comes to. -/
def Sound (c : Cursor) : Prop :=
  ∀ w ∈ c.latest, c.FollowsOn w

/-- Where the latest `%` could cover more, the pattern that is left fits a later end of the text. -/
theorem FollowsOn.exists_suffix (h : c.FollowsOn w) (hw : w.text ≠ [])
    (hcuts : Cuts ('%' :: w.pattern) w.text.tail) :
    ∃ rest, rest <:+ c.text ∧ rest.length < c.text.length ∧ Cuts c.pattern rest := by
  obtain ⟨run, front, hpattern, htext, hlen, hrun⟩ := h
  obtain ⟨behind, hbehind, hcuts⟩ := cuts_wildcard.mp hcuts
  rw [hpattern] at hcuts
  obtain ⟨front', rest, rfl, hlen', hrest⟩ := hcuts.exists_append hrun
  have hsuffix : rest <:+ w.text :=
    (List.suffix_append front' rest).trans (hbehind.trans (List.tail_suffix _))
  have hlt : rest.length < c.text.length := by
    have hle := hbehind.length_le
    have hpos := List.length_pos_iff.mpr hw
    rw [List.length_tail, List.length_append, htext, List.length_append] at hle
    rw [htext, List.length_append] at hpos
    omega
  have hc : c.text <:+ w.text := htext ▸ List.suffix_append front c.text
  exact ⟨rest, List.suffix_of_suffix_length_le hsuffix hc hlt.le, hlt, hrest⟩

/-- Right behind a `%` the match can still come to all that the pattern with the `%` can. -/
theorem open_behind_wildcard {pattern text : List Char} :
    Open ⟨pattern, text, some ⟨pattern, text⟩⟩ ↔ Cuts ('%' :: pattern) text := by
  rw [cuts_wildcard_or]
  simp [Open]

theorem Effect.sound (he : Effect c (.goOn next)) (h : c.Sound) : next.Sound := by
  cases he with
  | passed =>
    rintro _ ⟨⟩
    exact ⟨[], [], rfl, rfl, rfl, List.not_mem_nil⟩
  | @read p t _ _ _ hp _ =>
    intro w hw
    obtain ⟨run, front, hpattern, htext, hlen, hrun⟩ := h w hw
    refine ⟨run ++ [p], front ++ [t], by simp [hpattern], by simp [htext], by simp [hlen], ?_⟩
    simp [hrun, Ne.symm hp]
  | retried _ =>
    rintro _ ⟨⟩
    exact ⟨[], [], rfl, rfl, rfl, List.not_mem_nil⟩

/-- A turn keeps what the match can still come to. A new `%` makes the one before it dispensable:
whatever that one could cover in addition, the new one can cover. -/
theorem Effect.open_iff (he : Effect c (.goOn next)) (h : c.Sound) : c.Open ↔ next.Open := by
  cases he with
  | @passed pattern text t latest =>
    rw [open_behind_wildcard]
    refine ⟨?_, .inl⟩
    rintro (hcuts | ⟨w, hw, hne, hcuts⟩)
    · exact hcuts
    · obtain ⟨rest, hrest, -, hcuts⟩ := (h w hw).exists_suffix hne hcuts
      exact hcuts.of_suffix hrest
  | read hp hfits => simp only [Open, cuts_read hp, hfits, true_and]
  | @retried pattern text t w hstuck =>
    obtain ⟨run, front, -, htext, -⟩ := h w rfl
    have hne : w.text ≠ [] := by simp [htext]
    rw [open_behind_wildcard]
    simp [Open, hstuck.not_cuts, hne]

theorem Effect.verdict_iff (he : Effect c (.verdict verdict)) (h : c.Sound) :
    verdict = true ↔ c.Open := by
  cases he with
  | finished =>
    refine cuts_empty.symm.trans ⟨.inl, ?_⟩
    rintro (hcuts | ⟨w, hw, hne, hcuts⟩)
    · exact hcuts
    · -- All of the text was read, so that there is nothing left that the `%` could cover.
      obtain ⟨rest, -, hlt, -⟩ := (h w hw).exists_suffix hne hcuts
      cases hlt
  | refused hstuck => simp [Open, hstuck.not_cuts]

theorem Sound.run_iff (h : c.Sound) : c.run = true ↔ c.Open := by
  fun_induction run c with
  | case1 c verdict hturn => exact (hturn ▸ effect_turn c).verdict_iff h
  | case2 c next hturn ih =>
    have he : Effect c (.goOn next) := hturn ▸ effect_turn c
    exact (ih (he.sound h)).trans (he.open_iff h).symm

def Reaches : Cursor → Cursor → Prop :=
  Relation.ReflTransGen fun c next => c.turn = .goOn next

/-- The turns come to an end, and the last one gives the verdict. -/
theorem exists_last (c : Cursor) : ∃ last, Reaches c last ∧ last.turn = .verdict c.run := by
  fun_induction run c with
  | case1 c verdict hturn => exact ⟨c, .refl, hturn⟩
  | case2 c next hturn ih =>
    obtain ⟨last, hlast, hverdict⟩ := ih
    exact ⟨last, .head hturn hlast, hverdict⟩

/-- What is left of the pattern and of the text is an end of it, also behind the latest `%`, so that
nothing is read past the end. As long as text is left, there is text for the `%` to cover. -/
structure Within (start c : Cursor) : Prop where
  pattern : c.pattern <:+ start.pattern
  text : c.text <:+ start.text
  latest : ∀ w ∈ c.latest, w.pattern <:+ start.pattern ∧ w.text <:+ start.text ∧ c.text <:+ w.text

theorem Effect.within (he : Effect c (.goOn next)) (h : Within start c) : Within start next := by
  cases he with
  | passed =>
    have hpattern := (List.suffix_cons _ _).trans h.pattern
    refine ⟨hpattern, h.text, ?_⟩
    rintro _ ⟨⟩
    exact ⟨hpattern, h.text, List.suffix_rfl⟩
  | read _ _ =>
    refine ⟨(List.suffix_cons _ _).trans h.pattern, (List.suffix_cons _ _).trans h.text, ?_⟩
    intro w hw
    obtain ⟨hpattern, htext, hc⟩ := h.latest w hw
    exact ⟨hpattern, htext, (List.suffix_cons _ _).trans hc⟩
  | @retried _ _ _ w _ =>
    obtain ⟨hpattern, htext, -⟩ := h.latest w rfl
    have htail := (List.tail_suffix w.text).trans htext
    refine ⟨hpattern, htail, ?_⟩
    rintro _ ⟨⟩
    exact ⟨hpattern, htail, List.suffix_rfl⟩

theorem Reaches.within (h : Reaches start c) (hlatest : start.latest = none) :
    Within start c := by
  induction h with
  | refl => exact ⟨List.suffix_rfl, List.suffix_rfl, by simp [hlatest]⟩
  | @tail c next _ hturn ih => exact Effect.within (hturn ▸ effect_turn c) ih

end Cursor

theorem isMatch_iff {pattern text : List Char} :
    isMatch pattern text = true ↔ Cuts pattern text := by
  have hsound : Cursor.Sound { pattern, text } := nofun
  exact hsound.run_iff.trans (by simp [Cursor.Open])

end LogLab.Like

namespace LogLab

open Like

/-- A pattern matches a text exactly if the lower case of the text can be cut into pieces for the
characters of the lower case of the pattern. The turns that decide it come to an end for every text
and pattern, and none of them reads past the end of either. -/
theorem likeMatch_iff_cuts (text pattern : String) :
    let start : Cursor :=
      { pattern := Text.lower pattern.toList, text := Text.lower text.toList }
    (likeMatch text pattern = true ↔
        ∃ pieces, List.Forall₂ Fits start.pattern pieces ∧ pieces.flatten = start.text) ∧
      (∃ last, start.Reaches last ∧ last.turn = .verdict (likeMatch text pattern)) ∧
      ∀ c, start.Reaches c → Cursor.Within start c :=
  ⟨isMatch_iff, Cursor.exists_last _, fun _ h => h.within rfl⟩

end LogLab
