import LogLab.Proofs.Query.Enclosure
import LogLab.Proofs.Query.Segments

/-! # Splitting without loss

A text is cut at the separators that are enclosed in nothing, and into words at the blanks outside
its quotations. Behind such a place it reads as if it began there, whatever was closed in front
without being opened. So pieces that are joined with the separator are the text again, the words are
the text without those blanks, and neither a piece nor a word is cut once more, also where the last
one runs to the end of the text in an open quotation.
-/

namespace LogLab.Query

open Scan Text

variable {separator c : Char} {front s t w piece : List Char} {words : List (List Char)}

section Separators

/-- A separator behind `front` cuts a text: it opens and closes nothing itself, and it is enclosed
in nothing. -/
def IsCut (separator : Char) (front : List Char) : Prop :=
  Nesting.Neutral separator ∧ Unenclosed front

theorem Unenclosed.append_iff (h : Unenclosed front) :
    Unenclosed (front ++ t) ↔ Unenclosed t := by
  rw [unenclosed_iff, unenclosed_iff, Closed, Nesting.after_append, unenclosed_iff.mp h, Closed]

/-- Behind a separator that cuts, the text is cut as if it began there. -/
theorem IsCut.behind_iff (h : IsCut separator front) :
    IsCut separator (front ++ [separator] ++ t) ↔ IsCut separator t := by
  have hself : Unenclosed [separator] := unenclosed_iff.mpr (Nesting.step_of_neutral rfl h.1)
  exact and_congr_right fun _ => (h.2.append_iff.mpr hself).append_iff

theorem pieces_isCut (separator : Char) (s : List Char) :
    Pieces separator (IsCut separator) [] s (splitTopLevel separator s) :=
  (pieces_split separator [] s).congr fun _ _ _ =>
    Nesting.cutsAt_self_iff.trans (and_congr_right fun _ => unenclosed_iff.symm)

theorem splitTopLevel_of_mem (h : piece ∈ splitTopLevel separator s) :
    splitTopLevel separator piece = [piece] := by
  have huncut : Uncut separator (IsCut separator) [] piece :=
    (pieces_isCut separator s).uncut_of_mem (fun _ => Iff.rfl) (fun _ hcut _ => hcut.behind_iff)
      piece h
  exact (pieces_isCut separator piece).unique (.last huncut)

end Separators

section Words

/-- A blank outside quotations, behind `front`. -/
def IsBreak (front : List Char) (c : Char) : Prop := isBlank c = true ∧ IsOutside front c

instance : DecidablePred (IsBreak front) := fun c => by unfold IsBreak; infer_instance

def withoutBreaks (s : List Char) : List Char := charsWhere (fun front c => ¬ IsBreak front c) s

/-- All blanks of the text are in quotations. -/
def Undivided (s : List Char) : Prop := ∀ place ∈ places s, ¬ IsBreak place.1 place.2

/-- The words of a text. Each of them ends at a blank outside quotations or with the text, and only
such blanks stand between them. -/
inductive Words : (s : List Char) → (words : List (List Char)) → Prop where
  | nil : Words [] []
  | blank {c : Char} {s : List Char} {words : List (List Char)} : isBlank c = true →
      Words s words → Words (c :: s) words
  | last {w : List Char} : w ≠ [] → Undivided w → Words w [w]
  | next {w : List Char} {c : Char} {s : List Char} {words : List (List Char)} : w ≠ [] →
      Undivided w → IsBreak w c → Words s words → Words (w ++ c :: s) (w :: words)

theorem isBreak_nil_iff : IsBreak [] c ↔ isBlank c = true :=
  and_iff_left_of_imp fun h => ⟨.nil, (neutral_of_isBlank h).1.1⟩

theorem isBreak_append_iff (h : QuotesClosed front) : IsBreak (front ++ t) c ↔ IsBreak t c :=
  and_congr_right fun _ => and_congr_left fun _ => h.append_iff

theorem undivided_nil : Undivided [] := by simp [Undivided]

theorem undivided_concat : Undivided (s ++ [c]) ↔ Undivided s ∧ ¬ IsBreak s c := by
  simp [Undivided, or_imp, forall_and]

theorem withoutBreaks_append (h : QuotesClosed s) :
    withoutBreaks (s ++ t) = withoutBreaks s ++ withoutBreaks t :=
  charsWhere_append fun _ _ => not_congr (isBreak_append_iff h)

theorem withoutBreaks_cons (h : isBlank c = true) :
    withoutBreaks (c :: s) = withoutBreaks s := by
  have hbreak : IsBreak [] c := isBreak_nil_iff.mpr h
  have hc : withoutBreaks [c] = [] :=
    (charsWhere_concat (s := [])).trans (if_neg (not_not_intro hbreak))
  have hclosed : QuotesClosed [c] := .char hbreak.2.2 .nil
  rw [← List.singleton_append, withoutBreaks_append hclosed, hc, List.nil_append]

theorem Undivided.withoutBreaks_eq (h : Undivided s) : withoutBreaks s = s :=
  charsWhere_eq_self h

namespace Words

theorem flatten_eq (h : Words s words) : words.flatten = withoutBreaks s := by
  induction h with
  | nil => rfl
  | blank hc _ ih => rw [ih, withoutBreaks_cons hc]
  | last _ hw => rw [List.flatten_singleton, hw.withoutBreaks_eq]
  | next _ hw hbreak _ ih =>
    rw [List.flatten_cons, ih, withoutBreaks_append hbreak.2.1, hw.withoutBreaks_eq,
      withoutBreaks_cons hbreak.1]

theorem of_mem (h : Words s words) : ∀ w ∈ words, w ≠ [] ∧ Undivided w := by
  induction h with
  | nil => simp
  | blank _ _ ih => exact ih
  | last hne hw => simpa using ⟨hne, hw⟩
  | next hne hw _ _ ih => exact List.forall_mem_cons.mpr ⟨⟨hne, hw⟩, ih⟩

/-- A text with all its blanks in quotations is one word. -/
theorem eq_singleton (h : Words s words) (hne : s ≠ []) (hs : Undivided s) : words = [s] := by
  cases h with
  | nil => exact absurd rfl hne
  | @blank c s _ hc =>
    exact absurd (isBreak_nil_iff.mpr hc) (hs ([], c) (by simp [places_cons]))
  | last => rfl
  | @next w c s _ _ _ hbreak =>
    exact absurd hbreak (hs (w, c) (by simp [places_append, places_cons]))

end Words

theorem splitBlanks_cons : splitBlanks (Quotation.after none front) (c :: s) =
    if IsBreak front c then [] :: splitBlanks none s
    else consFirst c (splitBlanks (Quotation.after none (front ++ [c])) s) := by
  have hbreak : (Quotation.isOutside (Quotation.after none front) c && isBlank c) = true ↔
      IsBreak front c := by
    rw [Bool.and_eq_true, ← isOutside_iff, IsBreak, and_comm]
  rw [splitBlanks, Quotation.after_append, Quotation.after_cons, Quotation.after_nil]
  by_cases h : IsBreak front c
  · have hclosed : Quotation.after none front = none := quotesClosed_iff.mp h.2.1
    rw [if_pos (hbreak.mpr h), if_pos h, hclosed]
  · rw [if_neg (mt hbreak.mp h), if_neg h]

theorem modifyHead_consFirst {pieces : List (List Char)} (h : pieces ≠ []) :
    (consFirst c pieces).modifyHead (front ++ ·) = pieces.modifyHead (front ++ [c] ++ ·) := by
  obtain ⟨piece, pieces, rfl⟩ := List.exists_cons_of_ne_nil h
  simp [consFirst]

@[simp] theorem modifyHead_self {pieces : List (List Char)} :
    pieces.modifyHead (fun piece => piece) = pieces :=
  congrFun List.modifyHead_id pieces

/-- The words of a text that begins with `front`, in which no word ends. -/
theorem words_splitBlanks (hfront : Undivided front) : Words (front ++ s)
    (((splitBlanks (Quotation.after none front) s).modifyHead (front ++ ·)).filter
      fun word => !word.isEmpty) := by
  -- On the rest of the text: each of its characters ends the word that is open or goes on with it.
  induction s generalizing front with
  | nil =>
    cases front with
    | nil => exact .nil
    | cons d front => simpa [splitBlanks] using Words.last (List.cons_ne_nil d front) hfront
  | cons c s ih =>
    rw [splitBlanks_cons]
    split
    · next hbreak =>
      have hrest : Words s ((splitBlanks none s).filter fun word => !word.isEmpty) := by
        simpa using ih undivided_nil
      cases front with
      | nil => simpa using Words.blank hbreak.1 hrest
      | cons d front =>
        simpa using Words.next (List.cons_ne_nil d front) hfront hbreak hrest
    · next hbreak =>
      have hrest := ih (undivided_concat.mpr ⟨hfront, hbreak⟩)
      rw [modifyHead_consFirst splitBlanks_ne_nil]
      simpa using hrest

theorem words_splitWords (s : List Char) : Words s (splitWords s) := by
  simpa [splitWords] using words_splitBlanks (s := s) undivided_nil

theorem splitWords_of_mem (h : w ∈ splitWords s) : w ≠ [] ∧ splitWords w = [w] := by
  obtain ⟨hne, hw⟩ := (words_splitWords s).of_mem w h
  exact ⟨hne, (words_splitWords w).eq_singleton hne hw⟩

end Words

/-- Splitting loses nothing, and it cuts where it should and nowhere else. The pieces of a text are
those between the separators enclosed in nothing. Joined with the separator they are the text again,
and none of them is cut once more. The words of a text are those between its blanks outside
quotations. Put together they are the text without these blanks, none of them is empty, and none is
cut once more. -/
theorem splitting_exact (s : List Char) :
    (∀ separator, Pieces separator (IsCut separator) [] s (splitTopLevel separator s) ∧
      [separator].intercalate (splitTopLevel separator s) = s ∧
      ∀ piece ∈ splitTopLevel separator s, splitTopLevel separator piece = [piece]) ∧
    Words s (splitWords s) ∧ (splitWords s).flatten = withoutBreaks s ∧
      ∀ word ∈ splitWords s, word ≠ [] ∧ splitWords word = [word] := by
  refine ⟨fun separator => ?_, words_splitWords s, (words_splitWords s).flatten_eq,
    fun word => splitWords_of_mem⟩
  have hpieces := pieces_isCut separator s
  exact ⟨hpieces, hpieces.intercalate_eq, fun piece => splitTopLevel_of_mem⟩

/-- A text with a parenthesis that was not opened, separators in a quotation and in parentheses,
and a quotation that is not closed. -/
def enclosingText : List Char := "a) 'x→ y'→(b→ c)→ \"z→ d".toList

theorem splitting_exact_of_open_quotation :
    splitTopLevel '→' enclosingText =
        ["a) 'x→ y'".toList, "(b→ c)".toList, " \"z→ d".toList] ∧
      ['→'].intercalate (splitTopLevel '→' enclosingText) = enclosingText ∧
      splitTopLevel '→' " \"z→ d".toList = [" \"z→ d".toList] ∧
      splitWords enclosingText =
        ["a)".toList, "'x→ y'→(b→".toList, "c)→".toList, "\"z→ d".toList] ∧
      (splitWords enclosingText).flatten = "a)'x→ y'→(b→c)→\"z→ d".toList ∧
      "\"z→ d".toList ≠ [] ∧ splitWords "\"z→ d".toList = ["\"z→ d".toList] := by
  obtain ⟨hseparators, -, hflatten, hwords⟩ := splitting_exact enclosingText
  obtain ⟨-, hjoin, hpieces⟩ := hseparators '→'
  have hsplit : splitTopLevel '→' enclosingText =
      ["a) 'x→ y'".toList, "(b→ c)".toList, " \"z→ d".toList] := by decide +kernel
  have hword : splitWords enclosingText =
      ["a)".toList, "'x→ y'→(b→".toList, "c)→".toList, "\"z→ d".toList] := by decide +kernel
  refine ⟨hsplit, hjoin, hpieces _ ?_, hword, hflatten.trans (by decide +kernel), hwords _ ?_⟩
  · rw [hsplit]
    decide
  · rw [hword]
    decide

end LogLab.Query
