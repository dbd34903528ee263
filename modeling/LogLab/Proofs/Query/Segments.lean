import LogLab.Proofs.Query.Composition
import LogLab.Proofs.Query.Sections

/-! # Commands between bars

Commands that are joined by bars are found again, each as its word and its arguments. The arguments
of a search are cut at blanks and those of a grouping at the word in front of the field.
-/

namespace LogLab.Query

open Scan Text

variable {s t g g' args : List Char}

/-- A command that stands between bars as it is. -/
structure IsSegment (s : List Char) : Prop where
  unbroken : Unbroken '|' s
  trimmed : Trimmed s
  ne_nil : s ≠ []

theorem IsSegment.between (hs : IsSegment s) (hg : Unbroken '|' g) (ht : IsSegment t) :
    IsSegment (s ++ (g ++ t)) :=
  ⟨hs.unbroken.append (hg.append ht.unbroken), hs.trimmed.between hs.ne_nil ht.trimmed ht.ne_nil,
    List.append_ne_nil_of_left_ne_nil hs.ne_nil _⟩

theorem IsSegment.append (hs : IsSegment s) (ht : IsSegment t) : IsSegment (s ++ t) :=
  hs.between (g := []) ⟨rfl, rfl⟩ ht

theorem isSegment_of_isName (hs : IsName s) : IsSegment s :=
  ⟨.of_words (isNameChar_of_mem_signs '|' (by decide)) rfl fun c hc => .inl (hs.2 c hc),
    hs.trimmed, hs.1⟩

structure QuotedValue where
  quote : Char
  value : List Char
  isQuote : isQuote quote = true
  free : quote ∉ value

structure QuotedTest (reserved : List String) where
  test : Test reserved
  value : QuotedValue

namespace QuotedValue

variable (v : QuotedValue)

def literal {reserved : List String} : Literal reserved :=
  .quoted v.quote v.value v.isQuote v.free

theorem isSegment : IsSegment (quotation v.quote v.value) := by
  refine ⟨unbroken_quotation v.isQuote v.free ?_, trimmed_quotation v.isQuote,
    List.cons_ne_nil _ _⟩
  intro h
  cases h ▸ v.isQuote

end QuotedValue

namespace QuotedTest

variable {reserved : List String} (p : QuotedTest reserved)

def term : Term reserved :=
  ⟨p.test, p.value.literal⟩

theorem isSegment : IsSegment p.term.chars :=
  ⟨(p.test.unbroken (isNameChar_of_mem_signs '|' (by decide)) rfl (by decide)).append
    p.value.isSegment.unbroken, p.term.trimmed, p.term.chars_ne_nil⟩

end QuotedTest

theorem Order.isSegment {reserved : List String} (o : Order reserved) : IsSegment o.chars := by
  have hfield := isSegment_of_isName o.field.isName
  unfold chars directionChars
  cases o.direction with
  | none => simpa using hfield
  | some d =>
    exact hfield.between (.of_blanks d.before.allBlank)
      (isSegment_of_isName (d.word.spelled.isName (isWord_direction _)))

theorem isSegment_quotation (hs : '"' ∉ s) : IsSegment (quotation '"' s) :=
  QuotedValue.isSegment ⟨'"', s, rfl, hs⟩

theorem unbroken_space : Unbroken '|' [' '] :=
  ⟨by decide, by decide⟩

theorem isSegment_append (word : List Char) (hw : IsName word)
    (ha : IsSegment args) : IsSegment (word ++ ' ' :: args) :=
  (isSegment_of_isName hw).between unbroken_space ha

/-- Things that are written with separators between them. -/
structure Joined (σ ι : Type) where
  first : ι
  others : List (σ × ι)

namespace Joined

variable {α σ ι : Type} {sep : σ → List Char} {item : ι → List Char} (j : Joined σ ι)

def chars (sep : σ → List Char) (item : ι → List Char) : List Char :=
  item j.first ++ j.others.flatMap fun other => sep other.1 ++ item other.2

def items : List ι :=
  j.first :: j.others.map Prod.snd

def single (i : ι) : Joined σ ι :=
  ⟨i, []⟩

def cons (i : ι) (x : σ) (j : Joined σ ι) : Joined σ ι :=
  ⟨i, (x, j.first) :: j.others⟩

@[induction_eliminator]
theorem ind {motive : Joined σ ι → Prop} (single : ∀ i, motive (single i))
    (cons : ∀ i x j, motive j → motive (cons i x j)) (j : Joined σ ι) : motive j := by
  obtain ⟨first, others⟩ := j
  induction others generalizing first with
  | nil => exact single first
  | cons other others ih => exact cons first other.1 ⟨other.2, others⟩ (ih other.2)

@[simp] theorem chars_single (i : ι) : (single i : Joined σ ι).chars sep item = item i :=
  List.append_nil _

@[simp] theorem chars_cons (i : ι) (x : σ) :
    (cons i x j).chars sep item = item i ++ (sep x ++ j.chars sep item) := by
  simp [chars, cons]

@[simp] theorem items_single (i : ι) : (single i : Joined σ ι).items = [i] := rfl
@[simp] theorem items_cons (i : ι) (x : σ) : (cons i x j).items = i :: j.items := rfl

theorem isSegment (hsep : ∀ x, Unbroken '|' (sep x)) (hitem : ∀ x, IsSegment (item x)) :
    IsSegment (j.chars sep item) := by
  induction j with
  | single i => simpa using hitem i
  | cons i x j ih => simpa using (hitem i).between (hsep x) ih

/-- No phrase begins in what is joined if none begins in the items and the separators. -/
theorem passes {phrases : List (α × List String)} (hsep : ∀ x t, Passes phrases (sep x) t)
    (hstops : ∀ x t, Stops isNameChar (sep x ++ t))
    (hitem : ∀ x t, Stops isNameChar t → Passes phrases (item x) t) (ht : Stops isNameChar t) :
    Passes phrases (j.chars sep item) t := by
  induction j with
  | single i => simpa using hitem i t ht
  | cons i x j ih =>
    rw [chars_cons]
    refine (hitem i _ ?_).append ((hsep x _).append ih)
    rw [List.append_assoc]
    exact hstops x _

end Joined

def joinBars : List (List Char) → List Char
  | [] => []
  | [s] => s
  | s :: s' :: ss => s ++ (" | ".toList ++ joinBars (s' :: ss))

theorem splitPipeline_blank_append (hg : AllBlank g) :
    splitPipeline (g ++ t) = splitPipeline t := by
  rw [splitPipeline, splitPipeline, (Unbroken.of_blanks hg).splitTopLevel_append,
    map_trim_modifyHead hg]

theorem Unbroken.splitPipeline_append (hs : Unbroken '|' s) (hne : trim s ≠ []) (hg : AllBlank g) :
    splitPipeline (s ++ (g ++ '|' :: t)) = trim s :: splitPipeline t := by
  have hsplit := (hs.append (Unbroken.of_blanks hg)).splitTopLevel_cons (t := t)
    (by decide) (by decide)
  rw [List.append_assoc] at hsplit
  rw [splitPipeline, hsplit, List.map_cons, trim_append_blank hg, List.filter_cons_of_pos,
    splitPipeline]
  simpa using hne

/-- Commands with bars between them are split into these commands, trimmed. -/
theorem splitPipeline_joinBars_trim {ss : List (List Char)}
    (hss : ∀ s ∈ ss, Unbroken '|' s ∧ trim s ≠ []) :
    splitPipeline (joinBars ss) = ss.map trim := by
  induction ss with
  | nil => rfl
  | cons s ss ih =>
    rw [List.forall_mem_cons] at hss
    obtain ⟨⟨hs, hne⟩, hss⟩ := hss
    cases ss with
    | nil =>
      rw [joinBars, splitPipeline, hs.split, List.map_singleton,
        List.filter_cons_of_pos (by simpa using hne), List.filter_nil]
    | cons s' ss =>
      have h := hs.splitPipeline_append (g := [' ']) (t := ' ' :: joinBars (s' :: ss)) hne
        (by decide)
      exact h.trans (congrArg (trim s :: ·)
        ((splitPipeline_blank_append (g := [' ']) (by decide)).trans (ih hss)))

theorem splitPipeline_joinBars {ss : List (List Char)} (hss : ∀ s ∈ ss, IsSegment s) :
    splitPipeline (joinBars ss) = ss := by
  have htrim : ∀ s ∈ ss, trim s = id s := fun s hs => (hss s hs).trimmed.trim_eq
  have h := splitPipeline_joinBars_trim fun s hs =>
    ⟨(hss s hs).unbroken, (htrim s hs).symm ▸ (hss s hs).ne_nil⟩
  rw [h, List.map_congr_left htrim, List.map_id]

/-- A command is its word in lower case and its arguments, trimmed. -/
theorem command_append_args {word : List Char} (hw : IsName word) :
    command (word ++ ' ' :: args) = (asciiLower word, trim args) := by
  have hstop : Stops isNameChar (trimEnd (' ' :: args)) :=
    Stops.trimEnd (stops_cons.mpr (isNameChar_of_mem_signs ' ' (by decide)))
  have hargs : trim (trimEnd (' ' :: args)) = trim args := by
    obtain ⟨g, hg, he⟩ := exists_eq_trimEnd_append (' ' :: args)
    calc trim (trimEnd (' ' :: args)) = trim (trimEnd (' ' :: args) ++ g) :=
          (trim_append_blank hg).symm
      _ = trim (' ' :: args) := by rw [← he]
      _ = trim args := trim_blank_append (g := [' ']) (by decide)
  rw [command, hw.trimmed.trim_append hw.1, name_append hw hstop]
  simp only [hargs]

theorem command_append_segment {word : List Char} (hw : IsName word) (ha : IsSegment args) :
    command (word ++ ' ' :: args) = (asciiLower word, args) := by
  rw [command_append_args hw, ha.trimmed.trim_eq]

theorem command_append (word : List Char) (hw : IsName word) (hl : asciiLower word = word)
    (ha : IsSegment args) : command (word ++ ' ' :: args) = (word, args) := by
  rw [command_append_segment hw ha, hl]

theorem command_of_isName {word : List Char} (hw : IsName word) :
    command word = (asciiLower word, []) := by
  rw [command, hw.trimmed.trim_eq, name_eq hw]
  rfl

theorem splitBlanks_ne_nil {q : Quotation} : splitBlanks q s ≠ [] := by
  cases s with
  | nil => simp [splitBlanks]
  | cons c s =>
    rw [splitBlanks]
    split
    · simp
    · unfold consFirst; split <;> simp

theorem consFirst_modifyHead {c : Char} {pieces : List (List Char)} (h : pieces ≠ []) :
    consFirst c (pieces.modifyHead (s ++ ·)) = pieces.modifyHead (c :: s ++ ·) := by
  obtain ⟨piece, pieces, rfl⟩ := List.exists_cons_of_ne_nil h
  rfl

/-- A text that no blank cuts, so that it is the front of the first piece. -/
def IsWhole (s : List Char) : Prop :=
  ∀ t, splitBlanks none (s ++ t) = (splitBlanks none t).modifyHead (s ++ ·)

theorem isWhole_of_isPlain (hs : ∀ c ∈ s, isPlain c = true) : IsWhole s := fun t => by
  induction s with
  | nil => exact (congrFun List.modifyHead_id (splitBlanks none t)).symm
  | cons c s ih =>
    rw [List.forall_mem_cons, isPlain_iff] at hs
    have hstep : Quotation.step none c = none :=
      Quotation.step_of_isOutside (by simp [Quotation.isOutside, hs.1.2])
    rw [List.cons_append, splitBlanks, hs.1.1, Bool.and_false, if_neg Bool.false_ne_true, hstep,
      ih hs.2, consFirst_modifyHead splitBlanks_ne_nil]

theorem splitBlanks_quotation {quote : Char} (hs : quote ∉ s) :
    splitBlanks (some quote) (s ++ quote :: t) =
      (splitBlanks none t).modifyHead (s ++ [quote] ++ ·) := by
  induction s with
  | nil =>
    obtain ⟨piece, pieces, he⟩ := List.exists_cons_of_ne_nil
      (splitBlanks_ne_nil (q := none) (s := t))
    rw [List.nil_append, splitBlanks, Quotation.step, if_pos rfl, he]
    rfl
  | cons c s ih =>
    rw [List.mem_cons, not_or] at hs
    have hstep : Quotation.step (some quote) c = some quote := if_neg (Ne.symm hs.1)
    rw [List.cons_append, splitBlanks, hstep, ih hs.2, consFirst_modifyHead splitBlanks_ne_nil]
    rfl

theorem QuotedValue.isWhole (v : QuotedValue) : IsWhole (quotation v.quote v.value) := fun t => by
  have hopen : Quotation.isOutside none v.quote = false := by
    simp [Quotation.isOutside, v.isQuote]
  have hstep : Quotation.step none v.quote = some v.quote := if_pos v.isQuote
  rw [quotation, List.cons_append, List.append_assoc, List.singleton_append, splitBlanks, hopen,
    Bool.false_and, if_neg Bool.false_ne_true, hstep, splitBlanks_quotation v.free,
    consFirst_modifyHead splitBlanks_ne_nil]

namespace IsWhole

variable (hs : IsWhole s)

include hs

theorem append (ht : IsWhole t) : IsWhole (s ++ t) := fun r => by
  rw [List.append_assoc, hs, ht, List.modifyHead_modifyHead]
  simp [Function.comp_def]

theorem splitBlanks_eq : splitBlanks none s = [s] := by
  simpa [splitBlanks] using hs []

theorem splitBlanks_space : splitBlanks none (s ++ ' ' :: t) = s :: splitBlanks none t := by
  rw [hs, splitBlanks, if_pos (by decide)]
  simp

end IsWhole

abbrev byPhrase : List (Unit × List String) := [((), ["by"])]

theorem wellFormed_byPhrase : WellFormed byPhrase :=
  ⟨by decide, by decide, by decide⟩

def byPart (hg : IsName g) (hf : ¬ Spelled "by" g) : Part byPhrase where
  phrase := ()
  words := ["by"]
  mem := by simp
  heading := .single "by"
  content := g
  ne_nil := hg.1
  trimmed := hg.trimmed
  passes := fun ht => passes_name wellFormed_byPhrase hg (fun phrase hp word hw => by
    obtain rfl := List.mem_singleton.mp hp
    obtain rfl := Option.mem_some.mp hw
    exact hf) (stops_isNameChar_of_isPlain ht)

/-- The word `by` between spaces cuts a text. -/
theorem splitPhrase_by (hs : ∀ t, Stops isNameChar t → Passes byPhrase s t) (hg : IsName g)
    (hf : ¬ Spelled "by" g) :
    splitPhrase ["by"] (s ++ (" by ".toList ++ g)) = [s ++ [' '], ' ' :: g] := by
  have hchars : partsChars .none [byPart hg hf] = " by ".toList ++ g :=
    congrArg (" by ".toList ++ ·) (List.append_nil g)
  have hcut := cutAtPhrases_append_parts wellFormed_byPhrase
    (hs _ (stops_isNameChar_of_isPlain (stops_partsChars .none [byPart hg hf])))
  have hbody : [' '] ++ (g ++ []) = ' ' :: g := by simp
  rw [← hchars, splitPhrase, hcut, ← hbody]
  rfl

theorem countItems_eq_nil (hs : s.dropWhile Spl.isItemGap = []) : Spl.countItems s = [] := by
  rw [Spl.countItems]
  split
  · rfl
  · next h => rw [hs] at h; cases h

/-- A count is taken from the front of the computed columns. -/
theorem countItems_eq_cons {c : Char} {a : Aggregate}
    (hs : s.dropWhile Spl.isItemGap = c :: t) (h : Spl.countItem (c :: t) = some (a, g)) :
    Spl.countItems s = a :: Spl.countItems g := by
  rw [Spl.countItems]
  split
  · next he => rw [hs] at he; cases he
  · next he =>
    rw [hs] at he
    obtain ⟨rfl, rfl⟩ := List.cons.inj he
    split
    · next hitem =>
      rw [h] at hitem
      obtain ⟨rfl, rfl⟩ := Prod.mk.inj (Option.some.inj hitem)
      rfl
    · next hitem => rw [h] at hitem; cases hitem

theorem countItems_eq_skip {c : Char} (hs : s.dropWhile Spl.isItemGap = c :: t)
    (h : Spl.countItem (c :: t) = none) : Spl.countItems s = Spl.countItems (Spl.skipItem c t) := by
  rw [Spl.countItems]
  split
  · next he => rw [hs] at he; cases he
  · next he =>
    rw [hs] at he
    obtain ⟨rfl, rfl⟩ := List.cons.inj he
    split
    · next hitem => rw [h] at hitem; cases hitem
    · rfl

end LogLab.Query
