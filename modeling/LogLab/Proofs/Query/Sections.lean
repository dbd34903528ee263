import LogLab.Proofs.Query.Crashes
import LogLab.Proofs.Query.Written

/-! # Texts in sections

A text whose sections begin with phrases, with gaps around them, is cut into these sections, and
what is in front of the first phrase is left as the lead of the cut. A condition is such a text.
-/

namespace LogLab.Query

open Scan Text

/-- A phrase of words as it is written, with gaps around it. -/
structure Heading (words : List String) where
  before : Gap
  chars : List Char
  isPhrase : Phrase words chars
  after : Gap

def Heading.withContent {words : List String} (h : Heading words) (content : List Char) :
    List Char :=
  h.before.chars ++ (h.chars ++ (h.after.chars ++ content))

def Heading.single (word : String) : Heading [word] :=
  ⟨.space, word.toList, .single rfl, .space⟩

def Heading.pair (word next : String) : Heading [word, next] :=
  ⟨.space, word.toList ++ ([' '] ++ next.toList),
    .cons rfl (by decide) (by decide) (.single rfl), .space⟩

theorem Heading.exists_keyword {word : String} (h : Heading [word]) :
    ∃ k : Keyword word, h.chars = k.chars := by
  cases he : h.isPhrase with
  | single hn => exact ⟨⟨_, hn⟩, rfl⟩

variable {α : Type} {phrases : List (α × List String)} {s t : List Char}

theorem Heading.withContent_append {words : List String} (h : Heading words) :
    h.withContent (s ++ t) = h.withContent s ++ t := by
  simp only [withContent, List.append_assoc]

/-- A heading, and what stands behind it up to the next heading. -/
structure Part (phrases : List (α × List String)) where
  phrase : α
  words : List String
  mem : (phrase, words) ∈ phrases
  heading : Heading words
  content : List Char
  ne_nil : content ≠ []
  trimmed : Trimmed content
  passes : ∀ {t}, Stops isPlain t → Passes phrases content t

def partsChars (tail : Spacing) : List (Part phrases) → List Char
  | [] => tail.chars
  | p :: ps => p.heading.withContent (p.content ++ partsChars tail ps)

def partsLead (tail : Spacing) : List (Part phrases) → Spacing
  | [] => tail
  | p :: _ => p.heading.before.toSpacing

def partsSections (tail : Spacing) : List (Part phrases) → List (Section α)
  | [] => []
  | p :: ps =>
    ⟨p.phrase, p.heading.chars,
      p.heading.after.chars ++ (p.content ++ (partsLead tail ps).chars)⟩ :: partsSections tail ps

variable {tail : Spacing} {ps : List (Part phrases)}

theorem isPlain_of_isNameChar {c : Char} (h : isNameChar c = true) : isPlain c = true := by
  simp [isPlain, isBlank_of_isNameChar h, isQuote_of_isNameChar h]

theorem stops_isNameChar_of_isPlain (h : Stops isPlain t) : Stops isNameChar t := fun c hc =>
  Bool.eq_false_iff.mpr fun hn => by simpa [isPlain_of_isNameChar hn] using h c hc

theorem Spacing.stops_isPlain (g : Spacing) : Stops isPlain g.chars := fun c hc => by
  simp [isPlain, isBlank_of_isGap (g.isGap c (List.mem_of_mem_head? hc))]

theorem Gap.stops_isPlain (g : Gap) : Stops isPlain (g.chars ++ t) :=
  g.toSpacing.stops_isPlain.append_of_ne_nil g.ne_nil

theorem stops_partsChars (tail : Spacing) (ps : List (Part phrases)) :
    Stops isPlain (partsChars tail ps) := by
  cases ps with
  | nil => exact tail.stops_isPlain
  | cons p ps => exact p.heading.before.stops_isPlain

/-- The parts are cut into sections. -/
theorem cutFrom_parts (hw : WellFormed phrases) :
    cutFrom phrases false none 0 (partsChars tail ps) =
      ⟨(partsLead tail ps).chars, partsSections tail ps⟩ := by
  induction ps with
  | nil =>
    have h := tail.passes hw (t := [])
    simpa [Passes, cutFrom_nil, Cut.prepend, partsChars, partsLead, partsSections] using h
  | cons p ps ih =>
    have hgap : Stops isNameChar (p.heading.after.chars ++ (p.content ++ partsChars tail ps)) :=
      p.heading.after.stops_isNameChar
    have hcontent := (p.heading.after.passes hw).append
      (p.passes (stops_partsChars tail ps))
    rw [Passes, List.append_assoc, ih] at hcontent
    rw [partsChars, Heading.withContent, p.heading.before.passes hw,
      cutFrom_phrase hw p.mem p.heading.isPhrase hgap, hcontent]
    simp [Cut.prepend, Cut.openSection, partsLead, partsSections]

/-- A text in which no phrase begins is the front of the lead. -/
theorem cutAtPhrases_append_parts (hw : WellFormed phrases)
    (hs : Passes phrases s (partsChars tail ps)) :
    cutAtPhrases phrases (s ++ partsChars tail ps) =
      ⟨s ++ (partsLead tail ps).chars, partsSections tail ps⟩ := by
  rw [cutAtPhrases, hs, cutFrom_parts hw]
  rfl

/-- Trimming the body of a section gives the content of its part. -/
theorem map_trim_partsSections (tail : Spacing) (ps : List (Part phrases)) :
    (partsSections tail ps).map (fun s => (s.phrase, trim s.body)) =
      ps.map fun p => (p.phrase, p.content) := by
  induction ps with
  | nil => rfl
  | cons p ps ih =>
    rw [partsSections, List.map_cons, List.map_cons, ih,
      p.trimmed.trim_between p.heading.after.allBlank (partsLead tail ps).allBlank]

def Spacing.none : Spacing := ⟨[], by simp⟩

theorem trimmed_append_parts (hs : Trimmed s) (hne : s ≠ []) :
    Trimmed (s ++ partsChars .none ps) := by
  induction ps generalizing s with
  | nil => simpa [partsChars, Spacing.none] using hs
  | cons p ps ih =>
    have h := ih (hs.between (g := p.heading.before.chars ++ (p.heading.chars ++
      p.heading.after.chars)) hne p.trimmed p.ne_nil) (List.append_ne_nil_of_left_ne_nil hne _)
    simpa only [partsChars, Heading.withContent, List.append_assoc] using h

theorem partsChars_append_tail : partsChars .none ps ++ tail.chars = partsChars tail ps := by
  induction ps with
  | nil => rfl
  | cons p ps ih => simp only [partsChars, Heading.withContent, List.append_assoc, ih]

theorem partsChars_append {qs : List (Part phrases)} :
    partsChars .none (ps ++ qs) = partsChars .none ps ++ partsChars .none qs := by
  induction ps with
  | nil => rfl
  | cons p ps ih =>
    rw [List.cons_append, partsChars, partsChars, ih, ← List.append_assoc,
      Heading.withContent_append]

/-- The phrase that joins predicates. -/
abbrev conjunction : List (Unit × List String) := [((), ["AND"])]

variable {reserved : List String}

theorem reserves_conjunction (h : "AND" ∈ reserved) : Reserves reserved conjunction where
  ne_nil := by decide
  isWord := by decide
  head_inj := by decide
  covers := by simpa [conjunction] using h
  like := by decide
  contains := by decide

structure Terms (reserved : List String) where
  first : Term reserved
  others : List (Heading ["AND"] × Term reserved)

namespace Terms

variable (c : Terms reserved)

def parts (h : "AND" ∈ reserved) : List (Part conjunction) :=
  c.others.map fun other => {
    phrase := ()
    words := ["AND"]
    mem := by simp
    heading := other.1
    content := other.2.chars
    ne_nil := other.2.chars_ne_nil
    trimmed := other.2.trimmed
    passes := fun ht => other.2.passes (reserves_conjunction h) (stops_isNameChar_of_isPlain ht) }

def chars : List Char :=
  c.first.chars ++ c.others.flatMap fun other => other.1.withContent other.2.chars

def condition : Condition :=
  ⟨c.first.predicate :: c.others.map fun other => other.2.predicate⟩

theorem chars_eq (h : "AND" ∈ reserved) :
    c.chars = c.first.chars ++ partsChars .none (c.parts h) := by
  rw [chars, parts]
  congr 1
  induction c.others with
  | nil => rfl
  | cons other others ih =>
    rw [List.flatMap_cons, List.map_cons, partsChars, Heading.withContent_append, ih]

theorem map_content_parts (h : "AND" ∈ reserved) :
    (c.parts h).map Part.content = c.others.map fun other => other.2.chars := by
  simp [parts]

theorem chars_ne_nil : c.chars ≠ [] :=
  List.append_ne_nil_of_left_ne_nil c.first.chars_ne_nil _

theorem trimmed (h : "AND" ∈ reserved) : Trimmed c.chars := by
  rw [c.chars_eq h]
  exact trimmed_append_parts c.first.trimmed c.first.chars_ne_nil

/-- A condition is cut at its conjunctions into the predicates. -/
theorem map_trim_splitPhrase (h : "AND" ∈ reserved) : (splitPhrase ["AND"] c.chars).map trim =
    c.first.chars :: c.others.map fun other => other.2.chars := by
  have hr := reserves_conjunction h
  have hcut := cutAtPhrases_append_parts hr.toWellFormed (c.first.passes hr
    (stops_isNameChar_of_isPlain (stops_partsChars .none (c.parts h))))
  have hlead : trim (c.first.chars ++ (partsLead .none (c.parts h)).chars) = c.first.chars :=
    (trim_append_blank (partsLead .none (c.parts h)).allBlank).trans c.first.trimmed.trim_eq
  have hbodies := congrArg (List.map Prod.snd)
    (map_trim_partsSections .none (c.parts h))
  rw [c.chars_eq h, splitPhrase, hcut, Cut.pieces, List.map_cons, hlead, ← c.map_content_parts h]
  simpa [Function.comp_def] using hbodies

theorem readCondition_chars (h : "AND" ∈ reserved) :
    readCondition c.chars = .ok c.condition := by
  rw [readCondition_eq, c.map_trim_splitPhrase h, List.filterMapM_cons,
    c.first.first?_predicate, filterMapM_map,
    filterMapM_eq_map fun other _ => other.2.first?_predicate]
  rfl

/-- No phrase begins in a condition, apart from the phrase that joins its predicates. -/
theorem passes (hr : Reserves reserved phrases) (hf : FreeOf phrases "AND".toList)
    (ht : Stops isPlain t) : Passes phrases c.chars t := by
  have hw := hr.toWellFormed
  have hothers :
      Passes phrases (c.others.flatMap fun other => other.1.withContent other.2.chars) t ∧
        Stops isPlain ((c.others.flatMap fun other => other.1.withContent other.2.chars) ++ t) := by
    induction c.others with
    | nil => exact ⟨passes_nil, ht⟩
    | cons other others ih =>
      obtain ⟨word, hword⟩ := other.1.exists_keyword
      rw [List.flatMap_cons, Heading.withContent, hword]
      refine ⟨((other.1.before.passes hw).append ((word.passes hw (by decide) hf ?_).append
        ((other.1.after.passes hw).append
          (other.2.passes hr (stops_isNameChar_of_isPlain ih.2))))).append ih.1, ?_⟩
      · simpa only [List.append_assoc] using other.1.after.stops_isNameChar
      · simpa only [List.append_assoc] using other.1.before.stops_isPlain
  exact (c.first.passes hr (stops_isNameChar_of_isPlain hothers.2)).append hothers.1

end Terms

end LogLab.Query
