import LogLab.Query.Words

/-! # Splitting outside quotations

A text is cut at separators, blanks or keyword phrases that stand outside quotations. A quotation
that is not closed runs to the end of the text. Cutting at a separator also respects parentheses.
-/

namespace LogLab.Query

open Scan

/-- The quotation that is open at some place of a text, by its quote character. -/
abbrev Quotation := Option Char

namespace Quotation

/-- The quotation that is open after a character. -/
def step (q : Quotation) (c : Char) : Quotation :=
  match q with
  | some quote => if c = quote then none else some quote
  | none => if isQuote c then some c else none

/-- Whether a character is outside quotations; quote characters are not. -/
def isOutside (q : Quotation) (c : Char) : Bool :=
  q.isNone && !isQuote c

def after (q : Quotation) (s : List Char) : Quotation :=
  s.foldl step q

end Quotation

/-- The number of open parentheses after a character outside quotations. A closing parenthesis
without an opening one counts for nothing. -/
def stepDepth (depth : Nat) (c : Char) : Nat :=
  if c = '(' then depth + 1 else if c = ')' then depth - 1 else depth

/-- The pieces between the separators, from a place with an open quotation and open parentheses. -/
def splitFrom (separator : Char) (q : Quotation) (depth : Nat) : List Char → List (List Char)
  | [] => [[]]
  | c :: cs =>
    if q.isOutside c then
      if c ≠ '(' ∧ c ≠ ')' ∧ c = separator ∧ depth = 0 then [] :: splitFrom separator q depth cs
      else Text.consFirst c (splitFrom separator q (stepDepth depth c) cs)
    else Text.consFirst c (splitFrom separator (q.step c) depth cs)

/-- The pieces between the separators outside quotations and parentheses. -/
def splitTopLevel (separator : Char) (s : List Char) : List (List Char) :=
  splitFrom separator none 0 s

def splitBlanks (q : Quotation) : List Char → List (List Char)
  | [] => [[]]
  | c :: cs =>
    if q.isOutside c && Text.isBlank c then [] :: splitBlanks q cs
    else Text.consFirst c (splitBlanks (q.step c) cs)

def splitWords (s : List Char) : List (List Char) :=
  (splitBlanks none s).filter fun word => !word.isEmpty

/-- The commands of a pipeline: what stands between bars, trimmed, and left out if empty. -/
def splitPipeline (s : List Char) : List (List Char) :=
  ((splitTopLevel '|' s).map Text.trim).filter fun segment => !segment.isEmpty

/-- The rest of a text after the words of a phrase, which have gaps between them. -/
def phraseRest? : (words : List String) → List Char → Option (List Char)
  | [], s => some s
  | [word], s => (keyword word s).map Prod.snd
  | word :: words, s =>
    match keyword word s with
    | some (_, rest) =>
      match gaps1 rest with
      | some (_, rest') => phraseRest? words rest'
      | none => none
    | none => none

/-- The first phrase of a list that stands at the start of a text, and how long it is there. -/
def matchPhrase? {α : Type} (phrases : List (α × List String)) (s : List Char) :
    Option (α × Nat) :=
  phrases.findSome? fun phrase =>
    (phraseRest? phrase.2 s).map fun rest => (phrase.1, s.length - rest.length)

/-- A phrase as it is written in a text, and the text after it up to the next phrase. -/
structure Section (α : Type) where
  phrase : α
  heading : List Char
  body : List Char
  deriving Repr

structure Cut (α : Type) where
  lead : List Char
  sections : List (Section α)
  deriving Repr

namespace Cut

variable {α : Type}

def cons (c : Char) (cut : Cut α) : Cut α :=
  ⟨c :: cut.lead, cut.sections⟩

/-- Makes the text before the first phrase the body of a section. -/
def openSection (phrase : α) (heading : List Char) (cut : Cut α) : Cut α :=
  ⟨[], ⟨phrase, heading, cut.lead⟩ :: cut.sections⟩

/-- The texts before, between and after the phrases. -/
def pieces (cut : Cut α) : List (List Char) :=
  cut.lead :: cut.sections.map Section.body

end Cut

/-- Cuts a text at phrases, from a place where `inName` says whether a name is going on, `q` is the
open quotation, and the next `skip` characters belong to a phrase that was found. -/
def cutFrom {α : Type} (phrases : List (α × List String)) (inName : Bool) (q : Quotation)
    (skip : Nat) : List Char → Cut α
  | [] => ⟨[], []⟩
  | c :: cs =>
    match skip with
    | skip + 1 => cutFrom phrases (isNameChar c) q skip cs
    | 0 =>
      let found := if q.isOutside c && !inName then matchPhrase? phrases (c :: cs) else none
      match found with
      | some (phrase, len) =>
        (cutFrom phrases (isNameChar c) q (len - 1) cs).openSection phrase ((c :: cs).take len)
      | none => (cutFrom phrases (isNameChar c) (q.step c) 0 cs).cons c

/-- Cuts a text at the phrases that stand outside quotations and do not continue a name. Phrases
do not overlap: the search goes on after a phrase that was found. -/
def cutAtPhrases {α : Type} (phrases : List (α × List String)) (s : List Char) : Cut α :=
  cutFrom phrases false none 0 s

def splitPhrase (words : List String) (s : List Char) : List (List Char) :=
  (cutAtPhrases [((), words)] s).pieces

/-- A phrase that was found, and the octets of the text at which it begins and ends. -/
structure Find (α : Type) where
  phrase : α
  start : Nat
  stop : Nat
  deriving DecidableEq, Repr

/-- The finds that sections stand for, of which the first one begins at `start`. -/
def findsOf {α : Type} (start : Nat) : List (Section α) → List (Find α)
  | [] => []
  | sec :: sections =>
    ⟨sec.phrase, start, start + octets sec.heading⟩ ::
      findsOf (start + octets sec.heading + octets sec.body) sections

def Cut.findsFrom {α : Type} (start : Nat) (cut : Cut α) : List (Find α) :=
  findsOf (start + octets cut.lead) cut.sections

def findPhrases {α : Type} (phrases : List (α × List String)) (s : List Char) : List (Find α) :=
  (cutAtPhrases phrases s).findsFrom 0

/-- The predicates of a text, joined by `AND`. Each part gives the predicate at its start; a part
without one gives nothing. -/
def readCondition (s : List Char) : Except Crash Condition := do
  let predicates ← (splitPhrase ["AND"] s).filterMapM fun part => predicate.first? (Text.trim part)
  pure ⟨predicates⟩

end LogLab.Query
