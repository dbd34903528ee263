/-! # Wildcard patterns

In a pattern, `%` stands for any run of characters, `_` for any single character, and every other
character for itself. A text is matched from left to right, and a `%` covers as little of it as
possible: only where the pattern behind the latest `%` does not fit does that one take in a
character more. The ones before it are never looked at again.
-/

namespace LogLab.Like

/-- Whether a pattern character other than `%` stands for `c`. -/
def standsFor (p c : Char) : Bool :=
  p == '_' || p == c

/-- A `%` that has been passed: the pattern behind it, and the text that it does not cover yet. -/
structure Wildcard where
  pattern : List Char
  text : List Char
  deriving DecidableEq, Repr

/-- Where a match stands: what is left of the pattern and of the text, and the latest `%`. -/
structure Cursor where
  pattern : List Char
  text : List Char
  latest : Option Wildcard := none
  deriving DecidableEq, Repr

inductive Turn where
  | verdict (isMatch : Bool)
  | goOn (next : Cursor)
  deriving DecidableEq, Repr

namespace Cursor

/-- Goes back to the latest `%`, which covers one character more from now on. -/
def retry (c : Cursor) : Turn :=
  match c.latest with
  | none => .verdict false
  | some w => .goOn ⟨w.pattern, w.text.tail, some ⟨w.pattern, w.text.tail⟩⟩

def turn (c : Cursor) : Turn :=
  match c.text, c.pattern with
  | [], pattern => .verdict (pattern.all (· == '%'))
  | _ :: _, [] => c.retry
  | t :: text, p :: pattern =>
    if p = '%' then .goOn ⟨pattern, t :: text, some ⟨pattern, t :: text⟩⟩
    else if standsFor p t then .goOn ⟨pattern, text, c.latest⟩
    else c.retry

def Stuck (pattern : List Char) (t : Char) : Prop :=
  ∀ p ∈ pattern.head?, p ≠ '%' ∧ standsFor p t = false

/-- All that a turn can come to. -/
inductive Effect : Cursor → Turn → Prop where
  | finished {pattern : List Char} {latest : Option Wildcard} :
      Effect ⟨pattern, [], latest⟩ (.verdict (pattern.all (· == '%')))
  | passed {pattern text : List Char} {t : Char} {latest : Option Wildcard} :
      Effect ⟨'%' :: pattern, t :: text, latest⟩
        (.goOn ⟨pattern, t :: text, some ⟨pattern, t :: text⟩⟩)
  | read {p t : Char} {pattern text : List Char} {latest : Option Wildcard} :
      p ≠ '%' → standsFor p t = true →
      Effect ⟨p :: pattern, t :: text, latest⟩ (.goOn ⟨pattern, text, latest⟩)
  | refused {pattern text : List Char} {t : Char} : Stuck pattern t →
      Effect ⟨pattern, t :: text, none⟩ (.verdict false)
  | retried {pattern text : List Char} {t : Char} {w : Wildcard} : Stuck pattern t →
      Effect ⟨pattern, t :: text, some w⟩
        (.goOn ⟨w.pattern, w.text.tail, some ⟨w.pattern, w.text.tail⟩⟩)

theorem effect_retry {pattern text : List Char} {t : Char} {latest : Option Wildcard}
    (h : Stuck pattern t) :
    Effect ⟨pattern, t :: text, latest⟩ (retry ⟨pattern, t :: text, latest⟩) := by
  cases latest with
  | none => exact .refused h
  | some w => exact .retried h

theorem effect_turn (c : Cursor) : Effect c c.turn := by
  obtain ⟨pattern, text, latest⟩ := c
  unfold turn
  cases text with
  | nil => exact .finished
  | cons t text =>
    cases pattern with
    | nil => exact effect_retry nofun
    | cons p pattern =>
      dsimp only
      split
      · next hp =>
        subst hp
        exact .passed
      · next hp =>
        split
        · next hfits => exact .read hp hfits
        · next hfits =>
          refine effect_retry fun q hq => ?_
          obtain rfl := Option.some.inj hq
          exact ⟨hp, Bool.eq_false_iff.mpr hfits⟩

def wildcards (c : Cursor) : Nat :=
  max (c.pattern.count '%') ((c.latest.map fun w => w.pattern.count '%').getD 0)

/-- The length of the text that the latest `%` does not cover yet. -/
def uncovered (c : Cursor) : Nat :=
  (c.latest.map fun w => w.text.length).getD 0

/-- A turn comes to a new `%`, or lets the latest one cover more, or reads a character. -/
theorem lex_of_turn {c next : Cursor} (h : c.turn = .goOn next) :
    Prod.Lex (· < ·) (Prod.Lex (· < ·) (· < ·))
      (next.wildcards, next.uncovered, next.text.length)
      (c.wildcards, c.uncovered, c.text.length) := by
  have he := effect_turn c
  rw [h] at he
  simp only [Prod.lex_def]
  cases he with
  | passed =>
    left
    simp only [wildcards, List.count_cons_self, Option.map_some, Option.getD_some, Nat.max_self]
    omega
  | @read p t pattern text latest hp _ =>
    right
    simp [wildcards, uncovered, hp]
  | @retried pattern text t w _ =>
    cases htext : w.text with
    | nil => simp [wildcards, uncovered, htext]; omega
    | cons s rest => simp [wildcards, uncovered, htext]; omega

def run (c : Cursor) : Bool :=
  match _ : c.turn with
  | .verdict isMatch => isMatch
  | .goOn next => next.run
termination_by (c.wildcards, c.uncovered, c.text.length)
decreasing_by exact lex_of_turn ‹_›

end Cursor

def isMatch (pattern text : List Char) : Bool :=
  Cursor.run { pattern, text }

end LogLab.Like
