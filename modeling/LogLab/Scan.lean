import LogLab.Halt

/-! # Scanning

A scanner takes one piece off the front of a text and leaves the rest, or finds nothing. A scanner
that cuts by octets can also crash.
-/

namespace LogLab

/-- Takes a piece off the front of a text. -/
abbrev Scan := StateT (List Char) Option

/-- A scanner that may crash. -/
abbrev RiskyScan := ExceptT Crash Scan

namespace Scan

variable {α : Type}

def takeWhile (p : Char → Bool) : Scan (List Char) := fun s =>
  some (s.takeWhile p, s.dropWhile p)

def takeWhile1 (p : Char → Bool) : Scan (List Char) := fun s =>
  if (s.takeWhile p).isEmpty then none else some (s.takeWhile p, s.dropWhile p)

def next : Scan Char := fun s =>
  match s with
  | c :: cs => some (c, cs)
  | [] => none

def atEnd : Scan Unit := fun s =>
  if s.isEmpty then some ((), []) else none

def char (c : Char) : Scan Unit := fun s =>
  match s with
  | d :: ds => if d = c then some ((), ds) else none
  | [] => none

/-- What the first scanner finds, or else what the second finds at the same place. -/
def orElse (first second : Scan α) : Scan α := fun s =>
  match first s with
  | some found => some found
  | none => second s

def maybe (scan : Scan α) : Scan (Option α) := fun s =>
  match scan s with
  | some (a, rest) => some (some a, rest)
  | none => some (none, s)

/-- What the scanner finds if nothing is left after it. -/
def whole? (scan : Scan α) (s : List Char) : Option α :=
  match scan s with
  | some (a, []) => some a
  | _ => none

def first? (scan : Scan α) (s : List Char) : Option α :=
  (scan s).map Prod.fst

/-- The number of octets of a text in UTF-8. -/
def octets : List Char → Nat
  | [] => 0
  | c :: cs => c.utf8Size + octets cs

/-- Drops octets off the front of a text that has as many. It crashes if the last of them is inside
a character. -/
def dropOctets : Nat → List Char → Option (Except Crash (List Char))
  | 0, s => some (.ok s)
  | _ + 1, [] => none
  | n + 1, c :: cs =>
    if c.utf8Size ≤ n + 1 then dropOctets (n + 1 - c.utf8Size) cs
    else some (.error .insideCharacter)

/-- What the scanner leaves is an end of the text. -/
structure LeavesEnd (scan : Scan α) : Prop where
  suffix : ∀ {s a rest}, scan s = some (a, rest) → rest <:+ s

theorem leavesEnd_pure (a : α) : LeavesEnd (pure a : Scan α) := by
  refine ⟨fun {s b rest} h => ?_⟩
  have h : some (a, s) = some (b, rest) := h
  cases h
  exact List.suffix_refl s

theorem LeavesEnd.bind {β : Type} {scan : Scan α} {next : α → Scan β} (h : LeavesEnd scan)
    (hnext : ∀ a, LeavesEnd (next a)) : LeavesEnd (scan >>= next) := by
  refine ⟨fun {s b rest} hs => ?_⟩
  simp only [Bind.bind, StateT.bind] at hs
  obtain ⟨⟨a, between⟩, h₁, h₂⟩ := Option.bind_eq_some_iff.1 hs
  exact ((hnext a).suffix h₂).trans (h.suffix h₁)

theorem leavesEnd_takeWhile (p : Char → Bool) : LeavesEnd (takeWhile p) := by
  refine ⟨fun {s a rest} h => ?_⟩
  simp only [takeWhile, Option.some.injEq, Prod.mk.injEq] at h
  exact h.2 ▸ List.dropWhile_suffix p

theorem leavesEnd_takeWhile1 (p : Char → Bool) : LeavesEnd (takeWhile1 p) := by
  refine ⟨fun {s a rest} h => ?_⟩
  simp only [takeWhile1] at h
  split at h
  · simp at h
  · simp only [Option.some.injEq, Prod.mk.injEq] at h
    exact h.2 ▸ List.dropWhile_suffix p

theorem leavesEnd_char (c : Char) : LeavesEnd (char c) := by
  refine ⟨fun {s a rest} h => ?_⟩
  match s with
  | [] => simp [char] at h
  | d :: ds =>
    simp only [char] at h
    split at h
    · simp only [Option.some.injEq, Prod.mk.injEq] at h
      exact h.2 ▸ List.suffix_cons d ds
    · simp at h

theorem LeavesEnd.maybe {scan : Scan α} (h : LeavesEnd scan) : LeavesEnd (maybe scan) := by
  refine ⟨fun {s a rest} hs => ?_⟩
  simp only [Scan.maybe] at hs
  split at hs
  · simp only [Option.some.injEq, Prod.mk.injEq] at hs
    exact hs.2 ▸ h.suffix ‹_›
  · simp only [Option.some.injEq, Prod.mk.injEq] at hs
    exact hs.2 ▸ List.suffix_refl s

end Scan

namespace RiskyScan

variable {α : Type}

def orElse (first second : RiskyScan α) : RiskyScan α :=
  ExceptT.mk (Scan.orElse first.run second.run)

/-- What the scanner finds at the start of a text, unless it crashes there. -/
def first? (scan : RiskyScan α) (s : List Char) : Except Crash (Option α) :=
  match Scan.first? scan.run s with
  | some (.ok a) => .ok (some a)
  | some (.error crash) => .error crash
  | none => .ok none

end RiskyScan

end LogLab
