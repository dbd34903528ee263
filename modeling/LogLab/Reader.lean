/-! # Readers

A reader takes a value off the front of a list of items, characters or tokens, or says what is
wrong: the list does not have the right form, or a value of the right form is not of the kind that
was asked for.
-/

namespace LogLab

/-- What can be wrong with a text that should hold a value of a given kind. -/
inductive Fault where
  | malformed
  | mismatch
  deriving DecidableEq, Repr

/-- Takes a value off the front of a list of items. -/
abbrev Reader (τ : Type) := StateT (List τ) (Except Fault)

namespace Reader

variable {τ α β σ : Type}

def malformed : Reader τ α :=
  throw .malformed

def mismatch : Reader τ α :=
  throw .mismatch

def next : Reader τ τ := do
  match ← get with
  | [] => malformed
  | c :: cs => set cs; pure c

/-- The next item, left in place; none at the end. -/
def peek? : Reader τ (Option τ) := do
  pure (← get).head?

def skip : Reader τ Unit := do
  set (← get).tail

def takeWhile (p : τ → Bool) : Reader τ (List τ) := do
  let s ← get
  set (s.dropWhile p)
  pure (s.takeWhile p)

def exactly [BEq τ] (items : List τ) : Reader τ Unit := do
  let s ← get
  if items.isPrefixOf s then set (s.drop items.length) else malformed

/-- Reads on from an accumulator, by at most one more step than there are items given. -/
def iterateAlong (step : σ → Reader τ (σ ⊕ β)) (items : List τ) (acc : σ) : Reader τ β := do
  match ← step acc, items with
  | .inr b, _ => pure b
  | .inl acc', _ :: items' => iterateAlong step items' acc'
  | .inl _, [] => malformed

/-- Reads on from an accumulator until a step gives a result. Each other step has to read an item,
so there are at most one more steps than items. -/
def iterate (step : σ → Reader τ (σ ⊕ β)) (acc : σ) : Reader τ β := do
  iterateAlong step (← get) acc

/-- Runs on a whole list, after which only items that satisfy `blank` may stand. -/
def runAll (blank : τ → Bool) (reader : Reader τ α) (s : List τ) : Except Fault α :=
  match reader s with
  | .error e => .error e
  | .ok (a, r) => if r.all blank then .ok a else .error .malformed

end Reader

end LogLab
