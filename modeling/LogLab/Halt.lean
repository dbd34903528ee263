/-! # Halts

A computation that gives no result has failed with an error, which its callers deal with, or it has
crashed, which nobody deals with: a crash ends whatever is going on.
-/

namespace LogLab

/-- A text was to be cut inside a character. -/
inductive Crash where
  | insideCharacter
  deriving DecidableEq, Repr, Inhabited

/-- Why a computation gives no result. -/
inductive Halt (ε : Type) where
  | failed (e : ε)
  | crashed (crash : Crash)
  deriving DecidableEq, Repr

def Halt.map {ε δ : Type} (f : ε → δ) : Halt ε → Halt δ
  | failed e => failed (f e)
  | crashed crash => crashed crash

instance {ε : Type} : MonadLift (Except ε) (Except (Halt ε)) where
  monadLift x := x.mapError .failed

instance {ε : Type} : MonadLift (Except Crash) (Except (Halt ε)) where
  monadLift x := x.mapError .crashed

end LogLab
