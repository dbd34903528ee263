import LogLab.Like
import LogLab.Record
import LogLab.Scalar
import LogLab.Text.Lowercase

/-! # Conditions

A predicate compares a field with a literal; a condition is a list of predicates that all have to
hold. A predicate on an absent field never holds, whatever it says.
-/

namespace LogLab

inductive Comparison where
  | eq
  | notEq
  | lt
  | ltEq
  | gt
  | gtEq
  | like
  | contains
  deriving DecidableEq, Repr, Inhabited

structure Predicate where
  field : String
  comparison : Comparison
  value : String
  deriving DecidableEq, Repr, Inhabited

/-- Predicates that all have to hold. -/
structure Condition where
  predicates : List Predicate
  deriving DecidableEq, Repr, Inhabited

namespace Comparison

def symbol : Comparison → String
  | eq => "="
  | notEq => "!="
  | lt => "<"
  | ltEq => "<="
  | gt => ">"
  | gtEq => ">="
  | like => "LIKE"
  | contains => "CONTAINS"

end Comparison

def isInfix (part : List Char) : (whole : List Char) → Bool
  | [] => part.isEmpty
  | c :: cs => part.isPrefixOf (c :: cs) || isInfix part cs

/-- Whether the lower case of the text matches the lower case of the pattern. -/
def likeMatch (text pattern : String) : Bool :=
  Like.isMatch (Text.lower pattern.toList) (Text.lower text.toList)

/-- Whether the lower case of the text holds the lower case of the part. -/
def containsMatch (text part : String) : Bool :=
  isInfix (Text.lower part.toList) (Text.lower text.toList)

def equalMatch (text other : String) : Bool :=
  Text.lower text.toList == Text.lower other.toList

namespace Predicate

/-- Compares the number of a value with the number of a literal; without both, nothing holds. -/
def compareNumbers (value : Json) (literal : String) (holds : Ordering → Bool) : Bool :=
  match value.number?, Json.numberOfText? literal with
  | some x, some y => holds (compare (Binary64.rank x) (Binary64.rank y))
  | _, _ => false

/-- Whether the predicate holds of a value that is present. -/
def holdsOf (p : Predicate) (value : Json) : Bool :=
  match p.comparison with
  | .eq => equalMatch value.text p.value
  | .notEq => !equalMatch value.text p.value
  | .lt => compareNumbers value p.value (· == .lt)
  | .ltEq => compareNumbers value p.value (· != .gt)
  | .gt => compareNumbers value p.value (· == .gt)
  | .gtEq => compareNumbers value p.value (· != .lt)
  | .like => likeMatch value.text p.value
  | .contains => containsMatch value.text p.value

def holds (p : Predicate) (r : Record) : Bool :=
  match r.field? p.field with
  | some value => p.holdsOf value
  | none => false

def display (p : Predicate) : String :=
  p.field ++ " " ++ p.comparison.symbol ++ " '" ++ p.value ++ "'"

end Predicate

namespace Condition

def holds (c : Condition) (r : Record) : Bool :=
  c.predicates.all (·.holds r)

/-- Whether there is no predicate, so that every record satisfies the condition. -/
def isEmpty (c : Condition) : Bool :=
  c.predicates.isEmpty

def display (c : Condition) : String :=
  if c.isEmpty then "TRUE" else " AND ".intercalate (c.predicates.map Predicate.display)

end Condition

end LogLab
