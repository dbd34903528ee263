import LogLab.Condition

/-! # Pipelines

Every query is compiled to a pipeline: operations on a dataset, applied from first to last. An
operation keeps some records, reshapes them, groups them, sorts them or cuts them off.
-/

namespace LogLab

/-- An output column: a field and the name it gets, if that is another one. -/
structure Projection where
  field : String
  label : Option String := none
  deriving DecidableEq, Repr, Inhabited

inductive Function where
  | count
  | sum
  | avg
  | min
  | max
  deriving DecidableEq, Repr, Inhabited

/-- A column computed from the rows of a group. -/
structure Aggregate where
  function : Function
  field : String
  label : Option String := none
  deriving DecidableEq, Repr, Inhabited

/-- Grouping by a field, or of all rows together, with the columns computed for each group. -/
structure Grouping where
  groupBy : Option String
  aggregates : List Aggregate
  deriving DecidableEq, Repr, Inhabited

inductive Direction where
  | asc
  | desc
  deriving DecidableEq, Repr, Inhabited

structure SortKey where
  field : String
  direction : Direction
  deriving DecidableEq, Repr, Inhabited

/-- The end of a dataset that a limit keeps. -/
inductive Side where
  | head
  | tail
  deriving DecidableEq, Repr, Inhabited

/-- At most this many rows, from one end. -/
structure Limit where
  count : UInt64
  side : Side := .head
  deriving DecidableEq, Repr, Inhabited

inductive Operation where
  | filter (condition : Condition)
  | project (columns : List Projection)
  | group (grouping : Grouping)
  | sort (key : SortKey)
  | limit (bound : Limit)
  deriving DecidableEq, Repr, Inhabited

structure Pipeline where
  operations : List Operation
  deriving DecidableEq, Repr, Inhabited

namespace Projection

def outputName (p : Projection) : String :=
  p.label.getD p.field

def display (p : Projection) : String :=
  match p.label with
  | some label => p.field ++ " AS " ++ label
  | none => p.field

end Projection

namespace Function

def all : List Function := [count, sum, avg, min, max]

def name : Function → String
  | count => "COUNT"
  | sum => "SUM"
  | avg => "AVG"
  | min => "MIN"
  | max => "MAX"

def ofName? (s : String) : Option Function :=
  all.find? (·.name == s)

def parse? (s : String) : Option Function :=
  ofName? (String.ofList (s.toList.map Char.toUpper))

theorem ofName?_name (f : Function) : ofName? f.name = some f := by
  cases f <;> decide

end Function

namespace Aggregate

/-- The number of rows, under its own name. -/
def countRows (label : Option String := none) : Aggregate :=
  ⟨.count, "*", label⟩

/-- The name of the column: the label, `count`, or the function and its field in lower case. -/
def outputName (a : Aggregate) : String :=
  match a.label with
  | some label => label
  | none =>
    match a.function with
    | .count => "count"
    | f => Text.lowercase (f.name ++ "_" ++ a.field)

def display (a : Aggregate) : String :=
  a.function.name ++ "(" ++ a.field ++ ") AS " ++ a.outputName

end Aggregate

namespace Grouping

def display (g : Grouping) : String :=
  "AGGREGATE " ++ ", ".intercalate (g.aggregates.map Aggregate.display) ++
    match g.groupBy with
    | some field => " BY " ++ field
    | none => ""

end Grouping

namespace Direction

def name : Direction → String
  | asc => "ASC"
  | desc => "DESC"

end Direction

namespace SortKey

def display (k : SortKey) : String :=
  k.field ++ " " ++ k.direction.name

end SortKey

namespace Limit

def display (l : Limit) : String :=
  match l.side with
  | .head => "LIMIT " ++ toString l.count
  | .tail => "TAIL " ++ toString l.count

end Limit

namespace Operation

def display : Operation → String
  | filter condition => "FILTER " ++ condition.display
  | project columns => "PROJECT " ++ ", ".intercalate (columns.map Projection.display)
  | group grouping => grouping.display
  | sort key => "SORT " ++ key.display
  | limit bound => bound.display

end Operation

namespace Pipeline

def length (p : Pipeline) : Nat :=
  p.operations.length

def isEmpty (p : Pipeline) : Bool :=
  p.operations.isEmpty

def display (p : Pipeline) : String :=
  " | ".intercalate (p.operations.map Operation.display)

end Pipeline

end LogLab
