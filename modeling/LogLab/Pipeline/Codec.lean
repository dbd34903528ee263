import LogLab.Json.Decoder
import LogLab.Pipeline.Basic

/-! # Pipelines as JSON

Each part of a pipeline has a JSON form, written by `toJson` and read by `ofJson?`. The arguments of
an operation are set aside if they stand in front of its name.
-/

namespace LogLab

namespace Comparison

def all : List Comparison := [eq, notEq, lt, ltEq, gt, gtEq, like, contains]

def tag : Comparison → String
  | eq => "eq"
  | notEq => "not_eq"
  | lt => "lt"
  | ltEq => "lt_eq"
  | gt => "gt"
  | gtEq => "gt_eq"
  | like => "like"
  | contains => "contains"

def ofTag? (s : String) : Option Comparison :=
  all.find? (·.tag == s)

theorem ofTag?_tag (c : Comparison) : ofTag? c.tag = some c := by
  cases c <;> decide

end Comparison

namespace Direction

def tag : Direction → String
  | asc => "asc"
  | desc => "desc"

def ofTag? (s : String) : Option Direction :=
  [asc, desc].find? (·.tag == s)

theorem ofTag?_tag (d : Direction) : ofTag? d.tag = some d := by
  cases d <;> decide

def ofJson? (setAside : Bool) (v : Json) : Option Direction :=
  (v.symbol? setAside).bind ofTag?

end Direction

namespace Side

def tag : Side → String
  | head => "start"
  | tail => "end"

def ofTag? (s : String) : Option Side :=
  [head, tail].find? (·.tag == s)

theorem ofTag?_tag (s : Side) : ofTag? s.tag = some s := by
  cases s <;> decide

end Side

namespace Predicate

def toJson (p : Predicate) : Json :=
  .object [("field", .string p.field), ("operator", .string p.comparison.tag),
    ("value", .string p.value)]

def ofJson? (setAside : Bool) (v : Json) : Option Predicate := do
  let part ← v.parts? ["field", "operator", "value"]
  let field ← (← part "field").string?
  let comparison ← ((← part "operator").symbol? setAside).bind Comparison.ofTag?
  let value ← (← part "value").string?
  pure ⟨field, comparison, value⟩

end Predicate

namespace Condition

def toJson (c : Condition) : Json :=
  .array (c.predicates.map Predicate.toJson)

def ofJson? (setAside : Bool) (v : Json) : Option Condition :=
  (v.list? (Predicate.ofJson? setAside)).map Condition.mk

end Condition

namespace Projection

/-- An output column as an object; without another name, that part is left out. -/
def toJson (p : Projection) : Json :=
  .object (("field", .string p.field) :: Json.ifSome "alias" (p.label.map .string))

def ofJson? (v : Json) : Option Projection := do
  let part ← v.parts? ["field", "alias"]
  let field ← (← part "field").string?
  let label ← Json.optional? Json.string? (part "alias")
  pure ⟨field, label⟩

end Projection

namespace Aggregate

/-- A computed column as an object; without a name of its own, that part is left out. -/
def toJson (a : Aggregate) : Json :=
  .object (("function", .string a.function.name) :: ("field", .string a.field) ::
    Json.ifSome "alias" (a.label.map .string))

def ofJson? (setAside : Bool) (v : Json) : Option Aggregate := do
  let part ← v.parts? ["function", "field", "alias"]
  let function ← ((← part "function").symbol? setAside).bind Function.ofName?
  let field ← (← part "field").string?
  let label ← Json.optional? Json.string? (part "alias")
  pure ⟨function, field, label⟩

end Aggregate

namespace Grouping

/-- A grouping as an object, with `null` for a missing field. -/
def toJson (g : Grouping) : Json :=
  .object [("group_by", (g.groupBy.map .string).getD .null),
    ("aggregates", .array (g.aggregates.map Aggregate.toJson))]

def ofJson? (setAside : Bool) (v : Json) : Option Grouping := do
  let part ← v.parts? ["group_by", "aggregates"]
  let groupBy ← Json.optional? Json.string? (part "group_by")
  let aggregates ← (← part "aggregates").list? (Aggregate.ofJson? setAside)
  pure ⟨groupBy, aggregates⟩

end Grouping

namespace SortKey

def toJson (k : SortKey) : Json :=
  .object [("field", .string k.field), ("order", .string k.direction.tag)]

def ofJson? (setAside : Bool) (v : Json) : Option SortKey := do
  let part ← v.parts? ["field", "order"]
  let field ← (← part "field").string?
  let direction ← Direction.ofJson? setAside (← part "order")
  pure ⟨field, direction⟩

end SortKey

namespace Limit

def toJson (l : Limit) : Json :=
  .object [("count", .ofCount l.count), ("from", .string l.side.tag)]

/-- The limit that a value describes; the side is the head if it is not written. -/
def ofJson? (setAside : Bool) (v : Json) : Option Limit := do
  let part ← v.parts? ["count", "from"]
  let count ← (← part "count").count?
  let side ← Json.withDefault? .head (fun v => (v.symbol? setAside).bind Side.ofTag?) (part "from")
  pure ⟨count, side⟩

end Limit

namespace Operation

def toJson (o : Operation) : Json :=
  let named (name : String) (args : Json) := .object [("op", .string name), ("args", args)]
  match o with
  | filter condition => named "filter" condition.toJson
  | project columns => named "project" (.array (columns.map Projection.toJson))
  | group grouping => named "group_aggregate" grouping.toJson
  | sort key => named "sort" key.toJson
  | limit bound => named "limit" bound.toJson

def ofNamed? (setAside : Bool) (name : String) (args : Json) : Option Operation :=
  if name = "filter" then (Condition.ofJson? setAside args).map filter
  else if name = "project" then (args.list? Projection.ofJson?).map project
  else if name = "group_aggregate" then (Grouping.ofJson? setAside args).map group
  else if name = "sort" then (SortKey.ofJson? setAside args).map sort
  else if name = "limit" then (Limit.ofJson? setAside args).map limit
  else none

/-- The operation that a value describes. The name at the start of an array has to be a string. -/
def ofJson? (v : Json) : Option Operation := do
  let part ← v.parts? ["op", "args"]
  let op ← part "op"
  let name ← if v.isArray then op.string? else op.symbol? false
  ofNamed? (v.isBefore "args" "op") name (← part "args")

end Operation

namespace Pipeline

def toJson (p : Pipeline) : Json :=
  .array (p.operations.map Operation.toJson)

def ofJson? (v : Json) : Option Pipeline :=
  (v.list? Operation.ofJson?).map Pipeline.mk

end Pipeline

end LogLab
