import LogLab.Pipeline.Basic

/-! # Applying pipelines

What each operation does to a dataset. Groups come in the order in which their keys first appear,
sorting is stable, and a pipeline applies its operations from first to last.
-/

namespace LogLab

namespace Condition

def filter (c : Condition) (data : Dataset) : Dataset :=
  List.filter c.holds data

end Condition

namespace Projection

/-- The columns of one record; a field that the record lacks is left out. -/
def projectRecord (columns : List Projection) (r : Record) : Record :=
  columns.foldl (fun out column =>
    match r.get? column.field with
    | some value => out.insert column.outputName value
    | none => out) Record.empty

def project (columns : List Projection) (data : Dataset) : Dataset :=
  data.map (projectRecord columns)

end Projection

namespace Aggregate

/-- The number that each row has in a field, if it has one. -/
def numbers (field : String) (rows : List Record) : List (Option Float) :=
  rows.map fun r => (r.field? field).bind Json.number?

/-- The sum of the numbers from left to right; a row without a number counts as zero. -/
def total (field : String) (rows : List Record) : Float :=
  (numbers field rows).foldl (fun acc x => acc + x.getD 0) 0

/-- The numbers that are there, combined from left to right; `null` if there are none. -/
def extremum (pick : Float → Float → Float) (xs : List (Option Float)) : Json :=
  match xs.filterMap id with
  | [] => .null
  | x :: xs => Json.ofNumber (xs.foldl pick x)

def reduce (a : Aggregate) (rows : List Record) : Json :=
  match a.function with
  | .count => .int rows.length
  | .sum => Json.ofNumber (total a.field rows)
  | .avg =>
    if rows.isEmpty then .null
    else Json.ofNumber (total a.field rows / Float.ofNat rows.length)
  | .min => extremum Binary64.min (numbers a.field rows)
  | .max => extremum Binary64.max (numbers a.field rows)

def addAll (aggregates : List Aggregate) (rows : List Record) (out : Record) : Record :=
  aggregates.foldl (fun acc a => acc.insert a.outputName (a.reduce rows)) out

end Aggregate

/-- The key of a record: the text of the grouping field, or none without it. -/
def Grouping.key (field : String) (r : Record) : Option String :=
  (r.field? field).map Json.text

/-- A group of records: its key, the value that stands for it, and its records, the last one
first. -/
structure Group where
  key : Option String
  value : Json
  reversed : List Record
  deriving Repr

namespace Group

def rows (g : Group) : Dataset :=
  g.reversed.reverse

/-- The group that a record opens, with the value of the record or `null` without one. -/
def opened (field : String) (r : Record) : Group :=
  ⟨Grouping.key field r, (r.field? field).getD .null, [r]⟩

def push (g : Group) (r : Record) : Group :=
  { g with reversed := r :: g.reversed }

/-- Puts a record into the group of its key, or opens a group for it behind the others. -/
def place (field : String) (r : Record) : List Group → List Group
  | [] => [opened field r]
  | g :: groups =>
    if g.key = Grouping.key field r then g.push r :: groups else g :: place field r groups

/-- The groups of a dataset in the order in which they are opened. -/
def collect (field : String) (data : Dataset) : List Group :=
  data.foldl (fun groups r => place field r groups) []

/-- The output record of a group: its value, then the computed columns. -/
def summarize (field : String) (aggregates : List Aggregate) (g : Group) : Record :=
  Aggregate.addAll aggregates g.rows (Record.empty.insert field g.value)

end Group

namespace Grouping

/-- One record for each group, or one for the whole dataset. -/
def apply (g : Grouping) (data : Dataset) : Dataset :=
  match g.groupBy with
  | none => [Aggregate.addAll g.aggregates data Record.empty]
  | some field => (Group.collect field data).map (Group.summarize field g.aggregates)

end Grouping

namespace SortKey

def compareAscending (field : String) (a b : Record) : Ordering :=
  Json.compareFields (a.field? field) (b.field? field)

/-- Whether the first record may stand before the second. -/
def inOrder (k : SortKey) (a b : Record) : Bool :=
  match k.direction with
  | .asc => (compareAscending k.field a b).isLE
  | .desc => (compareAscending k.field a b).isGE

/-- The records in order; records with equal keys stay as they are. -/
def sort (k : SortKey) (data : Dataset) : Dataset :=
  data.mergeSort k.inOrder

end SortKey

namespace Limit

def apply (l : Limit) (data : Dataset) : Dataset :=
  match l.side with
  | .head => data.take l.count.toNat
  | .tail => data.drop (data.length - l.count.toNat)

end Limit

namespace Operation

def apply : Operation → Dataset → Dataset
  | filter condition, data => condition.filter data
  | project columns, data => Projection.project columns data
  | group grouping, data => grouping.apply data
  | sort key, data => key.sort data
  | limit bound, data => bound.apply data

end Operation

namespace Pipeline

def apply (p : Pipeline) (data : Dataset) : Dataset :=
  p.operations.foldl (fun acc operation => operation.apply acc) data

def steps (p : Pipeline) (data : Dataset) : List Dataset :=
  go p.operations data
where
  go : List Operation → Dataset → List Dataset
    | [], _ => []
    | operation :: rest, acc => operation.apply acc :: go rest (operation.apply acc)

end Pipeline

end LogLab
