import LogLab.Query.Split

/-! # SELECT statements

A statement is cut at its clause keywords, and each clause is read on its own. A clause that cannot
be read is skipped, and of two clauses of one kind the first that can be read counts. What a
statement means is a pipeline: filter, grouping, sort, limit and projection, in this order. Every
filter is read, so a statement can crash even where another filter counts.
-/

namespace LogLab.Query.Sql

open Scan

inductive Item where
  | wildcard
  | column (projection : Projection)
  | aggregate (aggregate : Aggregate)
  deriving DecidableEq, Repr, Inhabited

inductive Clause where
  | source
  | filter
  | groupBy
  | orderBy
  | limit
  deriving DecidableEq, Repr, Inhabited

/-- A statement with the parts that could be read. -/
structure Statement where
  select : List Item := []
  source : Option String := none
  filter : Option Condition := none
  groupBy : Option String := none
  orderBy : Option SortKey := none
  limit : Option UInt64 := none
  deriving DecidableEq, Repr, Inhabited

def Clause.phrases : List (Clause × List String) :=
  [(.source, ["FROM"]), (.filter, ["WHERE"]), (.groupBy, ["GROUP", "BY"]),
    (.orderBy, ["ORDER", "BY"]), (.limit, ["LIMIT"])]

namespace Item

def aggregate? : Item → Option Aggregate
  | aggregate a => some a
  | _ => none

def projection : Item → Projection
  | wildcard => ⟨"*", none⟩
  | column p => p
  | aggregate a => ⟨a.outputName, none⟩

def outputName (item : Item) : String :=
  item.projection.outputName

def scanWildcard : Scan Item := do
  char '*'
  pure wildcard

def scanFunction : Scan Function := do
  let word ← name
  match Function.parse? (String.ofList word) with
  | some f => pure f
  | none => failure

/-- A function, its argument between parentheses, and a name for the result. -/
def scanAggregate : Scan Item := do
  let function ← scanFunction
  gaps
  char '('
  let argument ← upTo ')'
  let label ← maybe labelSuffix
  let field := if (Text.trim argument).isEmpty then ['*'] else Text.trim argument
  pure (aggregate ⟨function, String.ofList field, label.map String.ofList⟩)

def scanColumn : Scan Item := do
  let field ← name
  let label ← maybe labelSuffix
  pure (column ⟨String.ofList field, label.map String.ofList⟩)

/-- The entry that a text is. A text of any other form is taken as a field name. -/
def read (s : List Char) : Item :=
  (whole? (orElse scanWildcard (orElse scanAggregate scanColumn)) s).getD
    (column ⟨String.ofList s, none⟩)

end Item

def readSelect (s : List Char) : List Item :=
  (((splitTopLevel ',' s).map Text.trim).filter fun item => !item.isEmpty).map Item.read

def readName? (s : List Char) : Option String :=
  (first? name s).map String.ofList

/-- The condition of a clause, if it has a predicate. -/
def readFilter? (s : List Char) : Except Crash (Option Condition) := do
  let condition ← readCondition s
  pure (if condition.isEmpty then none else some condition)

namespace Statement

/-- Takes a clause into the statement, unless it has one of this kind or the text cannot be read. -/
def addClause (q : Statement) (clause : Clause) (body : List Char) : Except Crash Statement :=
  match clause with
  | .source => .ok { q with source := q.source <|> readName? body }
  | .filter => (readFilter? body).map fun condition =>
    { q with filter := q.filter <|> condition }
  | .groupBy => .ok { q with groupBy := q.groupBy <|> readName? body }
  | .orderBy => .ok { q with orderBy := q.orderBy <|> sortKey? body .asc }
  | .limit => .ok { q with limit := q.limit <|> first? count body }

def addSections (q : Statement) (sections : List (Section Clause)) : Except Crash Statement :=
  sections.foldlM (fun acc s => acc.addClause s.phrase (Text.trim s.body)) q

/-- The statement without the semicolon that may end it. -/
def dropSemicolon (s : List Char) : List Char :=
  if s.getLast? = some ';' then s.dropLast else s

/-- The statement that a text is, if it starts with the word `SELECT`. -/
def parse? (s : List Char) : Except Crash (Option Statement) :=
  match keyword "SELECT" (dropSemicolon (Text.trim s)) with
  | some (_, body) =>
    let cut := cutAtPhrases Clause.phrases body
    (addSections { select := readSelect cut.lead } cut.sections).map some
  | none => .ok none

def aggregates (q : Statement) : List Aggregate :=
  q.select.filterMap Item.aggregate?

/-- The output columns, or none if all columns are kept. -/
def projections? (q : Statement) : Option (List Projection) :=
  if q.select.isEmpty || q.select.contains .wildcard then none
  else some (q.select.map Item.projection)

/-- The filter, unless it keeps everything. -/
def filterSteps (q : Statement) : List Operation :=
  match q.filter with
  | some condition => if condition.isEmpty then [] else [.filter condition]
  | none => []

/-- The grouping, if there is a field to group by or a computed column. -/
def groupSteps (q : Statement) : List Operation :=
  if q.groupBy.isSome || !q.aggregates.isEmpty then [.group ⟨q.groupBy, q.aggregates⟩] else []

def toPipeline (q : Statement) : Pipeline :=
  ⟨q.filterSteps ++ q.groupSteps ++ (q.orderBy.map Operation.sort).toList ++
    (q.limit.map fun n => Operation.limit ⟨n, .head⟩).toList ++
    (q.projections?.map Operation.project).toList⟩

end Statement

end LogLab.Query.Sql
