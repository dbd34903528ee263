import LogLab.Dialect
import LogLab.Pipeline.Eval
import LogLab.Query.Kql
import LogLab.Query.Sigma
import LogLab.Query.Spl
import LogLab.Query.Sql

/-! # Compiling and running queries

A query text is compiled by the rules of its dialect and run on a dataset. Statements and rules can
fail to compile; command pipelines cannot. All but rules can crash.
-/

namespace LogLab

inductive QueryError where
  | missingSelect
  | missingSelection
  deriving DecidableEq, Repr, Inhabited

def QueryError.message : QueryError → String
  | missingSelect => "Query must start with SELECT"
  | missingSelection => "Invalid Sigma rule format: no detection.selection block found"

namespace Query

def compileSql (query : List Char) : Except (Halt QueryError) Pipeline := do
  match ← Sql.Statement.parse? query with
  | some statement => pure statement.toPipeline
  | none => throw (.failed .missingSelect)

def compileSigma (query : List Char) : Except QueryError Pipeline :=
  match Sigma.Rule.parse? query with
  | some rule => .ok rule.toPipeline
  | none => .error .missingSelection

def compile (dialect : Dialect) (query : String) : Except (Halt QueryError) Pipeline :=
  match dialect with
  | .sql => compileSql query.toList
  | .spl => liftM (Spl.compile query.toList)
  | .kql => liftM (Kql.compile query.toList)
  | .sigma => liftM (compileSigma query.toList)

/-- A compiled query and the records it gives. -/
structure Answer where
  pipeline : Pipeline
  results : Dataset
  deriving Repr

/-- Compiles a query and applies it to a dataset. -/
def run (dialect : Dialect) (query : String) (data : Dataset) : Except (Halt QueryError) Answer :=
  (compile dialect query).map fun pipeline => ⟨pipeline, pipeline.apply data⟩

end Query

end LogLab
