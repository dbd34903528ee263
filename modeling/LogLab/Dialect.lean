import LogLab.Text.Blank
import LogLab.Text.Lowercase

/-! # Query dialects

The four languages a question can be asked in.
-/

namespace LogLab

/-- A query language: a `SELECT` statement, two kinds of command pipelines, or a detection rule. -/
inductive Dialect where
  | sql
  | spl
  | kql
  | sigma
  deriving DecidableEq, Repr, Inhabited

/-- A text that names no dialect. -/
structure UnsupportedDialect where
  text : String
  deriving DecidableEq, Repr, Inhabited

def UnsupportedDialect.message (e : UnsupportedDialect) : String :=
  "Unsupported query language: " ++ e.text

namespace Dialect

def all : List Dialect := [sql, spl, kql, sigma]

def tag : Dialect → String
  | sql => "sql"
  | spl => "spl"
  | kql => "kql"
  | sigma => "sigma"

def heading : Dialect → String
  | sql => "SQL"
  | spl => "SPL"
  | kql => "KQL"
  | sigma => "SIGMA"

instance : ToString Dialect := ⟨tag⟩

def ofTag? (s : String) : Option Dialect :=
  all.find? (·.tag == s)

/-- The dialect that a text names, with blanks around it and in any letter case. -/
def parse? (s : String) : Option Dialect :=
  ofTag? (String.ofList (Text.asciiLower (Text.trim s.toList)))

def ofText (s : String) : Except UnsupportedDialect Dialect :=
  match parse? s with
  | some d => .ok d
  | none => .error ⟨s⟩

theorem mem_all (d : Dialect) : d ∈ all := by
  cases d <;> decide

theorem ofTag?_tag (d : Dialect) : ofTag? d.tag = some d := by
  cases d <;> decide

theorem tag_inj {d e : Dialect} : d.tag = e.tag ↔ d = e := by
  cases d <;> cases e <;> decide

end Dialect

end LogLab
