import LogLab.Query.Split

/-! # Search pipelines

A query is a list of commands between bars, each compiled to one operation. Unknown commands, and
commands whose arguments cannot be understood, are left out.
-/

namespace LogLab.Query.Spl

open Scan

/-- A term `field=value` of a search; the value is a literal. -/
def searchTerm : Scan Predicate := do
  let field ← name
  char '='
  let value ← literal
  pure ⟨String.ofList field, .contains, String.ofList (value.filter (· != '*'))⟩

/-- The terms of a search. The word `AND` and anything that is no term are passed over, and stars
in a value are dropped. -/
def search (args : List Char) : Operation :=
  .filter ⟨((splitWords args).filter fun word => !Text.eqIgnoringCase word "AND".toList).filterMap
    (whole? searchTerm)⟩

def filter? (args : List Char) : Except Crash (Option Operation) := do
  let condition ← readCondition args
  pure (if condition.isEmpty then none else some (.filter condition))

def parenthesized : Scan (List Char) := do
  char '('
  upTo ')'

theorem leavesEnd_parenthesized : LeavesEnd parenthesized :=
  (leavesEnd_char '(').bind fun _ => leavesEnd_upTo ')'

/-- A count of rows after the word `count`: an argument that does not matter and a name for the
result. -/
def countSuffix : Scan Aggregate := do
  let _ ← maybe (do gaps; parenthesized)
  let label ← maybe labelSuffix
  pure (.countRows (label.map String.ofList))

theorem leavesEnd_countSuffix : LeavesEnd countSuffix :=
  (leavesEnd_gaps.bind fun _ => leavesEnd_parenthesized).maybe.bind fun _ =>
    leavesEnd_labelSuffix.maybe.bind fun _ => leavesEnd_pure _

def countItem : Scan Aggregate := do
  keyword "count"
  countSuffix

theorem length_lt_of_countItem {s rest : List Char} {a : Aggregate}
    (h : countItem s = some (a, rest)) : rest.length < s.length := by
  obtain ⟨⟨_, between⟩, hword, hsuffix⟩ := Option.bind_eq_some_iff.1 h
  have hlen := length_of_dropWord? (dropWord?_of_keyword hword)
  have hle := (leavesEnd_countSuffix.suffix hsuffix).length_le
  have : "count".toList.length = 5 := by decide
  omega

/-- Any other computed column behind its first character: a function with an argument, or just an
argument if the character opens it, and a name for the result. -/
def otherItem (c : Char) : Scan Unit := do
  if c = '(' then let _ ← upTo ')'
  else
    let _ ← takeWhile fun d => !Text.isBlank d && d != ',' && d != '('
    let _ ← maybe parenthesized
  let _ ← maybe labelSuffix

theorem leavesEnd_otherItem (c : Char) : LeavesEnd (otherItem c) := by
  have hend : LeavesEnd (do let _ ← maybe labelSuffix : Scan Unit) :=
    leavesEnd_labelSuffix.maybe.bind fun _ => leavesEnd_pure _
  unfold otherItem
  split
  · exact (leavesEnd_upTo ')').bind fun _ => hend
  · exact (leavesEnd_takeWhile _).bind fun _ => leavesEnd_parenthesized.maybe.bind fun _ => hend

/-- What may stand between two computed columns. -/
def isItemGap (c : Char) : Bool :=
  Text.isBlank c || c == ','

/-- The text after a computed column that is not a count, or after a single stray character. -/
def skipItem (c : Char) (cs : List Char) : List Char :=
  ((otherItem c cs).map Prod.snd).getD cs

theorem length_skipItem_le (c : Char) (cs : List Char) : (skipItem c cs).length ≤ cs.length := by
  unfold skipItem
  cases h : otherItem c cs with
  | none => simp
  | some found => exact ((leavesEnd_otherItem c).suffix h).length_le

/-- The counts in a list of computed columns; the other columns are passed over. -/
def countItems (s : List Char) : List Aggregate :=
  match _ : s.dropWhile isItemGap with
  | [] => []
  | c :: cs =>
    match _ : countItem (c :: cs) with
    | some (aggregate, rest) => aggregate :: countItems rest
    | none => countItems (skipItem c cs)
termination_by s.length
decreasing_by
  all_goals
    have hgap := (List.dropWhile_suffix (l := s) isItemGap).length_le
    rw [‹s.dropWhile isItemGap = _›] at hgap
  · have := length_lt_of_countItem ‹_›
    omega
  · have := length_skipItem_le c cs
    rw [List.length_cons] at hgap
    omega

def stats? (args : List Char) : Option Operation :=
  match splitPhrase ["by"] args with
  | aggregates :: group :: _ =>
    (first? name (Text.trim group)).map fun field =>
      .group ⟨some (String.ofList field), countItems aggregates⟩
  | _ => none

/-- The columns of a table, separated by blanks or commas, at least one. -/
def table? (args : List Char) : Option Operation :=
  let columns := Text.fieldsAt (fun c => Text.isBlank c || c == ',') args
  if columns.isEmpty then none
  else some (.project (columns.map fun field => ⟨String.ofList field, none⟩))

/-- The key of a sort. A minus in front makes it descending unless a direction is given. -/
def sort? (args : List Char) : Option Operation :=
  match Text.trim args with
  | '-' :: key => (sortKey? key .desc).map .sort
  | '+' :: key => (sortKey? key .asc).map .sort
  | key => (sortKey? key .asc).map .sort

def operation? (word args : List Char) : Except Crash (Option Operation) :=
  if word = "search".toList then .ok (some (search args))
  else if word = "where".toList then filter? args
  else if word = "stats".toList then .ok (stats? args)
  else if word = "table".toList then .ok (table? args)
  else if word = "head".toList then .ok ((count? args).map fun n => .limit ⟨n, .head⟩)
  else if word = "tail".toList then .ok ((count? args).map fun n => .limit ⟨n, .tail⟩)
  else if word = "sort".toList then .ok (sort? args)
  else .ok none

def readSegment? (segment : List Char) : Except Crash (Option Operation) :=
  operation? (command segment).1 (command segment).2

def compile (query : List Char) : Except Crash Pipeline :=
  ((splitPipeline query).filterMapM readSegment?).map .mk

end LogLab.Query.Spl
