import LogLab.Proofs.Pipeline.Groups
import LogLab.Proofs.Query.SearchCommands
import LogLab.Proofs.Query.SelectStatement
import Mathlib.Algebra.Group.Nat.Defs

/-! # One question in three dialects

How many records with a value in one field there are for each value of another field, the largest
numbers first. A statement and the two kinds of pipelines that ask this give the same answer.
-/

namespace LogLab.Query

open Scan Text

/-- Words that are no names in any of the dialects, in any letter case. -/
def keywords : List String := ["FROM", "WHERE", "GROUP", "ORDER", "BY", "LIMIT", "AND"]

/-- A name that can stand for a field or a table in every dialect. -/
structure IsField (field : String) : Prop where
  isName : IsName field.toList
  free : ∀ word ∈ keywords, ¬ Spelled word field.toList

def IsField.name {field : String} (h : IsField field) : Name Sql.reserved :=
  ⟨field.toList, h.isName, fun word hw => h.free word (by revert word; decide)⟩

def countName : Name Sql.reserved := ⟨"count".toList, by decide, by decide⟩

/-- What is asked: the table, the field that is searched and the value searched for, the field that
is grouped by, and how many groups are wanted. -/
structure Question where
  table : String
  field : String
  value : String
  group : String
  limit : Nat
  isField : ∀ name ∈ [table, field, group], IsField name
  quote_not_mem : '"' ∉ value.toList
  star_not_mem : '*' ∉ value.toList
  limit_lt : limit < 2 ^ 64

namespace Question

variable (q : Question)

def sql : String :=
  "SELECT " ++ q.group ++ ", COUNT(*) AS count" ++ " FROM " ++ q.table ++
    " WHERE " ++ q.field ++ " CONTAINS \"" ++ q.value ++ "\"" ++ " GROUP BY " ++ q.group ++
    " ORDER BY count DESC" ++ " LIMIT " ++ toString q.limit

def spl : String :=
  "search " ++ q.field ++ "=\"" ++ q.value ++ "\"" ++ " | stats count by " ++ q.group ++
    " | sort -count" ++ " | head " ++ toString q.limit

def kql : String :=
  q.table ++ " | where " ++ q.field ++ " contains \"" ++ q.value ++ "\"" ++
    " | summarize count() by " ++ q.group ++ " | sort by count desc" ++ " | take " ++
    toString q.limit

def operations (label : Option String) : List Operation :=
  [.filter ⟨[⟨q.field, .contains, q.value⟩]⟩, .group ⟨some q.group, [.countRows label]⟩,
    .sort ⟨"count", .desc⟩, .limit ⟨UInt64.ofNat q.limit, .head⟩]

theorem isField_table : IsField q.table := q.isField _ (by simp)
theorem isField_field : IsField q.field := q.isField _ (by simp)
theorem isField_group : IsField q.group := q.isField _ (by simp)

def body : Sql.Body where
  entries := ⟨.column q.isField_group.name none, [⟨.none, Gap.space.toSpacing, .aggregate
    ⟨.count, .given "COUNT", .none, .none, .star, .none⟩
    (some ⟨.space, .given "AS", .space, countName⟩)⟩]⟩
  source := some (.single "FROM", q.isField_table.name)
  filter := some (.single "WHERE", ⟨⟨⟨q.isField_field.name, .space,
    .contains (.given "CONTAINS"), .space⟩, .quoted '"' q.value.toList rfl q.quote_not_mem⟩, []⟩)
  groupBy := some (.pair "GROUP" "BY", q.isField_group.name)
  orderBy := some (.pair "ORDER" "BY", ⟨countName, some ⟨.space, .desc, .given "DESC"⟩⟩)
  limit := some (.single "LIMIT", ⟨Nat.toDigits 10 q.limit, isCount_toDigits q.limit_lt⟩)

theorem chars_entries : q.body.entries.chars = q.group.toList ++ ", COUNT(*) AS count".toList :=
  congrArg (· ++ ", COUNT(*) AS count".toList) (List.append_nil q.group.toList)

theorem chars_source : Sql.clauseChars Name.chars q.body.source =
    " FROM ".toList ++ q.table.toList :=
  rfl

theorem chars_filter : Sql.clauseChars Terms.chars q.body.filter = " WHERE ".toList ++
    (q.field.toList ++ (" CONTAINS \"".toList ++ (q.value.toList ++ "\"".toList))) := by
  have h : ∀ s : List Char, q.field.toList ++ " CONTAINS ".toList ++ ('"' :: s) ++ [] =
      q.field.toList ++ (" CONTAINS \"".toList ++ s) := fun s => by
    rw [List.append_nil, List.append_assoc]
    rfl
  exact congrArg (" WHERE ".toList ++ ·) (h (q.value.toList ++ "\"".toList))

theorem chars_groupBy : Sql.clauseChars Name.chars q.body.groupBy =
    " GROUP BY ".toList ++ q.group.toList :=
  rfl

theorem chars_orderBy : Sql.clauseChars Order.chars q.body.orderBy =
    " ORDER BY count DESC".toList :=
  rfl

theorem chars_limit : Sql.clauseChars Digits.chars q.body.limit =
    " LIMIT ".toList ++ Nat.toDigits 10 q.limit :=
  rfl

theorem toList_sql : q.sql.toList = "SELECT ".toList ++ q.body.chars := by
  rw [Sql.Body.chars, chars_entries, chars_source, chars_filter, chars_groupBy, chars_orderBy,
    chars_limit, ← Numeral.toList_toString]
  unfold sql
  simp only [String.toList_append, List.append_assoc]

theorem getLast?_body : q.body.chars.getLast? ≠ some ';' := by
  have hdigits := isCount_toDigits q.limit_lt
  have hlast : q.body.chars.getLast? = (Nat.toDigits 10 q.limit).getLast? := by
    rw [Sql.Body.chars, chars_limit]
    simp only [List.getLast?_append, List.getLast?_eq_some_getLast hdigits.ne_nil, Option.some_or]
  intro h
  have hd := hdigits.isDigit ';' (List.mem_of_getLast? (hlast.symm.trans h))
  cases hd

theorem statement_body : q.body.statement = {
    select := [.column ⟨q.group, none⟩, .aggregate ⟨.count, "*", some "count"⟩]
    source := some q.table
    filter := some ⟨[⟨q.field, .contains, q.value⟩]⟩
    groupBy := some q.group
    orderBy := some ⟨"count", .desc⟩
    limit := some (UInt64.ofNat q.limit) } := by
  simp [Sql.Body.statement, body, Sql.Entries.items, Sql.Entry.item, IsField.name, Terms.condition,
    Term.predicate, Test.predicate, Operator.comparison, Literal.value, Order.key, countName,
    Sql.Argument.chars, Numeral.digitsValue_toDigits]

theorem compile_sql : compile .sql q.sql =
    .ok ⟨q.operations (some "count") ++ [.project (countColumns q.group)]⟩ := by
  let w : Sql.Written := ⟨.none, .given "SELECT", .space, q.body, .none, false, .none,
    fun _ => q.getLast?_body⟩
  have hchars : w.chars = q.sql.toList := by
    rw [toList_sql]
    simp only [w, Sql.Written.chars, Sql.Written.core, Spacing.none, Bool.false_eq_true, if_false,
      List.append_nil, List.nil_append]
    rfl
  have hparse := q.body.parse?_eq (s := q.sql.toList) (.given "SELECT") .space .none
    (hchars ▸ w.dropSemicolon_trim)
  rw [compile, compileSql, hparse, statement_body]
  rfl

theorem isCount : IsCount (Nat.toDigits 10 q.limit) := isCount_toDigits q.limit_lt

theorem not_spelled_by : ¬ Spelled "by" q.group.toList :=
  q.isField_group.free "BY" (by decide)

def countColumn : Spl.Column := ⟨⟨"count".toList, by decide, by decide⟩, none, none⟩

def searchCommands : List Spl.Command :=
  [⟨.search (some ⟨⟨⟨q.field.toList, q.isField_field.isName, by simp⟩,
      .quoted ⟨'"', q.value.toList, rfl, q.quote_not_mem⟩⟩, []⟩), .given "search"⟩,
    ⟨.stats ⟨countColumn, []⟩
      ⟨q.group.toList, q.isField_group.isName, by simpa using q.not_spelled_by⟩, .given "stats"⟩,
    ⟨.sort ⟨some (.minus, .none), ⟨⟨"count".toList, by decide, by decide⟩, none⟩⟩, .given "sort"⟩,
    ⟨.limit .head ⟨Nat.toDigits 10 q.limit, q.isCount⟩, .given "head"⟩]

theorem toList_spl : q.spl.toList = joinBars (q.searchCommands.map Spl.Command.chars) := by
  have hsearch : (q.field.toList ++ '=' :: quotation '"' q.value.toList) ++ [] =
      q.field.toList ++ ("=\"".toList ++ (q.value.toList ++ "\"".toList)) :=
    List.append_nil _
  unfold spl
  simp only [String.toList_append, List.append_assoc, Numeral.toList_toString]
  refine (congrArg ("search ".toList ++ ·) ?_).trans
    (congrArg (fun s => "search ".toList ++ (s ++ _)) hsearch.symm)
  simp only [List.append_assoc]
  rfl

theorem operations_searchCommands :
    q.searchCommands.map Spl.Command.operation = q.operations none := by
  have hstars : q.value.toList.filter (· != '*') = q.value.toList :=
    List.filter_eq_self.mpr fun c hc => bne_iff_ne.mpr fun he => q.star_not_mem (he ▸ hc)
  have hcount : countColumn.count? = some .countRows := by decide
  simp [searchCommands, operations, Spl.Command.operation, Spl.Arguments.operation, Joined.items,
    Spl.SearchTerm.predicate, Spl.SearchValue.literal, QuotedValue.literal, Literal.value, hstars,
    Numeral.digitsValue_toDigits, Spl.SignedOrder.key, Order.key, Spl.Sign.direction,
    Spl.Columns.counts, hcount]

theorem compile_spl : compile .spl q.spl = .ok ⟨q.operations none⟩ := by
  refine Query.compile_spl ?_
  rw [toList_spl, Spl.compile_joinBars, operations_searchCommands]

theorem isSegment_group : IsSegment q.group.toList := isSegment_of_isName q.isField_group.isName
theorem isSegment_limit : IsSegment (Nat.toDigits 10 q.limit) :=
  isSegment_of_isName q.isCount.isName

theorem first?_group : first? name (trim (' ' :: q.group.toList)) = some q.group.toList :=
  first?_name_trim q.isField_group.isName

theorem count?_limit : count? (Nat.toDigits 10 q.limit) = some (UInt64.ofNat q.limit) := by
  rw [q.isCount.count?_eq, Numeral.digitsValue_toDigits]

def term : Term Sql.reserved :=
  ⟨⟨q.isField_field.name, .space, .contains ⟨"contains".toList, by decide⟩, .space⟩,
    .quoted '"' q.value.toList rfl q.quote_not_mem⟩

theorem isSegment_term : IsSegment q.term.chars :=
  ⟨(q.term.test.unbroken (isNameChar_of_mem_signs '|' (by decide)) rfl (by decide)).append
    (isSegment_quotation q.quote_not_mem).unbroken, q.term.trimmed, q.term.chars_ne_nil⟩

theorem isSegment_summarizeArgs : IsSegment ("count() by ".toList ++ q.group.toList) :=
  (isSegment_of_isName (s := "count".toList) (by decide)).between (g := "() by ".toList)
    ⟨by decide, by decide⟩ q.isSegment_group

theorem readSegment?_table : Kql.readSegment? q.table.toList = .ok none := by
  rw [Kql.readSegment?, command_of_isName q.isField_table.isName, Kql.operation?_nil]

theorem readSegment?_where : Kql.readSegment? ("where ".toList ++ q.term.chars) =
    .ok (some (.filter ⟨[⟨q.field, .contains, q.value⟩]⟩)) := by
  have hcommand : command ("where ".toList ++ q.term.chars) = ("where".toList, q.term.chars) :=
    command_append "where".toList (by decide) (by decide) q.isSegment_term
  have hpredicate : q.term.predicate = ⟨q.field, .contains, q.value⟩ := by
    simp [term, Term.predicate, Test.predicate, IsField.name, Operator.comparison, Literal.value]
  have hfilter : Kql.filter? q.term.chars =
      .ok (some (.filter ⟨[⟨q.field, .contains, q.value⟩]⟩)) := by
    rw [Kql.filter?, q.term.trimmed.trim_eq, q.term.first?_predicate, hpredicate]
    rfl
  rw [Kql.readSegment?, hcommand]
  exact hfilter

theorem readSegment?_summarize : Kql.readSegment? ("summarize count() by ".toList ++
    q.group.toList) = .ok (some (.group ⟨some q.group, [.countRows]⟩)) := by
  have hcommand : command ("summarize count() by ".toList ++ q.group.toList) =
      ("summarize".toList, "count() by ".toList ++ q.group.toList) :=
    command_append "summarize".toList (by decide) (by decide) q.isSegment_summarizeArgs
  have hpasses : ∀ t, Stops isNameChar t → Passes byPhrase "count()".toList t := fun t _ =>
    Passes.append (s := "count".toList) (t := "()".toList)
      (passes_name wellFormed_byPhrase (by decide) (by decide)
        (stops_cons.mpr (isNameChar_of_mem_signs '(' (by decide))))
      (passes_of_stops wellFormed_byPhrase (by decide +kernel))
  have hsplit : splitPhrase ["by"] ("count() by ".toList ++ q.group.toList) =
      ["count() ".toList, ' ' :: q.group.toList] :=
    splitPhrase_by hpasses q.isField_group.isName q.not_spelled_by
  have hcount : (Kql.listItems "count() ".toList).filterMap Kql.countCall? = [.countRows] := by
    decide +kernel
  have hsummarize : Kql.summarize? ("count() by ".toList ++ q.group.toList) =
      some (.group ⟨some q.group, [.countRows]⟩) := by
    rw [Kql.summarize?, hsplit]
    simp only [q.first?_group, hcount, Option.map_some, String.ofList_toList]
  rw [Kql.readSegment?, hcommand]
  exact congrArg Except.ok hsummarize

theorem readSegment?_take : Kql.readSegment? ("take ".toList ++ Nat.toDigits 10 q.limit) =
    .ok (some (.limit ⟨UInt64.ofNat q.limit, .head⟩)) := by
  have hcommand : command ("take ".toList ++ Nat.toDigits 10 q.limit) =
      ("take".toList, Nat.toDigits 10 q.limit) :=
    command_append "take".toList (by decide) (by decide) q.isSegment_limit
  rw [Kql.readSegment?, hcommand]
  exact congrArg (Except.ok ∘ Option.map fun n => Operation.limit ⟨n, .head⟩) q.count?_limit

theorem toList_kql : q.kql.toList = joinBars [q.table.toList, "where ".toList ++ q.term.chars,
    "summarize count() by ".toList ++ q.group.toList, "sort by count desc".toList,
    "take ".toList ++ Nat.toDigits 10 q.limit] := by
  have hterm : q.term.chars = q.field.toList ++ (" contains \"".toList ++
      (q.value.toList ++ "\"".toList)) :=
    List.append_assoc _ _ _
  unfold kql
  simp only [String.toList_append, List.append_assoc, Numeral.toList_toString, hterm, joinBars]
  rfl

theorem isSegment_kql : ∀ s ∈ [q.table.toList, "where ".toList ++ q.term.chars,
    "summarize count() by ".toList ++ q.group.toList, "sort by count desc".toList,
    "take ".toList ++ Nat.toDigits 10 q.limit], IsSegment s := by
  simp only [List.forall_mem_cons, List.not_mem_nil, false_implies, implies_true, and_true]
  exact ⟨isSegment_of_isName q.isField_table.isName,
    isSegment_append "where".toList (by decide) q.isSegment_term,
    isSegment_append "summarize".toList (by decide) q.isSegment_summarizeArgs,
    ⟨⟨by decide, by decide⟩, ⟨by decide, by decide⟩, by decide⟩,
    isSegment_append "take".toList (by decide) q.isSegment_limit⟩

theorem compile_kql : compile .kql q.kql = .ok ⟨q.operations none⟩ := by
  have hsort : Kql.readSegment? "sort by count desc".toList =
      .ok (some (.sort ⟨"count", .desc⟩)) := by
    decide +kernel
  refine Query.compile_kql (Kql.compile_eq ?_)
  rw [toList_kql, splitPipeline_joinBars q.isSegment_kql]
  simp only [List.filterMapM_cons, q.readSegment?_table, q.readSegment?_where,
    q.readSegment?_summarize, hsort, q.readSegment?_take]
  rfl

/-- The projection of the statement keeps the records of the groups. -/
theorem apply_sql (data : Dataset) :
    (⟨q.operations (some "count") ++ [.project (countColumns q.group)]⟩ : Pipeline).apply data =
      (⟨q.operations none⟩ : Pipeline).apply data := by
  rw [Pipeline.apply_append]
  exact Projection.project_groups ⟨"count", .desc⟩ ⟨UInt64.ofNat q.limit, .head⟩

/-- A question has one answer in all three dialects. -/
theorem run_eq (data : Dataset) : ∃ results,
    (run .sql q.sql data).map Answer.results = .ok results ∧
      (run .spl q.spl data).map Answer.results = .ok results ∧
      (run .kql q.kql data).map Answer.results = .ok results := by
  refine ⟨(⟨q.operations none⟩ : Pipeline).apply data, ?_, ?_, ?_⟩
  · rw [run_of_compile q.compile_sql, ← q.apply_sql]
    rfl
  · rw [run_of_compile q.compile_spl]
    rfl
  · rw [run_of_compile q.compile_kql]
    rfl

-- A value with a bar and a word of the pipelines in it.
example : ∃ q : Question, q.kql = "logs | where user contains \"a | by\"" ++
    " | summarize count() by host | sort by count desc | take 5" :=
  ⟨⟨"logs", "user", "a | by", "host", 5, by
    simp only [List.forall_mem_cons, List.not_mem_nil, false_implies, implies_true, and_true]
    exact ⟨⟨by decide, by decide⟩, ⟨by decide, by decide⟩, ⟨by decide, by decide⟩⟩,
    by decide, by decide, by decide⟩, by decide⟩

end Question

end LogLab.Query
