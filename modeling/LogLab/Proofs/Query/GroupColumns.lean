import LogLab.Proofs.Pipeline.Partition
import LogLab.Proofs.Query.Segments
import LogLab.Query.Compile

/-! # Columns that a group loses

The value of a group and its computed columns are put into one record by name, so that of columns
with the same name only the last one is kept. The value gives way to every column with the name of
the grouping field, and so it is lost where rows are counted by a field that is named `count`.
-/

namespace LogLab

theorem Json.ofNumber_ne_string {x : Float} {s : String} : ofNumber x ≠ .string s := by
  unfold ofNumber
  repeat' split
  all_goals nofun

namespace Aggregate

variable {a : Aggregate} {rows : List Record}

theorem extremum_ne_string {pick : Float → Float → Float} {xs : List (Option Float)}
    {s : String} : extremum pick xs ≠ .string s := by
  unfold extremum
  split
  · nofun
  · exact Json.ofNumber_ne_string

/-- No aggregate computes a text. -/
theorem reduce_ne_string {s : String} : a.reduce rows ≠ .string s := by
  unfold reduce
  split
  · nofun
  · exact Json.ofNumber_ne_string
  · split
    · nofun
    · exact Json.ofNumber_ne_string
  · exact extremum_ne_string
  · exact extremum_ne_string

end Aggregate

namespace Grouping

variable {field : String} {aggregates : List Aggregate} {data : Dataset}

/-- The record of every group holds the value of the group in the grouping field. -/
def KeepsValues (field : String) (aggregates : List Aggregate) (data : Dataset) : Prop :=
  ∀ g ∈ Group.collect field data, (g.summarize field aggregates).get? field = some g.value

/-- The record of every group holds what each aggregate computes, under its name. -/
def KeepsAggregates (field : String) (aggregates : List Aggregate) (data : Dataset) : Prop :=
  ∀ g ∈ Group.collect field data, ∀ a ∈ aggregates,
    (g.summarize field aggregates).get? a.outputName = some (a.reduce g.rows)

/-- The group of a record whose value is a text loses it to an aggregate with the name of the
field. -/
theorem not_keepsValues_singleton (h : field ∈ aggregates.map Aggregate.outputName) :
    ¬KeepsValues field aggregates [Record.empty.insert field (.string "a")] := by
  intro hkeeps
  have hfield : (Record.empty.insert field (.string "a")).field? field = some (.string "a") := by
    rw [Record.field?, Record.get?_insert, if_pos rfl]
    rfl
  have hkept := hkeeps _ (List.mem_singleton_self _)
  rw [Group.summarize, Aggregate.get?_addAll_insert, Group.opened, hfield] at hkept
  split at hkept
  · exact Aggregate.reduce_ne_string (Option.some.inj hkept)
  · next hlast => exact Aggregate.lastNamed?_eq_none_iff.mp hlast h

/-- A grouping keeps the values of the groups of every dataset exactly if no aggregate has the name
of its field. -/
theorem keepsValues_iff :
    (∀ data, KeepsValues field aggregates data) ↔ field ∉ aggregates.map Aggregate.outputName := by
  refine ⟨fun hkeeps h => not_keepsValues_singleton h (hkeeps _), fun h data g _ => ?_⟩
  rw [Group.summarize, Aggregate.get?_addAll_insert, Aggregate.lastNamed?_eq_none_iff.mpr h]
  exact if_pos rfl

/-- The record of a group keeps all computed columns exactly if those with the same name have the
same value. -/
theorem keepsAggregates_iff : KeepsAggregates field aggregates data ↔
    ∀ g ∈ Group.collect field data, ∀ a ∈ aggregates, ∀ b ∈ aggregates,
      a.outputName = b.outputName → a.reduce g.rows = b.reduce g.rows := by
  constructor
  · intro hkeeps g hg a ha b hb hname
    have hvalue := hkeeps g hg a ha
    rw [hname, hkeeps g hg b hb] at hvalue
    exact (Option.some.inj hvalue).symm
  · intro hsame g hg a ha
    rw [Group.summarize, Aggregate.get?_addAll_insert]
    split
    · next b hlast =>
      obtain ⟨hb, hname⟩ := Aggregate.mem_of_lastNamed? hlast
      exact congrArg some (hsame g hg b hb a ha hname)
    · next hlast =>
      exact absurd (List.mem_map_of_mem ha) (Aggregate.lastNamed?_eq_none_iff.mp hlast)

/-- Which columns the records of the groups keep: for every dataset the values of the groups if no
aggregate has the name of the field, and those of the aggregates where equal names mean equal
values. -/
theorem columns_kept (field : String) (aggregates : List Aggregate) :
    ((∀ data, KeepsValues field aggregates data) ↔
        field ∉ aggregates.map Aggregate.outputName) ∧
      ∀ data, KeepsAggregates field aggregates data ↔
        ∀ g ∈ Group.collect field data, ∀ a ∈ aggregates, ∀ b ∈ aggregates,
          a.outputName = b.outputName → a.reduce g.rows = b.reduce g.rows :=
  ⟨keepsValues_iff, fun _ => keepsAggregates_iff⟩

end Grouping

namespace Query.Spl

theorem countItems_count : countItems "count ".toList = [.countRows] := by
  have hitem : countItem "count ".toList = some (.countRows, " ".toList) := by decide +kernel
  exact (countItems_eq_cons rfl hitem).trans (congrArg _ (countItems_eq_nil rfl))

theorem stats?_count :
    stats? "count by count".toList = some (.group ⟨some "count", [.countRows]⟩) := by
  have hparts : splitPhrase ["by"] "count by count".toList =
      ["count ".toList, " count".toList] := by decide +kernel
  have hgroup : Scan.first? Scan.name (Text.trim " count".toList) = some "count".toList := by
    decide +kernel
  rw [stats?, hparts]
  dsimp only
  rw [countItems_count, hgroup]
  rfl

theorem compile_statsCount : compile "stats count by count".toList =
    .ok ⟨[.group ⟨some "count", [.countRows]⟩]⟩ := by
  have hsegments : splitPipeline "stats count by count".toList =
      ["stats count by count".toList] := by decide +kernel
  have hsegment : readSegment? "stats count by count".toList =
      .ok (some (.group ⟨some "count", [.countRows]⟩)) := congrArg Except.ok stats?_count
  rw [compile, hsegments, List.filterMapM_cons, hsegment]
  rfl

end Query.Spl

/-- Rows that are counted by the field `count` lose their key: the record of the only group has the
number of its rows there, and not the text `a`. -/
theorem lost_key_of_count_by_count :
    ∃ data g, Query.compile .spl "stats count by count" =
        .ok ⟨[.group ⟨some "count", [.countRows]⟩]⟩ ∧
      Group.collect "count" data = [g] ∧ g.value = .string "a" ∧
      (g.summarize "count" [.countRows]).get? "count" = some (.int 1) ∧
      ¬Grouping.KeepsValues "count" [.countRows] data := by
  refine ⟨[Record.empty.insert "count" (.string "a")], _,
    Query.compile_spl Query.Spl.compile_statsCount, rfl, rfl, rfl, ?_⟩
  intro hkeeps
  cases hkeeps _ (List.mem_singleton_self _)

end LogLab
