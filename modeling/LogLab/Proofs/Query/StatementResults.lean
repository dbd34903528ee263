import LogLab.Proofs.Pipeline.Columns
import LogLab.Proofs.Pipeline.Partition
import LogLab.Proofs.Query.Composition

/-! # Results of statements

What is true of the results of a statement whatever the records are that it runs on.
-/

namespace LogLab.Query.Sql

namespace Statement

variable {q : Statement} {key : SortKey}

/-- What a statement does after sorting: a limit and a projection. -/
def laterSteps (q : Statement) : List Operation :=
  (q.limit.map fun n => Operation.limit ⟨n, .head⟩).toList ++
    (q.projections?.map Operation.project).toList

theorem toPipeline_eq (h : q.orderBy = some key) :
    q.toPipeline = ⟨q.filterSteps ++ q.groupSteps ++ (.sort key :: q.laterSteps)⟩ := by
  rw [toPipeline, h, laterSteps]
  simp

theorem mem_of_projections?_eq {columns : List Projection} (h : q.projections? = some columns) :
    ∀ p ∈ columns, .column p ∈ q.select ∨ p.label = none := by
  unfold projections? at h
  split at h
  · cases h
  · obtain rfl := Option.some.inj h
    intro p hp
    obtain ⟨item, hitem, rfl⟩ := List.mem_map.mp hp
    cases item with
    | wildcard => exact .inr rfl
    | column p => exact .inl hitem
    | aggregate a => exact .inr rfl

theorem keepsOrder_of_mem_laterSteps {name : String}
    (h : ∀ p, .column p ∈ q.select → p.outputName = name → p.field = name) :
    ∀ o ∈ q.laterSteps, o.KeepsOrder name := by
  intro o ho
  rcases List.mem_append.mp ho with ho | ho
  · obtain ⟨n, -, rfl⟩ := Option.map_eq_some_iff.mp (Option.mem_toList.mp ho)
    trivial
  · obtain ⟨columns, hcolumns, rfl⟩ := Option.map_eq_some_iff.mp (Option.mem_toList.mp ho)
    intro p hp hname
    rcases mem_of_projections?_eq hcolumns p hp with hmem | hlabel
    · exact h p hmem hname
    · rwa [Projection.outputName, hlabel] at hname

/-- The results of a statement with an order pass the check for this order, unless a column gives
the name of the field in it to another field. -/
theorem passes_sortedBy (q : Statement) (key : SortKey) (horder : q.orderBy = some key)
    (hselect : ∀ p, .column p ∈ q.select → p.outputName = key.field → p.field = key.field)
    (data : Dataset) :
    Check.passes (q.toPipeline.apply data) (.sortedBy key.field key.direction) = true := by
  rw [Check.passes_sortedBy_iff, toPipeline_eq horder, Pipeline.apply_append]
  have hsorted := SortKey.sorts_sort (k := key)
    ((⟨q.filterSteps ++ q.groupSteps⟩ : Pipeline).apply data)
  change key.Sorts ((⟨q.laterSteps⟩ : Pipeline).apply (key.sort _))
  exact Pipeline.sorts_apply (keepsOrder_of_mem_laterSteps hselect) hsorted

theorem passes_sortedBy_of_renamed :
    let q : Statement := {
      select := [.column ⟨"user", none⟩, .column ⟨"port", some "host"⟩,
        .aggregate ⟨.count, "*", some "n"⟩]
      groupBy := some "user"
      orderBy := some ⟨"n", .desc⟩
      limit := some 2 }
    let data : Dataset := [.ofList [("user", .string "a")], .ofList [("user", .string "b")],
      .ofList [("user", .string "b")]]
    q.orderBy = some ⟨"n", .desc⟩ ∧
      (∀ p, .column p ∈ q.select → p.outputName = "n" → p.field = "n") ∧
      Check.passes (q.toPipeline.apply data) (.sortedBy "n" .desc) = true := by
  have hselect : ∀ p : Projection, Item.column p ∈ ([.column ⟨"user", none⟩,
      .column ⟨"port", some "host"⟩, .aggregate ⟨.count, "*", some "n"⟩] : List Item) →
      p.outputName = "n" → p.field = "n" := by
    simp [Projection.outputName]
  exact ⟨rfl, hselect, passes_sortedBy _ ⟨"n", .desc⟩ rfl hselect _⟩

end Statement

end LogLab.Query.Sql

namespace LogLab

theorem Aggregate.contains_addAll {aggregates : List Aggregate} {rows : List Record}
    {out : Record} {name : String} : (addAll aggregates rows out).contains name = true ↔
      name ∈ aggregates.map outputName ∨ out.contains name = true := by
  rw [Record.contains, get?_addAll]
  cases hlast : lastNamed? name aggregates with
  | none => simp [lastNamed?_eq_none_iff.mp hlast, Record.contains]
  | some a =>
    obtain ⟨ha, rfl⟩ := mem_of_lastNamed? hlast
    simp only [Option.isSome_some, true_iff]
    exact .inl (List.mem_map_of_mem ha)

/-- The records of groups hold the grouping field and all computed columns. -/
theorem Grouping.contains_of_mem_apply {g : Grouping} {data : Dataset} {r : Record}
    (h : r ∈ g.apply data) : (∀ field ∈ g.groupBy, r.contains field = true) ∧
      ∀ a ∈ g.aggregates, r.contains a.outputName = true := by
  unfold apply at h
  split at h
  · next hnone =>
    obtain rfl := List.mem_singleton.mp h
    refine ⟨by simp [hnone], fun a ha => ?_⟩
    exact Aggregate.contains_addAll.mpr (.inl (List.mem_map_of_mem ha))
  · next field hsome =>
    obtain ⟨group, -, rfl⟩ := List.mem_map.mp h
    constructor
    · intro name hname
      obtain rfl : field = name := Option.some.inj (hsome.symm.trans hname)
      refine Aggregate.contains_addAll.mpr (.inr ?_)
      rw [Record.contains, Record.get?_insert, if_pos rfl]
      rfl
    · intro a ha
      exact Aggregate.contains_addAll.mpr (.inl (List.mem_map_of_mem ha))

theorem Limit.apply_project (bound : Limit) (columns : List Projection) (data : Dataset) :
    bound.apply (Projection.project columns data) =
      Projection.project columns (bound.apply data) := by
  unfold apply Projection.project
  cases bound.side with
  | head => exact List.map_take.symm
  | tail => rw [List.length_map, List.map_drop]

namespace Query.Sql.Statement

variable {q : Statement} {data : Dataset} {r : Record}

/-- What a statement does in front of its projection. -/
def earlierSteps (q : Statement) : List Operation :=
  q.filterSteps ++ q.groupSteps ++ (q.orderBy.map Operation.sort).toList ++
    (q.limit.map fun n => Operation.limit ⟨n, .head⟩).toList

theorem projections?_eq (hne : q.select ≠ []) (hwild : .wildcard ∉ q.select) :
    q.projections? = some (q.select.map Item.projection) := by
  rw [projections?, if_neg (by simp [hne, hwild])]

theorem apply_toPipeline (hne : q.select ≠ []) (hwild : .wildcard ∉ q.select) :
    q.toPipeline.apply data = Projection.project (q.select.map Item.projection)
      ((⟨q.earlierSteps⟩ : Pipeline).apply data) := by
  rw [toPipeline, projections?_eq hne hwild, ← earlierSteps, Pipeline.apply_append]
  rfl

/-- Sorting and a limit make no new records. -/
theorem mem_of_mem_order_limit {order : Option SortKey} {bound : Option UInt64}
    (h : r ∈ (⟨(bound.map fun n => Operation.limit ⟨n, .head⟩).toList⟩ : Pipeline).apply
      ((⟨(order.map Operation.sort).toList⟩ : Pipeline).apply data)) : r ∈ data := by
  have hsorted : r ∈ (⟨(order.map Operation.sort).toList⟩ : Pipeline).apply data := by
    cases bound with
    | none => exact h
    | some n =>
      have hlimit : r ∈ (⟨n, .head⟩ : Limit).apply _ := h
      exact Limit.mem_of_mem_apply hlimit
  cases order with
  | none => exact hsorted
  | some key => exact SortKey.mem_sort.mp hsorted

theorem exists_group_of_mem (hgroup : q.groupBy.isSome ∨ q.aggregates ≠ [])
    (h : r ∈ (⟨q.earlierSteps⟩ : Pipeline).apply data) :
    ∃ rows, r ∈ (⟨q.groupBy, q.aggregates⟩ : Grouping).apply rows := by
  have hsteps : q.groupSteps = [.group ⟨q.groupBy, q.aggregates⟩] := by
    rw [groupSteps, if_pos (by simpa using hgroup)]
  rw [earlierSteps, hsteps, Pipeline.apply_append, Pipeline.apply_append,
    Pipeline.apply_append] at h
  exact ⟨_, mem_of_mem_order_limit h⟩

/-- Where there is a grouping, all fields that the projection reads are in the records. -/
theorem contains_projection (hgroup : q.groupBy.isSome ∨ q.aggregates ≠ [])
    (hwild : .wildcard ∉ q.select)
    (hcolumns : ∀ p, .column p ∈ q.select → q.groupBy = some p.field)
    (hr : r ∈ (⟨q.earlierSteps⟩ : Pipeline).apply data) :
    ∀ item ∈ q.select, r.contains item.projection.field = true := by
  obtain ⟨rows, hrows⟩ := exists_group_of_mem hgroup hr
  obtain ⟨hfield, haggregates⟩ := Grouping.contains_of_mem_apply hrows
  intro item hitem
  cases item with
  | wildcard => exact absurd hitem hwild
  | column p => exact hfield p.field (hcolumns p hitem)
  | aggregate a => exact haggregates a (List.mem_filterMap.mpr ⟨_, hitem, rfl⟩)

/-- The columns of the results are those of the select list, in its order: a record may lack some of
them, but has them all if the statement groups and reads no field besides the one it groups by. -/
theorem keys_of_results (q : Statement) (hne : q.select ≠ []) (hwild : .wildcard ∉ q.select)
    (hnodup : (q.select.map Item.outputName).Nodup) (data : Dataset) :
    (∀ r ∈ q.toPipeline.apply data, r.keys.Sublist (q.select.map Item.outputName)) ∧
      ((q.groupBy.isSome ∨ q.aggregates ≠ []) →
        (∀ p, .column p ∈ q.select → q.groupBy = some p.field) →
        ∀ r ∈ q.toPipeline.apply data, r.keys = q.select.map Item.outputName) := by
  have hnames : (q.select.map Item.projection).map Projection.outputName =
      q.select.map Item.outputName := List.map_map
  have hkeys (r : Record) := Projection.keys_projectRecord (r := r) (hnames.symm ▸ hnodup)
  rw [apply_toPipeline hne hwild]
  constructor
  · intro out hout
    obtain ⟨r, -, rfl⟩ := List.mem_map.mp hout
    rw [hkeys r, ← hnames]
    exact List.filter_sublist.map _
  · intro hgroup hcolumns out hout
    obtain ⟨r, hr, rfl⟩ := List.mem_map.mp hout
    have hfields := contains_projection hgroup hwild hcolumns hr
    rw [hkeys r, List.filter_eq_self.mpr, hnames]
    intro p hp
    obtain ⟨item, hitem, rfl⟩ := List.mem_map.mp hp
    exact hfields item hitem

theorem keys_of_results_of_grouped :
    let q : Statement := {
      select := [.aggregate ⟨.count, "*", none⟩, .column ⟨"user", some "who"⟩,
        .aggregate ⟨.max, "port", none⟩]
      groupBy := some "user"
      orderBy := some ⟨"count(*)", .desc⟩
      limit := some 1 }
    let data : Dataset := [.ofList [("port", .int 22)], .ofList [("user", .string "b")],
      .ofList [("user", .string "b")]]
    (q.select ≠ [] ∧ .wildcard ∉ q.select ∧ (q.select.map Item.outputName).Nodup) ∧
      (q.groupBy.isSome ∧ ∀ p, .column p ∈ q.select → q.groupBy = some p.field) ∧
      (q.toPipeline.apply data).length = 1 ∧
      ∀ r ∈ q.toPipeline.apply data, r.keys = ["count", "who", "max_port"] := by
  intro q data
  have hnames : q.select.map Item.outputName = ["count", "who", "max_port"] := by decide
  have hnodup : (q.select.map Item.outputName).Nodup := by decide
  have hcolumns : ∀ p, Item.column p ∈ q.select → q.groupBy = some p.field := by
    intro p hp
    have hp' : p = ⟨"user", some "who"⟩ := by simpa [q] using hp
    rw [hp']
  have hgroups : ((⟨some "user", q.aggregates⟩ : Grouping).apply data).length = 2 := by
    decide +kernel
  have hlength : (q.toPipeline.apply data).length = 1 := by
    have happly : q.toPipeline.apply data = Projection.project (q.select.map Item.projection)
        (List.take 1 (SortKey.sort ⟨"count(*)", .desc⟩
          ((⟨some "user", q.aggregates⟩ : Grouping).apply data))) := rfl
    rw [happly, Projection.project, List.length_map, List.length_take, SortKey.sort,
      List.length_mergeSort, hgroups]
    rfl
  refine ⟨⟨by decide, by decide, hnodup⟩, ⟨rfl, hcolumns⟩, hlength, fun r hr => ?_⟩
  rw [← hnames]
  exact (keys_of_results q (by decide) (by decide) hnodup data).2 (.inl rfl) hcolumns r hr

section Limits

variable {n : UInt64} {bound : Option UInt64}

theorem earlierSteps_limit : earlierSteps { q with limit := some n } =
    earlierSteps { q with limit := none } ++ [.limit ⟨n, .head⟩] := by
  simp [earlierSteps, filterSteps, groupSteps, aggregates]

theorem apply_bounded : (toPipeline { q with limit := bound }).apply data =
    (⟨(q.projections?.map Operation.project).toList⟩ : Pipeline).apply
      ((⟨earlierSteps { q with limit := bound }⟩ : Pipeline).apply data) := by
  rw [toPipeline, ← earlierSteps, Pipeline.apply_append]
  rfl

/-- The limit stands in front of the projection, which reshapes each record on its own. -/
theorem apply_limit : (toPipeline { q with limit := some n }).apply data =
    (⟨n, .head⟩ : Limit).apply ((toPipeline { q with limit := none }).apply data) := by
  rw [apply_bounded, apply_bounded, earlierSteps_limit, Pipeline.apply_append]
  cases q.projections? with
  | none => rfl
  | some columns => exact (Limit.apply_project ⟨n, .head⟩ columns _).symm

/-- A limit cuts off the results that the statement has without it, whatever its other clauses are:
there are never more results than the limit says, and a larger limit only adds some behind them. -/
theorem results_limit (q : Statement) (n : UInt64) (data : Dataset) :
    let results (bound : Option UInt64) := (toPipeline { q with limit := bound }).apply data
    results (some n) = (results none).take n.toNat ∧ (results (some n)).length ≤ n.toNat ∧
      ∀ m, n ≤ m → results (some n) <+: results (some m) := by
  intro results
  have htake (m : UInt64) : results (some m) = (results none).take m.toNat := apply_limit
  refine ⟨htake n, ?_, ?_⟩
  · rw [htake, List.length_take]
    exact Nat.min_le_left ..
  · intro m hm
    rw [htake, htake]
    exact List.take_prefix_take_left (UInt64.le_iff_toNat_le.mp hm)

theorem results_limit_of_grouped :
    let q : Statement := {
      select := [.column ⟨"user", some "who"⟩, .aggregate ⟨.count, "*", none⟩]
      groupBy := some "user"
      orderBy := some ⟨"user", .asc⟩
      limit := some 7 }
    let data : Dataset := [.ofList [("user", .string "b")], .ofList [("user", .string "a")],
      .ofList [("user", .string "b")]]
    let results (bound : Option UInt64) := (toPipeline { q with limit := bound }).apply data
    (1 : UInt64) ≤ 2 ∧ results (some 1) = (results none).take 1 ∧
      results (some 1) <+: results (some 2) ∧ (results (some 2)).length ≤ 2 := by
  intro q data results
  have hle : (1 : UInt64) ≤ 2 := by decide
  obtain ⟨htake, -, happends⟩ := results_limit q 1 data
  obtain ⟨-, hlength, -⟩ := results_limit q 2 data
  exact ⟨hle, htake, happends 2 hle, hlength⟩

end Limits

end Query.Sql.Statement

end LogLab
