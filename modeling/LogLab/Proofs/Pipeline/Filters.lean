import LogLab.Proofs.Pipeline.Partition
import LogLab.Proofs.Pipeline.StableSort

/-! # Moving filters

Filters one after the other are one filter, in any order, and a filter can be moved to the other
side of a sort. It can also be moved to the other side of a grouping if it looks at the texts in the
grouping field only: a group is kept or dropped with all its records, since they have one text
there.
-/

namespace LogLab

theorem SortKey.IsStable.filter {k : SortKey} {data out : Dataset} (h : k.IsStable data out)
    (c : Condition) : k.IsStable (c.filter data) (c.filter out) where
  perm := h.perm.filter c.holds
  sorts := h.sorts.sublist List.filter_sublist
  filter_ties v := by
    have hcomm := fun rows : Dataset => List.filter_comm (k.ties v) c.holds rows
    calc (out.filter c.holds).filter (k.ties v)
        = (out.filter (k.ties v)).filter c.holds := hcomm out
      _ = (data.filter (k.ties v)).filter c.holds := by rw [h.filter_ties v]
      _ = (data.filter c.holds).filter (k.ties v) := (hcomm data).symm

namespace Condition

variable {c c₁ c₂ : Condition} {data : Dataset} {k : SortKey} {r : Record}

theorem holds_append : (⟨c₁.predicates ++ c₂.predicates⟩ : Condition).holds r =
    (c₁.holds r && c₂.holds r) :=
  List.all_append

theorem filter_append : (⟨c₁.predicates ++ c₂.predicates⟩ : Condition).filter data =
    c₂.filter (c₁.filter data) := by
  rw [filter, filter, filter, List.filter_filter]
  refine List.filter_congr fun r _ => ?_
  rw [holds_append, Bool.and_comm]

theorem filter_comm : c₂.filter (c₁.filter data) = c₁.filter (c₂.filter data) :=
  List.filter_comm c₂.holds c₁.holds data

theorem sort_filter : k.sort (c.filter data) = c.filter (k.sort data) :=
  ((SortKey.isStable_sort k data).filter c).eq_sort.symm

/-- Filters merge, commute and slide past sorts. -/
theorem filters_move (c₁ c₂ : Condition) (k : SortKey) (data : Dataset) :
    c₂.filter (c₁.filter data) =
        (⟨c₁.predicates ++ c₂.predicates⟩ : Condition).filter data ∧
      c₂.filter (c₁.filter data) = c₁.filter (c₂.filter data) ∧
      k.sort (c₁.filter data) = c₁.filter (k.sort data) :=
  ⟨filter_append.symm, filter_comm, sort_filter⟩

end Condition

namespace Comparison

/-- Whether the comparison looks at the text of a value and not at its number. -/
def readsText : Comparison → Bool
  | eq | notEq | like | contains => true
  | lt | ltEq | gt | gtEq => false

end Comparison

def Condition.ReadsText (field : String) (c : Condition) : Prop :=
  ∀ p ∈ c.predicates, p.field = field ∧ p.comparison.readsText = true

instance {field : String} {c : Condition} : Decidable (c.ReadsText field) :=
  inferInstanceAs
    (Decidable (∀ p ∈ c.predicates, p.field = field ∧ p.comparison.readsText = true))

section Texts

variable {field : String} {r s : Record}

theorem Predicate.holdsOf_congr {p : Predicate} {v w : Json}
    (hp : p.comparison.readsText = true) (h : v.text = w.text) : p.holdsOf v = p.holdsOf w := by
  rw [holdsOf, holdsOf]
  cases hc : p.comparison with
  | eq | notEq | like | contains => simp only [h]
  | lt | ltEq | gt | gtEq =>
    rw [hc] at hp
    cases hp

theorem Predicate.holds_congr {p : Predicate} (hfield : p.field = field)
    (hp : p.comparison.readsText = true) (h : Grouping.key field r = Grouping.key field s) :
    p.holds r = p.holds s := by
  rw [holds, holds, hfield]
  rcases Grouping.alike_iff.mpr h with ⟨hr, hs⟩ | ⟨v, w, hr, hs, htext⟩
  · rw [hr, hs]
  · rw [hr, hs]
    exact holdsOf_congr hp htext

/-- A condition on texts cannot tell records with the same key from each other. -/
theorem Condition.holds_congr {c : Condition} (hc : c.ReadsText field)
    (h : Grouping.key field r = Grouping.key field s) : c.holds r = c.holds s := by
  rw [Bool.eq_iff_iff, holds, holds, List.all_eq_true, List.all_eq_true]
  refine forall₂_congr fun p hp => ?_
  obtain ⟨hfield, htext⟩ := hc p hp
  rw [Predicate.holds_congr hfield htext h]

end Texts

/-- A record that holds the value of another one in a field, or `null` if there is none, has the
same value there. -/
theorem Record.field?_of_get? {field : String} {r out : Record}
    (h : out.get? field = some ((r.field? field).getD .null)) :
    out.field? field = r.field? field := by
  rw [field?, h]
  cases hv : r.field? field with
  | none => rfl
  | some v =>
    have hnull := (Option.filter_eq_some_iff.mp hv).2
    exact Option.filter_eq_some_iff.mpr ⟨rfl, hnull⟩

namespace Grouping

variable {field : String} {aggregates : List Aggregate} {data : Dataset} {k : Option String}
  {keep : Option String → Bool}

theorem keys_filter : keys field (data.filter fun r => keep (key field r)) =
    (keys field data).filter keep := by
  induction data using List.reverseRecOn with
  | nil => rfl
  | append_singleton data r ih =>
    rw [List.filter_append, keys_concat]
    cases hkeep : keep (key field r) with
    | true =>
      have hr : [r].filter (fun r => keep (key field r)) = [r] := by simp [hkeep]
      rw [hr, keys_concat, ih]
      by_cases hmem : key field r ∈ keys field data
      · rw [if_pos hmem, if_pos (List.mem_filter.mpr ⟨hmem, hkeep⟩)]
      · rw [if_neg hmem, if_neg fun h => hmem (List.mem_of_mem_filter h), List.filter_append,
          List.filter_cons_of_pos hkeep, List.filter_nil]
    | false =>
      have hr : [r].filter (fun r => keep (key field r)) = [] := by simp [hkeep]
      rw [hr, List.append_nil, ih]
      split
      · rfl
      · simp [hkeep]

theorem rows_filter (h : keep k = true) :
    rows field (data.filter fun r => keep (key field r)) k = rows field data k := by
  rw [rows, rows, List.filter_filter]
  refine List.filter_congr fun r _ => ?_
  by_cases hk : key field r = k
  · rw [hk, h, Bool.and_true]
  · rw [beq_false_of_ne hk, Bool.false_and]

/-- The record of a group has the key of the group if no column takes the place of the value. -/
theorem key_summarize (hname : field ∉ aggregates.map Aggregate.outputName)
    (hk : k ∈ keys field data) :
    key field (summarize field aggregates (rows field data k)) = k := by
  have hne : rows field data k ≠ [] := fun h => rows_eq_nil_iff.mp h hk
  obtain ⟨r, rest, hrows⟩ := List.exists_cons_of_ne_nil hne
  have hmem : r ∈ rows field data k := hrows ▸ List.mem_cons_self
  have hr : key field r = k := beq_iff_eq.mp (List.mem_filter.mp hmem).2
  have hget : (summarize field aggregates (r :: rest)).get? field =
      some ((r.field? field).getD .null) := by
    rw [summarize, Aggregate.get?_addAll_insert, Aggregate.lastNamed?_eq_none_iff.mpr hname]
    exact if_pos rfl
  rw [hrows, key, Record.field?_of_get? hget, ← hr, key]

/-- A filter on the texts of the grouping field can be moved in front of the grouping, unless a
column takes the place of the values that it looks at. -/
theorem filter_apply (field : String) (aggregates : List Aggregate) (c : Condition)
    (hname : field ∉ aggregates.map Aggregate.outputName) (hc : c.ReadsText field)
    (data : Dataset) :
    c.filter ((⟨some field, aggregates⟩ : Grouping).apply data) =
      (⟨some field, aggregates⟩ : Grouping).apply (c.filter data) := by
  let out := fun k => summarize field aggregates (rows field data k)
  -- The verdict on a record is that on the record of its group.
  have hdata : c.filter data = data.filter fun r => (c.holds ∘ out) (key field r) := by
    refine List.filter_congr fun r hr => c.holds_congr hc ?_
    exact (key_summarize hname (mem_keys.mpr ⟨r, hr, rfl⟩)).symm
  have hkeys : keys field (c.filter data) = (keys field data).filter (c.holds ∘ out) := by
    rw [hdata, keys_filter]
  have hrows : ∀ k ∈ keys field (c.filter data),
      rows field (c.filter data) k = rows field data k := by
    intro k hk
    rw [hkeys] at hk
    rw [hdata, rows_filter (List.of_mem_filter hk)]
  rw [apply_eq, apply_eq]
  calc c.filter ((keys field data).map out)
      = ((keys field data).filter (c.holds ∘ out)).map out := List.filter_map
    _ = (keys field (c.filter data)).map out := by rw [hkeys]
    _ = (keys field (c.filter data)).map fun k =>
          summarize field aggregates (rows field (c.filter data) k) :=
        List.map_congr_left fun k hk => congrArg (summarize field aggregates) (hrows k hk).symm

theorem filter_apply_of_mixed :
    let aggregates : List Aggregate := [.countRows, ⟨.max, "bytes", some "peak"⟩]
    let c : Condition := ⟨[⟨"port", .notEq, "80"⟩, ⟨"port", .like, "2%"⟩]⟩
    let data : Dataset := [.ofList [("port", .string "22"), ("bytes", .int 5)],
      .ofList [("port", .int 80)], .ofList [("port", .null)], .ofList [("port", .int 22)]]
    "port" ∉ aggregates.map Aggregate.outputName ∧ c.ReadsText "port" ∧
      c.filter ((⟨some "port", aggregates⟩ : Grouping).apply data) =
        (⟨some "port", aggregates⟩ : Grouping).apply (c.filter data) :=
  ⟨by decide, by decide, filter_apply "port" _ _ (by decide) (by decide) _⟩

/-- Where the number of rows takes the place of the value, the filter looks at the number. -/
example : let g : Grouping := ⟨some "count", [.countRows]⟩
    let c : Condition := ⟨[⟨"count", .eq, "a"⟩]⟩
    let data : Dataset := [.ofList [("count", .string "a")]]
    (c.filter (g.apply data)).length = 0 ∧ (g.apply (c.filter data)).length = 1 := by
  decide +kernel

end Grouping

end LogLab
