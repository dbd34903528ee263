import LogLab.Proofs.Pipeline.Collected

/-! # Grouped records

A record of a group holds the key and the computed columns and nothing else, so that a projection to
these columns keeps it, also where the key itself has the name of a computed column.
-/

namespace LogLab

namespace Entries

variable {α : Type} {k k' : String} {v : α} {es : Entries α}

@[simp] theorem lookup_cons {e : String × α} :
    List.lookup k (e :: es) = if k = e.1 then some e.2 else List.lookup k es := by
  obtain ⟨k', v⟩ := e
  rw [List.lookup_cons]
  by_cases h : k = k'
  · rw [if_pos h, beq_iff_eq.mpr h]
  · rw [if_neg h, beq_false_of_ne h]

@[simp] theorem lookup_insert :
    (insert k v es).lookup k' = if k' = k then some v else es.lookup k' := by
  induction es with
  | nil => rw [insert, lookup_cons]
  | cons e es ih =>
    rw [insert]
    split
    · next hk => rw [lookup_cons, lookup_cons, hk]; split <;> rfl
    · next hk =>
      rw [lookup_cons, lookup_cons, ih]
      by_cases he : k' = e.1
      · rw [if_pos he, if_pos he, if_neg (he ▸ hk)]
      · rw [if_neg he, if_neg he]

end Entries

namespace Record

@[simp] theorem get?_insert {r : Record} {k k' : String} {v : Json} :
    (r.insert k v).get? k' = if k' = k then some v else r.get? k' :=
  Entries.lookup_insert

end Record

def countColumns (field : String) : List Projection :=
  [⟨field, none⟩, ⟨"count", none⟩]

namespace Grouping

variable {field : String} {rows : Dataset}

theorem projectRecord_summarize : Projection.projectRecord (countColumns field)
    (summarize field [.countRows] rows) = summarize field [.countRows] rows := by
  by_cases h : field = "count"
  · subst h
    simp [Projection.projectRecord, countColumns, summarize, Aggregate.addAll, Aggregate.countRows,
      Aggregate.outputName, Projection.outputName, Record.insert, Record.empty, Entries.insert,
      Record.get?]
  · simp [Projection.projectRecord, countColumns, summarize, Aggregate.addAll, Aggregate.countRows,
      Aggregate.outputName, Projection.outputName, h]

end Grouping

theorem SortKey.mem_sort {key : SortKey} {data : Dataset} {r : Record} :
    r ∈ key.sort data ↔ r ∈ data :=
  List.mem_mergeSort

theorem Limit.mem_of_mem_apply {bound : Limit} {data : Dataset} {r : Record}
    (h : r ∈ bound.apply data) : r ∈ data := by
  unfold Limit.apply at h
  cases hside : bound.side with
  | head => rw [hside] at h; exact List.mem_of_mem_take h
  | tail => rw [hside] at h; exact List.mem_of_mem_drop h

/-- The columns of a grouping are all that is left of the records, sorted and cut off or not. -/
theorem Projection.project_groups {field : String} {data : Dataset} (key : SortKey)
    (bound : Limit) :
    project (countColumns field) (bound.apply (key.sort
      ((⟨some field, [.countRows]⟩ : Grouping).apply data))) =
      bound.apply (key.sort ((⟨some field, [.countRows]⟩ : Grouping).apply data)) := by
  have h : ∀ r ∈ bound.apply (key.sort ((⟨some field, [.countRows]⟩ : Grouping).apply data)),
      projectRecord (countColumns field) r = r := fun r hr => by
    have hgroup := SortKey.mem_sort.mp (Limit.mem_of_mem_apply hr)
    rw [Grouping.apply_eq] at hgroup
    obtain ⟨k, -, rfl⟩ := List.mem_map.mp hgroup
    exact Grouping.projectRecord_summarize
  rw [project, List.map_congr_left h, List.map_id']

end LogLab
