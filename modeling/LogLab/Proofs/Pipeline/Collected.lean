import LogLab.Pipeline.Eval
import Mathlib.Data.List.Induction

/-! # Collected groups

The groups that one pass over a dataset collects are those that the keys of its records make: one
for each key, in the order in which the keys first appear, with all the records of the key.
-/

namespace LogLab

namespace Grouping

/-- The keys in the order of their first appearance. -/
def keys (field : String) (data : Dataset) : List (Option String) :=
  (data.map (key field)).eraseDups

def rows (field : String) (data : Dataset) (k : Option String) : Dataset :=
  data.filter fun r => key field r == k

/-- The value that stands for the key of a group: that of its first record, `null` without one. -/
def keyValue (field : String) (rows : List Record) : Json :=
  (rows.head?.bind (·.field? field)).getD .null

/-- The output record of one group: its key, then the computed columns. -/
def summarize (field : String) (aggregates : List Aggregate) (rows : List Record) : Record :=
  Aggregate.addAll aggregates rows (Record.empty.insert field (keyValue field rows))

variable {field : String} {data front behind : Dataset} {r : Record} {k : Option String}

theorem mem_keys : k ∈ keys field data ↔ ∃ r ∈ data, key field r = k := by
  rw [keys, List.mem_eraseDups, List.mem_map]

theorem keys_concat : keys field (data ++ [r]) =
    if key field r ∈ keys field data then keys field data
    else keys field data ++ [key field r] := by
  have happend : keys field (data ++ [r]) =
      keys field data ++ ([key field r].removeAll (data.map (key field))).eraseDups := by
    rw [keys, List.map_append, List.map_singleton, List.eraseDups_append, keys]
  have hmem : key field r ∈ keys field data ↔ key field r ∈ data.map (key field) :=
    List.mem_eraseDups
  rw [happend, List.cons_removeAll, List.nil_removeAll]
  split
  · next h => rw [if_neg (mt hmem.mp (by simpa using h))]; rfl
  · next h => rw [if_pos (hmem.mpr (by simpa using h)), List.eraseDups_nil, List.append_nil]

theorem nodup_keys : (keys field data).Nodup := by
  induction data using List.reverseRecOn with
  | nil => exact List.nodup_nil
  | append_singleton data r ih =>
    rw [keys_concat]
    split
    · exact ih
    · next h =>
      refine List.nodup_append.mpr ⟨ih, List.pairwise_singleton _ _, ?_⟩
      rintro k hk _ hr rfl
      exact h (List.mem_singleton.mp hr ▸ hk)

theorem rows_concat_of_eq (h : key field r = k) :
    rows field (data ++ [r]) k = rows field data k ++ [r] := by
  simp [rows, h]

theorem rows_concat_of_ne (h : key field r ≠ k) :
    rows field (data ++ [r]) k = rows field data k := by
  simp [rows, h]

theorem rows_eq_nil_iff : rows field data k = [] ↔ k ∉ keys field data := by
  simp [rows, mem_keys]

theorem keyValue_append {front behind : List Record} (h : front ≠ []) :
    keyValue field (front ++ behind) = keyValue field front := by
  obtain ⟨r, front, rfl⟩ := List.exists_cons_of_ne_nil h
  rfl

end Grouping

namespace Group

open Grouping (keys keyValue)

variable {field : String} {data : Dataset} {r : Record} {k : Option String}
  {ks : List (Option String)}

/-- The group that the records of a dataset with a key make. -/
def ofKey (field : String) (data : Dataset) (k : Option String) : Group :=
  ⟨k, keyValue field (Grouping.rows field data k), (Grouping.rows field data k).reverse⟩

@[simp] theorem key_ofKey : (ofKey field data k).key = k := rfl

@[simp] theorem rows_ofKey : (ofKey field data k).rows = Grouping.rows field data k :=
  List.reverse_reverse _

theorem ofKey_concat_of_ne (h : Grouping.key field r ≠ k) :
    ofKey field (data ++ [r]) k = ofKey field data k := by
  rw [ofKey, Grouping.rows_concat_of_ne h, ofKey]

theorem push_ofKey (hk : Grouping.key field r = k) (h : k ∈ keys field data) :
    (ofKey field data k).push r = ofKey field (data ++ [r]) k := by
  have hne : Grouping.rows field data k ≠ [] := fun hnil => Grouping.rows_eq_nil_iff.mp hnil h
  rw [ofKey, ofKey, Grouping.rows_concat_of_eq hk, Grouping.keyValue_append hne,
    List.reverse_append]
  rfl

theorem opened_eq_ofKey (h : Grouping.key field r ∉ keys field data) :
    opened field r = ofKey field (data ++ [r]) (Grouping.key field r) := by
  rw [ofKey, Grouping.rows_concat_of_eq rfl, Grouping.rows_eq_nil_iff.mpr h]
  rfl

theorem map_ofKey_concat (h : Grouping.key field r ∉ ks) :
    ks.map (ofKey field (data ++ [r])) = ks.map (ofKey field data) :=
  List.map_congr_left fun _ hk => ofKey_concat_of_ne fun he => h (he ▸ hk)

theorem place_of_mem (hnodup : ks.Nodup) (hmem : Grouping.key field r ∈ ks)
    (h : Grouping.key field r ∈ keys field data) :
    place field r (ks.map (ofKey field data)) = ks.map (ofKey field (data ++ [r])) := by
  induction ks with
  | nil => cases hmem
  | cons k ks ih =>
    obtain ⟨hk, hnodup⟩ := List.nodup_cons.mp hnodup
    rw [List.map_cons, List.map_cons, place, key_ofKey]
    by_cases he : k = Grouping.key field r
    · rw [if_pos he, push_ofKey he.symm (he ▸ h), map_ofKey_concat (he ▸ hk)]
    · have hrest := (List.mem_cons.mp hmem).resolve_left (Ne.symm he)
      rw [if_neg he, ih hnodup hrest, ofKey_concat_of_ne (Ne.symm he)]

theorem place_of_notMem (hmem : Grouping.key field r ∉ ks)
    (h : Grouping.key field r ∉ keys field data) :
    place field r (ks.map (ofKey field data)) =
      (ks ++ [Grouping.key field r]).map (ofKey field (data ++ [r])) := by
  induction ks with
  | nil => exact congrArg (fun g => [g]) (opened_eq_ofKey h)
  | cons k ks ih =>
    rw [List.mem_cons, not_or] at hmem
    rw [List.map_cons, place, key_ofKey, if_neg (Ne.symm hmem.1), ih hmem.2, List.cons_append,
      List.map_cons, ofKey_concat_of_ne hmem.1]

/-- The step of the pass: with one record more, its group has one record more, or it opens a group
at the end. -/
theorem place_map_keys : place field r ((keys field data).map (ofKey field data)) =
    (keys field (data ++ [r])).map (ofKey field (data ++ [r])) := by
  rw [Grouping.keys_concat]
  split
  · next h => exact place_of_mem Grouping.nodup_keys h h
  · next h => exact place_of_notMem h h

/-- One pass collects the groups of all keys. -/
theorem collect_eq : collect field data = (keys field data).map (ofKey field data) := by
  induction data using List.reverseRecOn with
  | nil => rfl
  | append_singleton data r ih =>
    rw [← place_map_keys, ← ih, collect, List.foldl_append, collect]
    rfl

end Group

/-- The output of a grouping, told by keys. -/
theorem Grouping.apply_eq {g : Grouping} {data : Dataset} : g.apply data =
    match g.groupBy with
    | none => [Aggregate.addAll g.aggregates data Record.empty]
    | some field =>
      (keys field data).map fun k => summarize field g.aggregates (rows field data k) := by
  unfold apply
  cases g.groupBy with
  | none => rfl
  | some field =>
    simp only [Group.collect_eq, List.map_map, Function.comp_def, Group.summarize, Group.rows_ofKey]
    rfl

end LogLab
