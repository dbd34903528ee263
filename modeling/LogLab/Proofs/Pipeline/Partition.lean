import LogLab.Proofs.Pipeline.Groups
import Mathlib.Algebra.GroupWithZero.Nat
import Mathlib.Data.List.Basic
import Mathlib.Data.List.FinRange

/-! # Grouping is an exact partition

A grouping puts every record of a dataset into one group, and two records into the same group
exactly if the texts of their values in the grouping field are equal or both have no value there.
The output has a record for each group, in the order in which the groups first appear.
-/

namespace LogLab

namespace Aggregate

variable {a : Aggregate} {aggregates : List Aggregate} {rows : List Record} {out : Record}
  {name : String}

/-- The last of the aggregates with an output name. -/
def lastNamed? (name : String) (aggregates : List Aggregate) : Option Aggregate :=
  aggregates.reverse.find? fun a => a.outputName = name

theorem mem_of_lastNamed? (h : lastNamed? name aggregates = some a) :
    a ∈ aggregates ∧ a.outputName = name :=
  ⟨List.mem_reverse.mp (List.mem_of_find?_eq_some h), of_decide_eq_true (List.find?_some h :)⟩

theorem lastNamed?_eq_none_iff :
    lastNamed? name aggregates = none ↔ name ∉ aggregates.map outputName := by
  simp [lastNamed?, List.find?_eq_none]

theorem get?_addAll : (addAll aggregates rows out).get? name =
    match lastNamed? name aggregates with
    | some a => some (a.reduce rows)
    | none => out.get? name := by
  induction aggregates generalizing out with
  | nil => rfl
  | cons a aggregates ih =>
    rw [addAll, List.foldl_cons, ← addAll, ih, lastNamed?, lastNamed?, List.reverse_cons,
      List.find?_append]
    cases aggregates.reverse.find? fun a => decide (a.outputName = name) with
    | some b => rfl
    | none =>
      rw [Record.get?_insert]
      by_cases h : a.outputName = name
      · simp [h]
      · simp [h, Ne.symm h]

/-- The last aggregate with a name has the name; the value put in before has it only if no aggregate
is named so. -/
theorem get?_addAll_insert {field : String} {v : Json} :
    (addAll aggregates rows (Record.empty.insert field v)).get? name =
      match lastNamed? name aggregates with
      | some a => some (a.reduce rows)
      | none => if name = field then some v else none := by
  rw [get?_addAll, Record.get?_insert]
  rfl

theorem reduce_of_count (h : a.function = .count) : a.reduce rows = .int rows.length := by
  simp only [reduce, h]

end Aggregate

namespace Group

variable {field : String} {g : Group} {groups : List Group}
  {data : Dataset} {r : Record}

@[simp] theorem rows_push : (g.push r).rows = g.rows ++ [r] :=
  List.reverse_cons

/-- A step of the pass puts one record into the groups. -/
theorem sum_length_place : ((place field r groups).map fun g => g.rows.length).sum =
    (groups.map fun g => g.rows.length).sum + 1 := by
  induction groups with
  | nil => rfl
  | cons g groups ih =>
    rw [place]
    split
    · simp only [List.map_cons, List.sum_cons, rows_push, List.length_append, List.length_singleton]
      omega
    · simp only [List.map_cons, List.sum_cons, ih]
      omega

theorem sum_length_collect :
    ((collect field data).map fun g => g.rows.length).sum = data.length := by
  induction data using List.reverseRecOn with
  | nil => rfl
  | append_singleton data r ih =>
    rw [collect, List.foldl_append, ← collect, List.foldl_cons, List.foldl_nil, sum_length_place,
      ih,
      List.length_append, List.length_singleton]

end Group

namespace Grouping

variable {field : String} {aggregates : List Aggregate} {data front behind : Dataset}

section Order

theorem keys_isPrefix : keys field front <+: keys field (front ++ behind) := by
  rw [keys, keys, List.map_append, List.eraseDups_append]
  exact List.prefix_append _ _

theorem keys_take_isPrefix (field : String) (data : Dataset) (n : Nat) :
    keys field (data.take n) <+: keys field data := by
  have h : keys field (data.take n) <+: keys field (data.take n ++ data.drop n) := keys_isPrefix
  rwa [List.take_append_drop] at h

/-- The key of a record comes at the latest behind those of the records in front of it. -/
theorem idxOf_key_le {j : Nat} (hj : j < data.length) :
    (keys field data).idxOf (key field data[j]) ≤ (keys field (data.take j)).length := by
  by_cases h : key field data[j] ∈ keys field (data.take j)
  · obtain ⟨rest, hrest⟩ := keys_take_isPrefix field data j
    rw [← hrest, List.idxOf_append_of_mem h]
    exact (List.idxOf_lt_length_of_mem h).le
  · have hsucc : keys field (data.take (j + 1)) =
        keys field (data.take j) ++ [key field data[j]] := by
      rw [List.take_succ_eq_append_getElem hj, keys_concat, if_neg h]
    obtain ⟨rest, hrest⟩ := keys_take_isPrefix field data (j + 1)
    rw [← hrest, hsucc, List.append_assoc, List.idxOf_append_of_notMem h, List.singleton_append,
      List.idxOf_cons_self, Nat.add_zero]

/-- A key that comes before that of a record belongs to an earlier record. -/
theorem exists_lt_of_lt_idxOf {j n : Nat} (hj : j < data.length)
    (hlen : n < (keys field data).length) (hn : n < (keys field data).idxOf (key field data[j])) :
    ∃ i, ∃ hi : i < j, key field data[i] = (keys field data)[n] := by
  have hlt : n < (keys field (data.take j)).length := hn.trans_le (idxOf_key_le hj)
  have hget : (keys field (data.take j))[n] = (keys field data)[n] :=
    (keys_take_isPrefix field data j).getElem hlt
  obtain ⟨r, hr, hkey⟩ := mem_keys.mp (List.getElem_mem hlt)
  obtain ⟨i, hi, rfl⟩ := List.mem_take_iff_getElem.mp hr
  exact ⟨i, by omega, hkey.trans hget⟩

end Order

/-- Neither record has a value in the field, or both have values with the same text. -/
def Alike (field : String) (r s : Record) : Prop :=
  (r.field? field = none ∧ s.field? field = none) ∨
    ∃ v w, r.field? field = some v ∧ s.field? field = some w ∧ v.text = w.text

theorem alike_iff {r s : Record} : Alike field r s ↔ key field r = key field s := by
  unfold Alike key
  cases r.field? field <;> cases s.field? field <;> simp

def members (data : Dataset) {n : Nat} (slot : Fin data.length → Fin n) (k : Fin n) : Dataset :=
  ((List.finRange data.length).filter fun i => slot i = k).map data.get

theorem members_eq_filter {n : Nat} {slot : Fin data.length → Fin n} {k : Fin n}
    {keep : Record → Bool} (h : ∀ i, slot i = k ↔ keep (data.get i) = true) :
    members data slot k = data.filter keep := by
  have hslot : (fun i => decide (slot i = k)) = keep ∘ data.get := by
    funext i
    rw [Function.comp_apply, Bool.eq_iff_iff, decide_eq_true_iff, h]
  conv_rhs => rw [← List.map_get_finRange data, List.filter_map]
  rw [members, hslot]

/-- The records of a dataset are put into output records: each into one, those that are alike into
the same, and none of the output records stays empty. They come in the order in which their first
records do, and hold the computed columns and the value of the first record in the grouping field,
where a column takes the place of one in front of it with the same name. -/
structure IsPartition (field : String) (aggregates : List Aggregate) (data out : Dataset)
    (slot : Fin data.length → Fin out.length) : Prop where
  slot_eq_iff : ∀ i j, slot i = slot j ↔ Alike field (data.get i) (data.get j)
  surjective : Function.Surjective slot
  exists_earlier : ∀ j k, k < slot j → ∃ i < j, slot i = k
  get?_eq : ∀ k name, (out.get k).get? name =
    match Aggregate.lastNamed? name aggregates with
    | some a => some (a.reduce (members data slot k))
    | none => if name = field then some (keyValue field (members data slot k)) else none

section Slot

variable {f : Option String → Record}

def slotOf (field : String) (data : Dataset) (f : Option String → Record) (i : Fin data.length) :
    Fin ((keys field data).map f).length :=
  ⟨(keys field data).idxOf (key field (data.get i)), by
    rw [List.length_map]
    exact List.idxOf_lt_length_of_mem (mem_keys.mpr ⟨_, List.get_mem data i, rfl⟩)⟩

def keyAt (k : Fin ((keys field data).map f).length) : Option String :=
  (keys field data).get (k.cast (List.length_map f))

theorem slotOf_eq_iff {i : Fin data.length} {k : Fin ((keys field data).map f).length} :
    slotOf field data f i = k ↔ key field (data.get i) = keyAt k := by
  have hmem : key field (data.get i) ∈ keys field data :=
    mem_keys.mpr ⟨_, List.get_mem data i, rfl⟩
  constructor
  · rintro rfl
    exact (List.getElem_idxOf (List.idxOf_lt_length_of_mem hmem)).symm
  · intro h
    have hidx : (keys field data).idxOf (keyAt k) = k := nodup_keys.idxOf_getElem _ _
    exact Fin.ext ((congrArg (keys field data).idxOf h).trans hidx)

theorem keyAt_slotOf {i : Fin data.length} :
    keyAt (slotOf field data f i) = key field (data.get i) :=
  (slotOf_eq_iff.mp rfl).symm

theorem members_slotOf {k : Fin ((keys field data).map f).length} :
    members data (slotOf field data f) k = rows field data (keyAt k) :=
  members_eq_filter fun _ => slotOf_eq_iff.trans beq_iff_eq.symm

end Slot

/-- The groups of all keys are a partition of the dataset. -/
theorem isPartition_keys (field : String) (aggregates : List Aggregate) (data : Dataset) :
    IsPartition field aggregates data
      ((keys field data).map fun k => summarize field aggregates (rows field data k))
      (slotOf field data _) where
  slot_eq_iff i j := by
    rw [slotOf_eq_iff, keyAt_slotOf, alike_iff]
  surjective k := by
    obtain ⟨r, hr, hkey⟩ :=
      mem_keys.mp (List.get_mem (keys field data) (k.cast (List.length_map _)))
    obtain ⟨i, rfl⟩ := List.get_of_mem hr
    exact ⟨i, slotOf_eq_iff.mpr hkey⟩
  exists_earlier j k hk := by
    obtain ⟨i, hi, hkey⟩ := exists_lt_of_lt_idxOf j.isLt (k.cast (List.length_map _)).isLt hk
    exact ⟨⟨i, hi.trans j.isLt⟩, hi, slotOf_eq_iff.mpr hkey⟩
  get?_eq k name := by
    rw [members_slotOf, List.get_eq_getElem, List.getElem_map, summarize,
      Aggregate.get?_addAll_insert]
    rfl

/-- Grouping is an exact partition: the output of a grouping is a partition of its input, and if the
last column with a name counts, the values under the name add up to the size of the input. -/
theorem partition_apply (field : String) (aggregates : List Aggregate) (data : Dataset) :
    let out := (⟨some field, aggregates⟩ : Grouping).apply data
    (∃ slot, IsPartition field aggregates data out slot) ∧
    ∀ name a, Aggregate.lastNamed? name aggregates = some a → a.function = .count →
      ∃ counts : List Nat, (out.map (·.get? name)) = counts.map (fun n => some (.int n)) ∧
        counts.sum = data.length := by
  refine ⟨?_, ?_⟩
  · rw [apply_eq]
    exact ⟨_, isPartition_keys field aggregates data⟩
  · intro name a hlast hcount
    refine ⟨(Group.collect field data).map fun g => g.rows.length, ?_, Group.sum_length_collect⟩
    rw [apply, List.map_map, List.map_map]
    refine List.map_congr_left fun g _ => ?_
    rw [Function.comp_apply, Group.summarize, Aggregate.get?_addAll_insert, hlast,
      Function.comp_apply]
    exact congrArg some (Aggregate.reduce_of_count hcount)

end Grouping

end LogLab
