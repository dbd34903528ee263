import LogLab.Proofs.Pipeline.Groups

/-! # Null fields

A pipeline cannot tell a `null` field from an absent one: what is removed from the records before it
is applied makes no difference but to the `null` fields of its output. Conditions, keys and columns
computed from rows read fields by `field?` only. A projection reads what is there, `null` included,
so that a `null` comes through it as `null` and an absent field as absent.
-/

namespace LogLab

namespace Entries

variable {α : Type} {k : String} {v : α} {es : Entries α}

theorem lookup_eq_none (h : k ∉ keys es) : es.lookup k = none := by
  rw [List.lookup_eq_none_iff]
  intro e he
  rw [bne_iff_ne]
  rintro rfl
  exact h (List.mem_map_of_mem he)

theorem nodup_keys_filter {keep : String × α → Bool} (h : (keys es).Nodup) :
    (keys (es.filter keep)).Nodup :=
  (List.filter_sublist.map Prod.fst).nodup h

theorem lookup_filter (keep : α → Bool) (h : (keys es).Nodup) :
    (es.filter fun e => keep e.2).lookup k = (es.lookup k).filter keep := by
  induction es with
  | nil => rfl
  | cons e es ih =>
    rw [keys_cons, List.nodup_cons] at h
    obtain ⟨hnotin, hnodup⟩ := h
    by_cases hk : k = e.1
    · subst hk
      rw [lookup_cons, if_pos rfl, List.filter_cons]
      cases hkeep : keep e.2 with
      | true => simp [Option.filter_some, hkeep]
      | false => simp [Option.filter_some, hkeep, ih hnodup, lookup_eq_none hnotin]
    · rw [lookup_cons, if_neg hk, List.filter_cons, ← ih hnodup]
      split
      · rw [lookup_cons, if_neg hk]
      · rfl

theorem insert_of_notMem (h : k ∉ keys es) : insert k v es = es ++ [(k, v)] := by
  induction es with
  | nil => rfl
  | cons e es ih =>
    rw [keys_cons, List.mem_cons, not_or] at h
    rw [insert, if_neg (Ne.symm h.1), ih h.2, List.cons_append]

end Entries

namespace Record

variable {r : Record} {k : String}

/-- The row without its `null` fields. -/
def strip (r : Record) : Record :=
  ⟨r.entries.filter fun e => !e.2.isNull, Entries.nodup_keys_filter r.nodup⟩

@[simp] theorem entries_strip : r.strip.entries = r.entries.filter fun e => !e.2.isNull := rfl

theorem eq_of_entries {r s : Record} (h : r.entries = s.entries) : r = s := by
  cases r
  cases s
  cases h
  rfl

@[simp] theorem get?_strip : r.strip.get? k = r.field? k :=
  Entries.lookup_filter (fun v : Json => !v.isNull) r.nodup

@[simp] theorem field?_strip : r.strip.field? k = r.field? k := by
  rw [field?, get?_strip, field?, Option.filter_filter]
  simp

@[simp] theorem strip_strip : r.strip.strip = r.strip :=
  eq_of_entries (by simp)

end Record

namespace Dataset

variable {data : Dataset}

def strip (data : Dataset) : Dataset :=
  data.map Record.strip

@[simp] theorem strip_strip : data.strip.strip = data.strip := by
  simp [strip]

@[simp] theorem length_strip : data.strip.length = data.length :=
  List.length_map _

end Dataset

variable {data rows : Dataset} {r : Record} {field : String}

namespace Condition

variable {c : Condition}

@[simp] theorem holds_strip : c.holds r.strip = c.holds r := by
  simp [holds, Predicate.holds]

theorem filter_strip : c.filter data.strip = (c.filter data).strip := by
  rw [filter, Dataset.strip, List.filter_map]
  simp [filter, Dataset.strip, Function.comp_def]

end Condition

namespace Projection

def column? (r : Record) (p : Projection) : Option (String × Json) :=
  (r.get? p.field).map (p.outputName, ·)

theorem entries_foldl {columns : List Projection} {out : Record}
    (hnodup : (columns.map outputName).Nodup) (hout : ∀ p ∈ columns, p.outputName ∉ out.keys) :
    (columns.foldl (fun out p =>
      match r.get? p.field with
      | some value => out.insert p.outputName value
      | none => out) out).entries = out.entries ++ columns.filterMap (column? r) := by
  induction columns generalizing out with
  | nil => simp
  | cons p columns ih =>
    rw [List.map_cons, List.nodup_cons] at hnodup
    obtain ⟨hp, hnodup⟩ := hnodup
    have hrest : ∀ q ∈ columns, q.outputName ∉ out.keys := fun q hq =>
      hout q (List.mem_cons_of_mem p hq)
    rw [List.foldl_cons, List.filterMap_cons, column?]
    cases r.get? p.field with
    | none => exact ih hnodup hrest
    | some value =>
      have happend : (out.insert p.outputName value).entries =
          out.entries ++ [(p.outputName, value)] :=
        Entries.insert_of_notMem (hout p List.mem_cons_self)
      have hfresh : ∀ q ∈ columns, q.outputName ∉ (out.insert p.outputName value).keys := by
        intro q hq hmem
        rcases Entries.mem_keys_insert.mp hmem with h | h
        · exact hp (h ▸ List.mem_map_of_mem hq)
        · exact hrest q hq h
      rw [Option.map_some]
      dsimp only
      rw [ih hnodup hfresh, happend, List.append_assoc, List.singleton_append]

/-- Under distinct names no column takes the place of another one. -/
theorem entries_projectRecord {columns : List Projection} (h : (columns.map outputName).Nodup) :
    (projectRecord columns r).entries = columns.filterMap (column? r) :=
  entries_foldl h fun _ _ => List.not_mem_nil

theorem projectRecord_strip {columns : List Projection} (h : (columns.map outputName).Nodup) :
    (projectRecord columns r.strip).strip = (projectRecord columns r).strip := by
  apply Record.eq_of_entries
  rw [Record.entries_strip, entries_projectRecord h, Record.entries_strip, entries_projectRecord h,
    List.filter_filterMap, List.filter_filterMap]
  congr 1
  funext p
  rw [column?, column?, Record.get?_strip, Record.field?]
  cases r.get? p.field with
  | none => rfl
  | some value => cases hnull : value.isNull <;> simp [Option.filter_some, hnull]

/-- Of two columns under one name a `null` takes the place of the first, an absent field does
not. -/
example : let columns : List Projection := [⟨"user", some "name"⟩, ⟨"host", some "name"⟩]
    let r := Record.ofList [("user", .string "root"), ("host", .null)]
    (projectRecord columns r).strip.keys = [] ∧
      (projectRecord columns r.strip).strip.keys = ["name"] := by
  decide

theorem project_strip {columns : List Projection} (h : (columns.map outputName).Nodup) :
    (project columns data.strip).strip = (project columns data).strip := by
  simp [project, Dataset.strip, Function.comp_def, projectRecord_strip h]

end Projection

namespace Aggregate

variable {a : Aggregate} {aggregates : List Aggregate} {out : Record}

@[simp] theorem numbers_strip : numbers field rows.strip = numbers field rows := by
  simp [numbers, Dataset.strip, Function.comp_def]

@[simp] theorem reduce_strip : a.reduce rows.strip = a.reduce rows := by
  have hempty : List.isEmpty rows.strip = List.isEmpty rows := List.isEmpty_map
  simp only [reduce, total, numbers_strip, Dataset.length_strip, hempty]

@[simp] theorem addAll_strip : addAll aggregates rows.strip out = addAll aggregates rows out := by
  simp only [addAll, reduce_strip]

end Aggregate

namespace Grouping

variable {g : Grouping} {aggregates : List Aggregate} {k : Option String}

@[simp] theorem key_strip : key field r.strip = key field r := by
  rw [key, Record.field?_strip, key]

theorem keys_strip : keys field data.strip = keys field data := by
  simp [keys, Dataset.strip, Function.comp_def]

theorem rows_strip : Grouping.rows field data.strip k = (Grouping.rows field data k).strip := by
  simp [Grouping.rows, Dataset.strip, List.filter_map, Function.comp_def]

theorem keyValue_strip : keyValue field rows.strip = keyValue field rows := by
  cases rows <;> simp [keyValue, Dataset.strip]

theorem apply_strip : g.apply data.strip = g.apply data := by
  rw [apply_eq, apply_eq]
  cases g.groupBy with
  | none => simp
  | some field => simp [keys_strip, rows_strip, summarize, keyValue_strip]

end Grouping

theorem SortKey.sort_strip {key : SortKey} : key.sort data.strip = (key.sort data).strip := by
  refine (List.map_mergeSort fun a _ b _ => ?_).symm
  simp [inOrder, compareAscending]

theorem Limit.apply_strip {bound : Limit} :
    bound.apply data.strip = (bound.apply data).strip := by
  rw [apply, apply, Dataset.length_strip]
  cases bound.side with
  | head => exact List.map_take.symm
  | tail => exact List.map_drop.symm

namespace Operation

/-- Whether a projection names every column of its output once. -/
def NamesOnce : Operation → Prop
  | project columns => (columns.map Projection.outputName).Nodup
  | _ => True

instance : DecidablePred NamesOnce
  | project columns => inferInstanceAs (Decidable (columns.map Projection.outputName).Nodup)
  | filter _ | group _ | sort _ | limit _ => .isTrue trivial

theorem strip_apply {operation : Operation} (h : operation.NamesOnce) :
    (operation.apply data.strip).strip = (operation.apply data).strip := by
  cases operation with
  | filter condition => rw [apply, Condition.filter_strip, Dataset.strip_strip, apply]
  | project columns => exact Projection.project_strip h
  | group grouping => rw [apply, Grouping.apply_strip, apply]
  | sort key => rw [apply, SortKey.sort_strip, Dataset.strip_strip, apply]
  | limit bound => rw [apply, Limit.apply_strip, Dataset.strip_strip, apply]

end Operation

namespace Pipeline

theorem strip_foldl {operations : List Operation} (h : ∀ o ∈ operations, o.NamesOnce)
    (data : Dataset) :
    (operations.foldl (fun acc o => o.apply acc) data.strip : Dataset).strip =
      (operations.foldl (fun acc o => o.apply acc) data : Dataset).strip := by
  induction operations generalizing data with
  | nil => exact Dataset.strip_strip
  | cons o operations ih =>
    obtain ⟨ho, hrest⟩ := List.forall_mem_cons.mp h
    rw [List.foldl_cons, List.foldl_cons]
    -- Neither output of the first operation is stripped, so the hypothesis is used on both.
    calc _ = _ := (ih hrest (o.apply data.strip)).symm
      _ = _ := by rw [Operation.strip_apply ho]
      _ = _ := ih hrest (o.apply data)

/-- Null is the same as absent through a whole pipeline: what it makes of a dataset and what it
makes of the same dataset without `null` fields differ in `null` fields only. -/
theorem null_as_absent (p : Pipeline) (h : ∀ operation ∈ p.operations, operation.NamesOnce)
    (data : Dataset) : (p.apply data).strip = (p.apply data.strip).strip :=
  (strip_foldl h data).symm

theorem null_as_absent_of_renamed :
    let p : Pipeline := ⟨[.project [⟨"user", none⟩, ⟨"port", some "number"⟩],
      .sort ⟨"number", .desc⟩, .group ⟨some "user", [.countRows]⟩]⟩
    let data : Dataset :=
      [.ofList [("user", .null), ("port", .int 22)], .ofList [("port", .int 80)]]
    (∀ operation ∈ p.operations, operation.NamesOnce) ∧
      (p.apply data).strip = (p.apply data.strip).strip :=
  ⟨by decide, null_as_absent _ (by decide) _⟩

end Pipeline

end LogLab
