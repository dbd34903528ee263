import LogLab.Proofs.Pipeline.Nulls
import LogLab.Proofs.Pipeline.Order
import Mathlib.Data.List.Forall2

/-! # Projected columns

A projection holds what its columns read from a record, under their output names. Of columns that
share a name, the last one with its field in the record gives the value, and the first one gives the
place, so that value and order can come from two different columns. Projecting what is projected to
the plain names keeps all values, and the order as well if no name is shared.
-/

namespace LogLab

namespace Entries

variable {α : Type} {k : String} {v : α} {es fs : Entries α}

theorem keys_insert_of_mem (h : k ∈ keys es) : keys (insert k v es) = keys es := by
  induction es with
  | nil => cases h
  | cons e es ih =>
    by_cases hk : e.1 = k
    · rw [insert, if_pos hk, keys_cons, keys_cons, hk]
    · have hrest := (List.mem_cons.mp h).resolve_left (Ne.symm hk)
      rw [insert, if_neg hk, keys_cons, keys_cons, ih hrest]

theorem keys_insert_of_notMem (h : k ∉ keys es) : keys (insert k v es) = keys es ++ [k] := by
  rw [insert_of_notMem h, keys, List.map_append]
  rfl

/-- Entries under distinct keys are determined by the keys in order and what is found under each. -/
theorem eq_of_lookup (hnodup : (keys es).Nodup) (hkeys : keys es = keys fs)
    (h : ∀ k, es.lookup k = fs.lookup k) : es = fs := by
  induction es generalizing fs with
  | nil => exact (List.map_eq_nil_iff.mp hkeys.symm).symm
  | cons e es ih =>
    cases fs with
    | nil => cases hkeys
    | cons f fs =>
      rw [keys_cons, keys_cons] at hkeys
      obtain ⟨hkey, hrest⟩ := List.cons.inj hkeys
      rw [keys_cons, List.nodup_cons] at hnodup
      have hvalue : e.2 = f.2 := by
        have he := h e.1
        rw [lookup_cons, lookup_cons, if_pos rfl, if_pos hkey] at he
        exact Option.some.inj he
      have htail : es = fs := by
        refine ih hnodup.2 hrest fun k => ?_
        by_cases hk : k = e.1
        · subst hk
          rw [lookup_eq_none hnodup.1, lookup_eq_none (hrest ▸ hnodup.1)]
        · have hk' := h k
          rwa [lookup_cons, lookup_cons, if_neg hk, if_neg (hkey ▸ hk)] at hk'
      rw [Prod.ext hkey hvalue, htail]

end Entries

namespace Record

variable {r s : Record}

theorem eq_of_get? (hkeys : r.keys = s.keys) (h : ∀ name, r.get? name = s.get? name) : r = s :=
  eq_of_entries (Entries.eq_of_lookup r.nodup hkeys h)

/-- The records have the same values under the same names, in whatever order. -/
def SameFields (r s : Record) : Prop := ∀ name, r.get? name = s.get? name

end Record

namespace Projection

variable {columns : List Projection} {r out : Record} {name : String} {p : Projection}
  {data : Dataset}

def gives (r : Record) (name : String) (p : Projection) : Bool :=
  p.outputName == name && r.contains p.field

/-- What the columns with an output name read from the record, in order. -/
def readings (columns : List Projection) (r : Record) (name : String) : List Json :=
  (columns.filter (gives r name)).filterMap fun p => r.get? p.field

/-- The place of the first column that gives something under an output name. -/
def place (columns : List Projection) (r : Record) (name : String) : Nat :=
  columns.findIdx (gives r name)

/-- The output has a name exactly if some column gives something under it, the value is the last one
that is given, and the names are in the order of the first columns that give something. -/
structure IsProjection (columns : List Projection) (r out : Record) : Prop where
  mem_keys_iff : ∀ name, name ∈ out.keys ↔
    ∃ p ∈ columns, p.outputName = name ∧ r.contains p.field = true
  get?_eq : ∀ name, out.get? name = (readings columns r name).getLast?
  ordered : out.keys.Pairwise fun name name' => place columns r name < place columns r name'

def plain (columns : List Projection) : List Projection :=
  columns.map fun p => ⟨p.outputName, none⟩

theorem gives_iff : gives r name p = true ↔ p.outputName = name ∧ r.contains p.field = true := by
  rw [gives, Bool.and_eq_true, beq_iff_eq]

theorem place_lt_length_iff : place columns r name < columns.length ↔
    ∃ p ∈ columns, p.outputName = name ∧ r.contains p.field = true := by
  simp only [place, List.findIdx_lt_length, gives_iff]

section Step

theorem keys_addColumn : (addColumn r out p).keys =
    if r.contains p.field = true ∧ p.outputName ∉ out.keys then out.keys ++ [p.outputName]
    else out.keys := by
  rw [addColumn, Record.contains]
  cases r.get? p.field with
  | none => simp
  | some value =>
    by_cases hmem : p.outputName ∈ out.keys
    · rw [if_neg (by simp [hmem])]
      exact Entries.keys_insert_of_mem hmem
    · rw [if_pos ⟨rfl, hmem⟩]
      exact Entries.keys_insert_of_notMem hmem

theorem readings_concat : readings (columns ++ [p]) r name =
    readings columns r name ++ if p.outputName = name then (r.get? p.field).toList else [] := by
  unfold readings
  rw [List.filter_append, List.filterMap_append]
  congr 1
  by_cases hname : p.outputName = name
  · cases hvalue : r.get? p.field <;> simp [gives, Record.contains, hname, hvalue]
  · simp [gives, hname]

theorem place_concat : place (columns ++ [p]) r name =
    if place columns r name < columns.length then place columns r name
    else place [p] r name + columns.length :=
  List.findIdx_append

theorem place_concat_of_not_lt (h : ¬place columns r name < columns.length)
    (hp : gives r name p = true) : place (columns ++ [p]) r name = columns.length := by
  rw [place_concat, if_neg h, place, List.findIdx_cons, hp, cond_true, Nat.zero_add]

/-- The step of a projection: one column more puts its value under its name, or changes nothing if
the record lacks its field. -/
theorem IsProjection.concat (h : IsProjection columns r out) :
    IsProjection (columns ++ [p]) r (addColumn r out p) where
  mem_keys_iff name := by
    have hmem := h.mem_keys_iff name
    rw [keys_addColumn]
    simp only [List.mem_append, List.mem_singleton, or_and_right, exists_or, exists_eq_left,
      ← hmem]
    split
    · next hnew => simp only [List.mem_append, List.mem_singleton, hnew.1, and_true, eq_comm]
    · next hold =>
      refine (or_iff_left_of_imp ?_).symm
      rintro ⟨rfl, hfield⟩
      by_contra hout
      exact hold ⟨hfield, hout⟩
  get?_eq name := by
    rw [get?_addColumn, readings_concat, List.getLast?_append, h.get?_eq]
    by_cases hname : name = p.outputName
    · subst hname
      cases r.get? p.field <;> simp
    · rw [if_neg hname, if_neg (Ne.symm hname)]
      rfl
  ordered := by
    have hlt : ∀ name ∈ out.keys, place columns r name < columns.length := fun name hmem =>
      place_lt_length_iff.mpr ((h.mem_keys_iff name).mp hmem)
    have hplace : ∀ name ∈ out.keys, place (columns ++ [p]) r name = place columns r name :=
      fun name hmem => by rw [place_concat, if_pos (hlt name hmem)]
    have hbefore : out.keys.Pairwise fun name name' =>
        place (columns ++ [p]) r name < place (columns ++ [p]) r name' := by
      refine h.ordered.imp_of_mem fun hname hname' hlt => ?_
      rwa [hplace _ hname, hplace _ hname']
    rw [keys_addColumn]
    split
    · next hnew =>
      refine List.pairwise_append.mpr ⟨hbefore, List.pairwise_singleton _ _, ?_⟩
      intro name hname name' hname'
      obtain rfl := List.mem_singleton.mp hname'
      have hlast : place (columns ++ [p]) r p.outputName = columns.length := by
        refine place_concat_of_not_lt (fun h' => hnew.2 ?_) (gives_iff.mpr ⟨rfl, hnew.1⟩)
        exact (h.mem_keys_iff _).mpr (place_lt_length_iff.mp h')
      rw [hplace name hname, hlast]
      exact hlt name hname
    · exact hbefore

end Step

theorem isProjection_projectRecord (columns : List Projection) (r : Record) :
    IsProjection columns r (projectRecord columns r) := by
  induction columns using List.reverseRecOn with
  | nil => exact ⟨by simp [projectRecord, Record.keys, Record.empty], fun _ => rfl, .nil⟩
  | append_singleton columns p ih =>
    rw [projectRecord_eq, List.foldl_append, ← projectRecord_eq]
    exact ih.concat

/-- What is held under which names, and the order of the names, determine the output. -/
theorem IsProjection.unique {out' : Record} (h : IsProjection columns r out)
    (h' : IsProjection columns r out') : out = out' := by
  have hperm : out.keys.Perm out'.keys :=
    (List.perm_ext_iff_of_nodup out.nodup out'.nodup).mpr fun name =>
      (h.mem_keys_iff name).trans (h'.mem_keys_iff name).symm
  have hasymm : ∀ name name', name ∈ out.keys → name' ∈ out'.keys →
      place columns r name < place columns r name' →
      place columns r name' < place columns r name → name = name' := by
    intro name name' _ _ hlt hgt
    exact absurd hlt hgt.asymm
  refine Record.eq_of_get? (hperm.eq_of_pairwise hasymm h.ordered h'.ordered) fun name => ?_
  rw [h.get?_eq, h'.get?_eq]

theorem isProjection_iff : IsProjection columns r out ↔ projectRecord columns r = out := by
  constructor
  · exact (isProjection_projectRecord columns r).unique
  · rintro rfl
    exact isProjection_projectRecord columns r

theorem map_outputName_plain : (plain columns).map outputName = columns.map outputName := by
  simp [plain, Function.comp_def, outputName]

/-- Projecting a projection to the plain names keeps its values. -/
theorem IsProjection.sameFields_plain (h : IsProjection columns r out) :
    (projectRecord (plain columns) out).SameFields out := by
  intro name
  have hplain : ∀ p ∈ plain columns, p.outputName = name → p.field = name := by
    intro p hp hname
    obtain ⟨q, -, rfl⟩ := List.mem_map.mp hp
    exact hname
  rw [projectRecord_eq, get?_foldl hplain, map_outputName_plain]
  split
  · exact Option.or_none
  · next hname =>
    have hout : name ∉ out.keys := by
      intro hmem
      obtain ⟨p, hp, rfl, -⟩ := (h.mem_keys_iff name).mp hmem
      exact hname (List.mem_map_of_mem hp)
    exact (Entries.lookup_eq_none hout).symm

theorem readings_eq_nil (h : name ∉ columns.map outputName) : readings columns r name = [] := by
  have hgives : columns.filter (gives r name) = [] := by
    refine List.filter_eq_nil_iff.mpr fun p hp hname => h ?_
    exact (gives_iff.mp hname).1 ▸ List.mem_map_of_mem hp
  rw [readings, hgives, List.filterMap_nil]

theorem readings_outputName (h : (columns.map outputName).Nodup) (hp : p ∈ columns) :
    readings columns r p.outputName = (r.get? p.field).toList := by
  induction columns using List.reverseRecOn with
  | nil => cases hp
  | append_singleton columns q ih =>
    rw [List.map_append, List.map_singleton, List.nodup_append] at h
    obtain ⟨hcolumns, -, hne⟩ := h
    rw [readings_concat]
    rcases List.mem_append.mp hp with hp | hp
    · have hq : q.outputName ≠ p.outputName := fun he =>
        hne _ (List.mem_map_of_mem hp) _ (List.mem_singleton_self _) he.symm
      rw [ih hcolumns hp, if_neg hq, List.append_nil]
    · obtain rfl := List.mem_singleton.mp hp
      have hnotin : p.outputName ∉ columns.map outputName := fun hmem =>
        hne _ hmem _ (List.mem_singleton_self _) rfl
      rw [readings_eq_nil hnotin, if_pos rfl, List.nil_append]

/-- Under distinct names a column of the output holds what it reads. -/
theorem get?_outputName (h : (columns.map outputName).Nodup) (hp : p ∈ columns) :
    (projectRecord columns r).get? p.outputName = r.get? p.field := by
  rw [(isProjection_projectRecord columns r).get?_eq, readings_outputName h hp]
  cases r.get? p.field <;> rfl

theorem keys_projectRecord (h : (columns.map outputName).Nodup) :
    (projectRecord columns r).keys =
      (columns.filter fun p => r.contains p.field).map outputName := by
  rw [Record.keys, entries_projectRecord h, Entries.keys, List.map_filterMap,
    ← List.filterMap_eq_map, List.filterMap_filter]
  refine List.filterMap_congr fun p _ => ?_
  rw [column?, Record.contains]
  cases r.get? p.field <;> rfl

theorem projectRecord_plain (h : (columns.map outputName).Nodup) :
    projectRecord (plain columns) (projectRecord columns r) = projectRecord columns r := by
  have hplain : ((plain columns).map outputName).Nodup := by rwa [map_outputName_plain]
  apply Record.eq_of_entries
  rw [entries_projectRecord hplain, entries_projectRecord h, plain, List.filterMap_map]
  refine List.filterMap_congr fun p hp => ?_
  exact congrArg (Option.map (p.outputName, ·)) (get?_outputName h hp)

/-- A projection is exact: each record of its output is the projection of its record of the input,
and nothing else is one. Projecting again to the plain output names keeps the values of all records,
and if the names are distinct the records themselves. -/
theorem project_exact (columns : List Projection) (data : Dataset) :
    (∀ out, List.Forall₂ (IsProjection columns) data out ↔ project columns data = out) ∧
      List.Forall₂ Record.SameFields (project (plain columns) (project columns data))
        (project columns data) ∧
      ((columns.map outputName).Nodup →
        project (plain columns) (project columns data) = project columns data) := by
  refine ⟨fun out => ?_, ?_, fun h => ?_⟩
  · have hiff : IsProjection columns = fun r out => projectRecord columns r = out := by
      funext r out
      exact propext isProjection_iff
    rw [hiff, project, ← List.forall₂_map_left_iff, List.forall₂_eq_eq_eq]
  · rw [project, List.forall₂_map_left_iff, List.forall₂_same]
    intro out hout
    obtain ⟨r, -, rfl⟩ := List.mem_map.mp hout
    exact (isProjection_projectRecord columns r).sameFields_plain
  · rw [project, project, List.map_map]
    exact List.map_congr_left fun r _ => projectRecord_plain h

theorem project_exact_of_renamed :
    let columns : List Projection := [⟨"user", some "host"⟩, ⟨"host", some "user"⟩, ⟨"port", none⟩]
    let data : Dataset := [.ofList [("host", .string "web"), ("user", .string "root")],
      .ofList [("port", .int 22), ("host", .null)]]
    (columns.map outputName).Nodup ∧
      project (plain columns) (project columns data) = project columns data :=
  ⟨by decide, (project_exact _ _).2.2 (by decide)⟩

/-- Of two columns under one name the first is absent here: the name comes behind another one, and
comes first when the same names are projected again. -/
example : let columns : List Projection := [⟨"user", some "name"⟩, ⟨"port", none⟩,
      ⟨"host", some "name"⟩]
    let out := projectRecord columns (.ofList [("host", .string "web"), ("port", .int 22)])
    out.keys = ["port", "name"] ∧ (projectRecord (plain columns) out).keys = ["name", "port"] := by
  decide

end Projection

end LogLab
