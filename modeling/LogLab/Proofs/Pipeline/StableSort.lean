import LogLab.Proofs.Pipeline.Order

/-! # The stable sort

There is exactly one way to put records in the order of a key so that those with equal keys stay as
they are: records in order are determined by the records of every single key. Sorting is this way,
in both directions, and the check on the order of a result set tells whether sorting changes it.
-/

namespace LogLab

namespace SortKey

variable {k : SortKey} {a b : Record} {v : Option Json} {data out l₁ l₂ : Dataset}

/-- Whether the field that is sorted by compares equal to a value. -/
def ties (k : SortKey) (v : Option Json) (r : Record) : Bool :=
  (Json.compareFields (r.field? k.field) v).isEq

theorem ties_iff : k.ties v a = true ↔ Json.place (a.field? k.field) = Json.place v :=
  Json.isEq_compareFields

theorem ties_self : k.ties (a.field? k.field) a = true :=
  ties_iff.mpr rfl

theorem inOrder_of_ties (ha : k.ties v a = true) (hb : k.ties v b = true) :
    k.inOrder a b = true := by
  have hplace := (ties_iff.mp ha).trans (ties_iff.mp hb).symm
  rw [inOrder_iff]
  cases k.direction with
  | asc => exact hplace.le
  | desc => exact hplace.ge

theorem ties_of_inOrder (hab : k.inOrder a b = true) (hba : k.inOrder b a = true) :
    k.ties (a.field? k.field) b = true := by
  rw [inOrder_iff] at hab hba
  rw [ties_iff]
  cases hd : k.direction with
  | asc =>
    rw [hd] at hab hba
    exact le_antisymm hba hab
  | desc =>
    rw [hd] at hab hba
    exact le_antisymm hab hba

theorem inOrder_desc {field : String} :
    (⟨field, .desc⟩ : SortKey).inOrder a b = (⟨field, .asc⟩ : SortKey).inOrder b a := by
  rw [Bool.eq_iff_iff, inOrder_iff, inOrder_iff]

theorem sorts_filter_ties (data : Dataset) (v : Option Json) :
    k.Sorts (data.filter (k.ties v)) := by
  apply List.pairwise_of_forall_mem_list
  intro a ha b hb
  exact inOrder_of_ties (List.of_mem_filter ha) (List.of_mem_filter hb)

theorem sublist_sort (h : k.Sorts l₁) (hsub : l₁.Sublist data) : l₁.Sublist (k.sort data) :=
  List.sublist_mergeSort (@inOrder_trans k) (@inOrder_total k) h hsub

theorem Sorts.inOrder_of_mem (h : k.Sorts (a :: l₁)) (hb : b ∈ a :: l₁) :
    k.inOrder a b = true := by
  rcases List.mem_cons.mp hb with rfl | hb
  · exact inOrder_of_ties ties_self ties_self
  · exact List.rel_of_pairwise_cons h hb

theorem mem_of_filter_ties (h : ∀ v, l₁.filter (k.ties v) = l₂.filter (k.ties v))
    (ha : a ∈ l₁) : a ∈ l₂ := by
  have hmem : a ∈ l₁.filter (k.ties (a.field? k.field)) := List.mem_filter.mpr ⟨ha, ties_self⟩
  rw [h] at hmem
  exact List.mem_of_mem_filter hmem

/-- Records in order are determined by the records of every single key. -/
theorem eq_of_sorts (h₁ : k.Sorts l₁) (h₂ : k.Sorts l₂)
    (h : ∀ v, l₁.filter (k.ties v) = l₂.filter (k.ties v)) : l₁ = l₂ := by
  induction l₁ generalizing l₂ with
  | nil =>
    cases l₂ with
    | nil => rfl
    | cons b l₂ => cases mem_of_filter_ties (fun v => (h v).symm) List.mem_cons_self
  | cons a l₁ ih =>
    cases l₂ with
    | nil => cases mem_of_filter_ties h List.mem_cons_self
    | cons b l₂ =>
      -- Each head is in the other list, so neither is behind the other: they have one key.
      have ha : a ∈ b :: l₂ := mem_of_filter_ties h List.mem_cons_self
      have hb : b ∈ a :: l₁ := mem_of_filter_ties (fun v => (h v).symm) List.mem_cons_self
      have htie := ties_of_inOrder (h₁.inOrder_of_mem hb) (h₂.inOrder_of_mem ha)
      have hheads := h (a.field? k.field)
      rw [List.filter_cons_of_pos ties_self, List.filter_cons_of_pos htie] at hheads
      obtain rfl := (List.cons.inj hheads).1
      have hrest : ∀ v, l₁.filter (k.ties v) = l₂.filter (k.ties v) := by
        intro v
        have hv := h v
        rw [List.filter_cons, List.filter_cons] at hv
        split at hv
        · exact (List.cons.inj hv).2
        · exact hv
      rw [ih h₁.of_cons h₂.of_cons hrest]

/-- The output has the records of the input, in the order of the key, and those whose keys compare
equal come as they do in the input. -/
structure IsStable (k : SortKey) (data out : Dataset) : Prop where
  perm : out.Perm data
  sorts : k.Sorts out
  filter_ties : ∀ v, out.filter (k.ties v) = data.filter (k.ties v)

theorem IsStable.unique (h₁ : k.IsStable data l₁) (h₂ : k.IsStable data l₂) : l₁ = l₂ :=
  eq_of_sorts h₁.sorts h₂.sorts fun v => (h₁.filter_ties v).trans (h₂.filter_ties v).symm

theorem isStable_sort (k : SortKey) (data : Dataset) : k.IsStable data (k.sort data) where
  perm := List.mergeSort_perm data k.inOrder
  sorts := sorts_sort data
  filter_ties v := by
    have hperm : (k.sort data).Perm data := List.mergeSort_perm data k.inOrder
    have hsub : (data.filter (k.ties v)).Sublist (k.sort data) :=
      sublist_sort (sorts_filter_ties data v) List.filter_sublist
    have hties : (data.filter (k.ties v)).Sublist ((k.sort data).filter (k.ties v)) := by
      simpa using hsub.filter (k.ties v)
    exact (hties.eq_of_length (hperm.filter _).length_eq.symm).symm

theorem IsStable.eq_sort (h : k.IsStable data out) : out = k.sort data :=
  h.unique (isStable_sort k data)

theorem sort_of_sorts (h : k.Sorts data) : k.sort data = data :=
  List.mergeSort_of_pairwise h

theorem sorts_iff_sort_eq : k.Sorts data ↔ k.sort data = data := by
  refine ⟨sort_of_sorts, fun h => ?_⟩
  rw [← h]
  exact sorts_sort data

/-- Turning the input and the output around turns the direction around. -/
theorem IsStable.reverse {field : String}
    (h : (⟨field, .asc⟩ : SortKey).IsStable data.reverse out) :
    (⟨field, .desc⟩ : SortKey).IsStable data out.reverse where
  perm := (List.reverse_perm out).trans (h.perm.trans (List.reverse_perm data))
  sorts := by
    refine List.pairwise_reverse.mpr (h.sorts.imp fun {a b} hab => ?_)
    rwa [inOrder_desc]
  filter_ties v := by
    rw [List.filter_reverse]
    calc (out.filter (ties ⟨field, .desc⟩ v)).reverse
        = (data.reverse.filter (ties ⟨field, .desc⟩ v)).reverse :=
          congrArg List.reverse (h.filter_ties v)
      _ = data.filter (ties ⟨field, .desc⟩ v) := by rw [List.filter_reverse, List.reverse_reverse]

/-- Sorting is the stable sort, and there is no other one. So sorting twice is sorting once, and the
descending sort turns around what the ascending sort makes of the input turned around. -/
theorem stable_sort (k : SortKey) (data : Dataset) :
    (∀ out, k.IsStable data out ↔ out = k.sort data) ∧
      k.sort (k.sort data) = k.sort data ∧
      (⟨k.field, .desc⟩ : SortKey).sort data =
        ((⟨k.field, .asc⟩ : SortKey).sort data.reverse).reverse := by
  refine ⟨fun out => ⟨IsStable.eq_sort, ?_⟩, sort_of_sorts (sorts_sort data), ?_⟩
  · rintro rfl
    exact isStable_sort k data
  · exact (isStable_sort ⟨k.field, .asc⟩ data.reverse).reverse.eq_sort.symm

end SortKey

/-- A result set passes the check on its order exactly if sorting leaves it as it is. -/
theorem Check.sortedBy_iff_sort_eq (data : Dataset) (field : String) (direction : Direction) :
    passes data (.sortedBy field direction) = true ↔
      (⟨field, direction⟩ : SortKey).sort data = data :=
  (passes_sortedBy_iff (k := ⟨field, direction⟩)).trans SortKey.sorts_iff_sort_eq

end LogLab
