import LogLab.Check
import LogLab.Proofs.Number.Ranks
import LogLab.Proofs.Pipeline.Groups
import Mathlib.Data.Int.ConditionallyCompleteOrder
import Mathlib.Data.Prod.Lex
import Mathlib.Data.String.Basic
import Mathlib.Data.Sum.Order
import Mathlib.Order.WithBot

/-! # Sorted records

Every field value has a place in a linear order: numbers by value, then texts, then absent values.
Sorting puts records in the order of these places, and what limits, filters and projections make of
sorted records is sorted as long as the field that they are sorted by keeps its values.
-/

namespace LogLab

namespace Json

/-- The place of a present value: a number is in front of every text. -/
def order (v : Json) : Int ⊕ₗ String :=
  match v.number? with
  | some x => Sum.inlₗ (Binary64.totalRank x)
  | none => Sum.inrₗ v.text

def place : Option Json → WithTop (Int ⊕ₗ String)
  | none => ⊤
  | some v => v.order

theorem comparePresent_eq (v w : Json) : comparePresent v w = compare v.order w.order := by
  unfold comparePresent order
  rcases v.number? with _ | x <;> rcases w.number? with _ | y
  · exact (compare_of_strictMono Sum.Lex.inr_strictMono v.text w.text).symm
  · exact (compare_gt_iff_gt.mpr (Sum.Lex.inl_lt_inr _ _)).symm
  · exact (compare_lt_iff_lt.mpr (Sum.Lex.inl_lt_inr _ _)).symm
  · exact (compare_of_strictMono Sum.Lex.inl_strictMono _ _).symm

/-- Field values are compared by their places. -/
theorem compareFields_eq (a b : Option Json) :
    compareFields a b = compare (place a) (place b) := by
  rcases a with _ | v <;> rcases b with _ | w
  · exact (compare_eq_iff_eq.mpr rfl).symm
  · exact (compare_gt_iff_gt.mpr (WithTop.coe_lt_top _)).symm
  · exact (compare_lt_iff_lt.mpr (WithTop.coe_lt_top _)).symm
  · exact (comparePresent_eq v w).trans (compare_of_strictMono WithTop.coe_strictMono _ _).symm

theorem isLE_compareFields {a b : Option Json} :
    (compareFields a b).isLE = true ↔ place a ≤ place b := by
  rw [compareFields_eq]
  exact Ordering.ne_gt_iff_isLE.symm.trans compare_le_iff_le

theorem isGE_compareFields {a b : Option Json} :
    (compareFields a b).isGE = true ↔ place b ≤ place a := by
  rw [compareFields_eq]
  exact Ordering.ne_lt_iff_isGE.symm.trans compare_ge_iff_ge

theorem isEq_compareFields {a b : Option Json} :
    (compareFields a b).isEq = true ↔ place a = place b := by
  rw [compareFields_eq, Ordering.isEq_iff_eq_eq, compare_eq_iff_eq]

theorem place_lt_of_number {v w : Json} (hv : v.number?.isSome = true) (hw : w.number? = none) :
    place (some v) < place (some w) := by
  obtain ⟨x, hx⟩ := Option.isSome_iff_exists.mp hv
  have horder : v.order < w.order := by
    rw [order, order, hx, hw]
    exact Sum.Lex.inl_lt_inr _ _
  exact WithTop.coe_lt_coe.mpr horder

/-- Any two field values can be compared, and the comparisons fit together whether the values are
numbers, texts or absent: numbers come first, then everything else that is present. -/
theorem compareFields_total_preorder (a b c : Option Json) :
    compareFields a a = .eq ∧
      compareFields b a = (compareFields a b).swap ∧
      ((compareFields a b).isLE = true → (compareFields b c).isLE = true →
        (compareFields a c).isLE = true) ∧
      (∀ v w : Json, v.number?.isSome = true → w.number? = none →
        compareFields (some v) (some w) = .lt) ∧
      ∀ v : Json, compareFields (some v) none = .lt := by
  refine ⟨?_, ?_, ?_, fun v w hv hw => ?_, fun v => rfl⟩
  · rw [compareFields_eq, compare_eq_iff_eq]
  · rw [compareFields_eq, compareFields_eq]
    exact Std.OrientedCmp.eq_swap
  · simp only [isLE_compareFields]
    exact le_trans
  · rw [compareFields_eq, compare_lt_iff_lt]
    exact place_lt_of_number hv hw

theorem compareFields_total_preorder_of_mixed :
    let a := some (string " 2e1 ")
    let b := some (string "1x")
    (string " 2e1 ").number?.isSome = true ∧ (string "1x").number? = none ∧
      compareFields a b = .lt ∧ (compareFields a b).isLE = true ∧
      (compareFields b none).isLE = true ∧ (compareFields a none).isLE = true := by
  intro a b
  have hnumber : (string " 2e1 ").number?.isSome = true := by decide +kernel
  have htext : (string "1x").number? = none := by decide +kernel
  obtain ⟨-, -, htrans, hnumbers, -⟩ := compareFields_total_preorder a b none
  have hlt : compareFields a b = .lt := hnumbers _ _ hnumber htext
  have hle : (compareFields a b).isLE = true := by rw [hlt]; rfl
  exact ⟨hnumber, htext, hlt, hle, rfl, htrans hle rfl⟩

end Json

namespace SortKey

variable {k : SortKey} {a b c : Record}

theorem inOrder_iff : k.inOrder a b = true ↔ match k.direction with
    | .asc => Json.place (a.field? k.field) ≤ Json.place (b.field? k.field)
    | .desc => Json.place (b.field? k.field) ≤ Json.place (a.field? k.field) := by
  unfold inOrder compareAscending
  cases k.direction with
  | asc => exact Json.isLE_compareFields
  | desc => exact Json.isGE_compareFields

theorem inOrder_trans (hab : k.inOrder a b = true) (hbc : k.inOrder b c = true) :
    k.inOrder a c = true := by
  rw [inOrder_iff] at *
  cases hd : k.direction with
  | asc =>
    rw [hd] at hab hbc
    exact le_trans hab hbc
  | desc =>
    rw [hd] at hab hbc
    exact le_trans hbc hab

theorem inOrder_total : (k.inOrder a b || k.inOrder b a) = true := by
  rw [Bool.or_eq_true, inOrder_iff, inOrder_iff]
  cases k.direction with
  | asc => exact le_total _ _
  | desc => exact le_total _ _

/-- Only the fields that are sorted by decide. -/
theorem inOrder_congr {a' b' : Record} (ha : a'.field? k.field = a.field? k.field)
    (hb : b'.field? k.field = b.field? k.field) : k.inOrder a' b' = k.inOrder a b := by
  rw [inOrder, inOrder, compareAscending, compareAscending, ha, hb]

theorem inOrder_of_absent (ha : a.field? k.field = none) (hb : b.field? k.field = none) :
    k.inOrder a b = true := by
  rw [inOrder_iff, ha, hb]
  cases k.direction <;> exact le_rfl

/-- The records are in the order of the key. -/
def Sorts (k : SortKey) (data : Dataset) : Prop :=
  data.Pairwise fun a b => k.inOrder a b = true

theorem sorts_sort (data : Dataset) : k.Sorts (k.sort data) := by
  have htrans : ∀ a b c, k.inOrder a b = true → k.inOrder b c = true → k.inOrder a c = true :=
    fun _ _ _ => inOrder_trans
  have htotal : ∀ a b, (k.inOrder a b || k.inOrder b a) = true := fun _ _ => inOrder_total
  exact List.pairwise_mergeSort htrans htotal data

end SortKey

namespace Check

variable {related : Record → Record → Bool} {data : Dataset}

theorem holdsOfNeighbours_iff :
    holdsOfNeighbours related data = true ↔ data.IsChain fun a b => related a b = true := by
  fun_induction holdsOfNeighbours related data with
  | case1 a b rest ih => rw [Bool.and_eq_true, ih, List.isChain_cons_cons]
  | case2 data h =>
    rcases data with _ | ⟨a, _ | ⟨b, rest⟩⟩
    · simp
    · simp
    · exact absurd rfl (h a b rest)

/-- The check on the order of a result set, which looks at neighbours only, tells whether the whole
is in order. -/
theorem passes_sortedBy_iff {k : SortKey} :
    passes data (.sortedBy k.field k.direction) = true ↔ k.Sorts data := by
  have : Trans (fun a b => k.inOrder a b = true) (fun a b => k.inOrder a b = true)
      (fun a b => k.inOrder a b = true) := ⟨SortKey.inOrder_trans⟩
  rw [passes, holdsOfNeighbours_iff]
  exact List.isChain_iff_pairwise

end Check

namespace Projection

variable {columns : List Projection} {r out : Record} {name : String}

def addColumn (r out : Record) (p : Projection) : Record :=
  match r.get? p.field with
  | some value => out.insert p.outputName value
  | none => out

theorem projectRecord_eq : projectRecord columns r = columns.foldl (addColumn r) .empty := rfl

theorem get?_addColumn {p : Projection} : (addColumn r out p).get? name =
    if name = p.outputName then (r.get? p.field).or (out.get? name) else out.get? name := by
  unfold addColumn
  cases r.get? p.field with
  | none => simp
  | some value => simp

theorem get?_foldl (h : ∀ p ∈ columns, p.outputName = name → p.field = name) :
    (columns.foldl (addColumn r) out).get? name =
      if name ∈ columns.map outputName then (r.get? name).or (out.get? name)
      else out.get? name := by
  induction columns generalizing out with
  | nil => rfl
  | cons p columns ih =>
    rw [List.forall_mem_cons] at h
    obtain ⟨hp, hrest⟩ := h
    rw [List.foldl_cons, ih hrest, get?_addColumn]
    by_cases hname : name = p.outputName
    · rw [hp hname.symm, if_pos hname]
      cases r.get? name with
      | none => simp
      | some value => simp [hname]
    · simp [hname]

/-- A name that is given to no other field has its old value, or none if it is not given. -/
theorem field?_projectRecord (h : ∀ p ∈ columns, p.outputName = name → p.field = name) :
    (projectRecord columns r).field? name =
      if name ∈ columns.map outputName then r.field? name else none := by
  have hempty : Record.empty.get? name = none := rfl
  rw [Record.field?, projectRecord_eq, get?_foldl h, hempty, Option.or_none]
  split <;> rfl

end Projection

namespace Operation

variable {k : SortKey} {o : Operation} {data : Dataset}

/-- Whether sorted records are still sorted after the operation: it makes no new records, and gives
the name of the sorted field to no other field. -/
def KeepsOrder (name : String) : Operation → Prop
  | filter _ | limit _ => True
  | project columns => ∀ p ∈ columns, p.outputName = name → p.field = name
  | group _ | sort _ => False

theorem sorts_apply (ho : o.KeepsOrder k.field) (h : k.Sorts data) : k.Sorts (o.apply data) := by
  cases o with
  | filter condition => exact h.sublist List.filter_sublist
  | project columns =>
    refine List.pairwise_map.mpr (h.imp fun {a b} hab => ?_)
    have hfield := fun r : Record => Projection.field?_projectRecord (r := r) ho
    by_cases hmem : k.field ∈ columns.map Projection.outputName
    · simp only [if_pos hmem] at hfield
      rw [SortKey.inOrder_congr (hfield a) (hfield b), hab]
    · simp only [if_neg hmem] at hfield
      exact SortKey.inOrder_of_absent (hfield a) (hfield b)
  | group grouping => cases ho
  | sort key => cases ho
  | limit bound =>
    refine h.sublist ?_
    rw [apply, Limit.apply]
    cases bound.side with
    | head => exact List.take_sublist _ _
    | tail => exact List.drop_sublist _ _

end Operation

namespace Pipeline

variable {k : SortKey} {operations : List Operation} {data : Dataset}

theorem sorts_apply (ho : ∀ o ∈ operations, o.KeepsOrder k.field) (h : k.Sorts data) :
    k.Sorts ((⟨operations⟩ : Pipeline).apply data) := by
  unfold apply
  induction operations generalizing data with
  | nil => exact h
  | cons o operations ih =>
    rw [List.forall_mem_cons] at ho
    exact ih ho.2 (Operation.sorts_apply ho.1 h)

end Pipeline

end LogLab
