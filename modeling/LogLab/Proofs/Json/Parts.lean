import LogLab.Json.Decoder
import LogLab.Proofs.Pipeline.Groups
import Mathlib.Data.List.Nodup

/-! # Reading what was written

A decoder reads an encoder if it gives back every value that the encoder writes. Lists, parts that
may be missing and names of choices keep this, so that a structure is read part by part.
-/

namespace LogLab

namespace Json

variable {α : Type} {decode : Json → Option α} {encode : α → Json}

theorem bind_of_eq_some {β : Type} {x : Option α} {f : α → Option β} {a : α} {b : β}
    (hx : x = some a) (hf : f a = some b) : x >>= f = some b := by
  rw [hx]
  exact hf

/-- The decoder gives back every value that the encoder writes. -/
def Reads (decode : Json → Option α) (encode : α → Json) : Prop :=
  ∀ x, decode (encode x) = some x

theorem reads_string : Reads string? string := fun _ => rfl

theorem reads_ofCount : Reads count? ofCount := by
  intro n
  have hlt : n.toNat < UInt64.size := n.toNat_lt
  change (if n.toNat < UInt64.size then some (UInt64.ofNat n.toNat) else none) = some n
  rw [if_pos hlt, UInt64.ofNat_toNat]

/-- A choice is written as its name. -/
theorem reads_symbol {tag : α → String} {ofTag? : String → Option α}
    (h : ∀ x, ofTag? (tag x) = some x) (setAside : Bool) :
    Reads (fun v => (v.symbol? setAside).bind ofTag?) fun x => string (tag x) := by
  intro x
  exact h x

theorem Reads.mapM_map (h : Reads decode encode) (xs : List α) :
    (xs.map encode).mapM decode = some xs := by
  induction xs with
  | nil => rfl
  | cons x xs ih => rw [List.map_cons, List.mapM_cons, h x, ih]; rfl

theorem Reads.list (h : Reads decode encode) :
    Reads (list? decode) fun xs => array (xs.map encode) :=
  h.mapM_map

section Parts

variable {names : List String} {fields : List (String × Json)} {name : String}

theorem repeats_eq_false (h : (Entries.keys fields).Nodup) : repeats names fields = false := by
  refine List.any_eq_false.mpr fun name _ => ?_
  have hcount : (Entries.keys fields).count name = (fields.filter fun f => f.1 == name).length := by
    rw [Entries.keys, List.count, List.countP_map, List.countP_eq_length_filter]
    rfl
  rw [decide_eq_true_eq, ← hcount, Nat.not_lt]
  exact List.nodup_iff_count_le_one.mp h name

theorem parts?_object (h : (Entries.keys fields).Nodup) :
    parts? names (object fields) = some fun name => fields.lookup name := by
  rw [parts?, repeats_eq_false h]
  rfl

@[simp] theorem lookup_ifSome {name' : String} {v : Option Json} :
    (ifSome name' v).lookup name = if name = name' then v else none := by
  cases v with
  | none => simp [ifSome]
  | some v => simp [ifSome]

theorem keys_ifSome_sublist (v : Option Json) : (Entries.keys (ifSome name v)).Sublist [name] := by
  cases v with
  | none => exact List.nil_sublist _
  | some v => exact List.Sublist.refl _

end Parts

section Missing

theorem optional?_some {v : Json} (hv : v ≠ null) :
    optional? decode (some v) = (decode v).map some := by
  cases v with
  | null => exact absurd rfl hv
  | _ => rfl

variable (h : Reads decode encode) (hnull : ∀ x, encode x ≠ null)
include h hnull

/-- A part that is left out if there is none. -/
theorem Reads.optional (o : Option α) : optional? decode (o.map encode) = some o := by
  cases o with
  | none => rfl
  | some x => rw [Option.map_some, optional?_some (hnull x), h x, Option.map_some]

/-- A part that is `null` if there is none. -/
theorem Reads.nullable (o : Option α) :
    optional? decode (some ((o.map encode).getD null)) = some o := by
  cases o with
  | none => rfl
  | some x => exact h.optional hnull (some x)

end Missing

end Json

end LogLab
