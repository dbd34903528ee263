/-! # Ordered entries

A map whose order is the order of insertion is a list of pairs. Inserting under a key that is
present replaces the value and keeps the place.
-/

namespace LogLab

/-- Pairs of a key and a value, in order. -/
abbrev Entries (α : Type) := List (String × α)

namespace Entries

variable {α : Type}

def keys (es : Entries α) : List String :=
  es.map Prod.fst

/-- Puts a value under a key: in place if the key is present, at the end if it is not. -/
def insert (key : String) (value : α) : Entries α → Entries α
  | [] => [(key, value)]
  | (k, v) :: es => if k = key then (key, value) :: es else (k, v) :: insert key value es

def insertAll (es : Entries α) (pairs : List (String × α)) : Entries α :=
  pairs.foldl (fun acc pair => insert pair.1 pair.2 acc) es

@[simp]
theorem keys_nil : keys ([] : Entries α) = [] := rfl

@[simp]
theorem keys_cons (e : String × α) (es : Entries α) : keys (e :: es) = e.1 :: keys es := rfl

theorem mem_keys_insert {key k : String} {value : α} {es : Entries α} :
    k ∈ keys (insert key value es) ↔ k = key ∨ k ∈ keys es := by
  induction es with
  | nil => simp [insert]
  | cons e es ih =>
    by_cases h : e.1 = key
    · simp [insert, h]
    · simp only [insert, if_neg h, keys_cons, List.mem_cons, ih]
      constructor <;> (intro h; rcases h with h | h | h <;> simp [h])

theorem nodup_keys_insert {key : String} {value : α} {es : Entries α} (h : (keys es).Nodup) :
    (keys (insert key value es)).Nodup := by
  induction es with
  | nil => simp [insert]
  | cons e es ih =>
    rw [keys_cons, List.nodup_cons] at h
    by_cases hk : e.1 = key
    · rw [insert, if_pos hk, keys_cons, List.nodup_cons]
      exact ⟨hk ▸ h.1, h.2⟩
    · rw [insert, if_neg hk, keys_cons, List.nodup_cons, mem_keys_insert]
      exact ⟨fun hor => hor.elim hk h.1, ih h.2⟩

end Entries

end LogLab
