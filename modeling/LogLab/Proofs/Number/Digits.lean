import LogLab.Number.Decimal
import LogLab.Number.Hexadecimal
import Mathlib.Algebra.Group.Nat.Defs
import Mathlib.Data.List.Forall2
import Mathlib.Data.List.Induction

/-! # Rows of digits

Reading the digits that write a number gives the number, and digits without a needless zero in front
are those that write what they are read as. A row of hexadecimal digits is bounded by its length.
-/

namespace LogLab

namespace Numeral

variable {n : Nat} {c : Char} {ds : List Char}

theorem isDigit_iff : isDigit c = true ↔ 48 ≤ c.toNat ∧ c.toNat ≤ 57 := by
  simp only [isDigit, Char.le_def, Bool.and_eq_true, decide_eq_true_eq, UInt32.le_iff_toNat_le]
  rfl

theorem isDigit_eq_charIsDigit : isDigit c = c.isDigit := by
  simp [isDigit, Char.isDigit, Char.le_def]

theorem isDigit_of_mem_toDigits (h : c ∈ Nat.toDigits 10 n) : isDigit c = true := by
  rw [isDigit_eq_charIsDigit]
  exact Nat.isDigit_of_mem_toDigits (by decide) (by decide) h

theorem digitsValue_toDigits (n : Nat) : digitsValue (Nat.toDigits 10 n) = n := by
  have h : ∀ (ds : List Char) (k : Nat), ds.foldl (fun n c => n * 10 + (c.toNat - '0'.toNat)) k =
      Nat.ofDigitChars 10 ds k := fun ds k => by
    simp only [Nat.ofDigitChars, Nat.mul_comm]
  exact (h _ 0).trans Nat.ofDigitChars_ten_toDigits

theorem toList_toString (n : Nat) : (toString n).toList = Nat.toDigits 10 n := by
  rw [Nat.toString_eq_ofList_toDigits, String.toList_ofList]

theorem digitsValue_append_singleton :
    digitsValue (ds ++ [c]) = 10 * digitsValue ds + (c.toNat - 48) := by
  simp [digitsValue, Nat.mul_comm]

theorem toDigits_singleton (h : isDigit c = true) : Nat.toDigits 10 (c.toNat - 48) = [c] := by
  rw [isDigit_iff] at h
  have hlt : c.toNat - 48 < 10 := by omega
  have hchar : Nat.digitChar (c.toNat - 48) = c := by
    refine Char.toNat_inj.mp ?_
    rw [Nat.toNat_digitChar_of_lt_ten hlt]
    omega
  rw [Nat.toDigits_of_lt_base hlt, hchar]

theorem head?_toDigits (hn : n ≠ 0) : (Nat.toDigits 10 n).head? ≠ some '0' := by
  induction n using Nat.strongRecOn with
  | ind n ih =>
    by_cases hlt : n < 10
    · rw [Nat.toDigits_of_lt_base hlt, List.head?_cons]
      intro h
      have hcode := congrArg Char.toNat (Option.some.inj h)
      rw [Nat.toNat_digitChar_of_lt_ten hlt] at hcode
      have hzero : '0'.toNat = 48 := rfl
      omega
    · rw [Nat.toDigits_of_base_le (by decide) (by omega),
        List.head?_append_of_ne_nil _ Nat.toDigits_ne_nil]
      exact ih (n / 10) (by omega) (by omega)

theorem length_toDigits_le_one (h : (Nat.toDigits 10 n).head? = some '0') :
    (Nat.toDigits 10 n).length ≤ 1 := by
  by_cases hn : n = 0
  · rw [hn, Nat.toDigits_zero]
    exact Nat.le_refl 1
  · exact absurd h (head?_toDigits hn)

/-- Digits without a needless zero in front are what their number is written with. -/
theorem toDigits_digitsValue (hd : ∀ c ∈ ds, isDigit c = true) (hne : ds ≠ [])
    (hzero : ds.head? = some '0' → ds.length ≤ 1) : Nat.toDigits 10 (digitsValue ds) = ds := by
  induction ds using List.reverseRecOn with
  | nil => exact absurd rfl hne
  | append_singleton ds c ih =>
    have hc := hd c (by simp)
    rw [digitsValue_append_singleton]
    by_cases hds : ds = []
    · have hnil : digitsValue [] = 0 := rfl
      rw [hds, hnil, Nat.mul_zero, Nat.zero_add, List.nil_append, toDigits_singleton hc]
    · have hhead : ds.head? ≠ some '0' := by
        intro h
        have hlen := hzero (by rw [List.head?_append_of_ne_nil _ hds, h])
        rw [List.length_append, List.length_singleton] at hlen
        exact hds (List.length_eq_zero_iff.mp (by omega))
      have hfront := ih (fun d hm => hd d (List.mem_append_left _ hm)) hds
        (fun h => absurd h hhead)
      have hpos : 0 < digitsValue ds := by
        refine Nat.pos_of_ne_zero fun h => hhead ?_
        rw [← hfront, h, Nat.toDigits_zero]
        rfl
      have hlt : c.toNat - 48 < 10 := by
        rw [isDigit_iff] at hc
        omega
      rw [← Nat.toDigits_append_toDigits (by decide) hpos hlt, hfront, toDigits_singleton hc]

end Numeral

namespace Hexadecimal

variable {c : Char} {v n : Nat} {ds : List Char} {vs : List Nat}

theorem value?_lt (h : value? c = some v) : v < 16 := by
  simp only [value?, Char.le_def, UInt32.le_iff_toNat_le, Char.reduceVal, UInt32.reduceToNat,
    Char.reduceToNat] at h
  have hcode : c.val.toNat = c.toNat := rfl
  split at h
  · obtain rfl := Option.some.inj h
    omega
  · split at h
    · obtain rfl := Option.some.inj h
      omega
    · split at h
      · obtain rfl := Option.some.inj h
        omega
      · cases h

theorem mapM_value?_eq_some_iff :
    ds.mapM value? = some vs ↔ List.Forall₂ (fun c v => value? c = some v) ds vs := by
  induction ds generalizing vs with
  | nil => simp [eq_comm]
  | cons c ds ih =>
    rw [List.mapM_cons, List.forall₂_cons_left_iff]
    simp only [bind, pure, Option.bind_eq_some_iff, ih, Option.some.injEq]
    grind

theorem exists_values (h : numberOf? ds = some n) :
    ∃ vs, List.Forall₂ (fun c v => value? c = some v) ds vs ∧
      n = vs.foldl (fun n d => n * 16 + d) 0 := by
  obtain ⟨vs, hvs, rfl⟩ := Option.map_eq_some_iff.mp h
  exact ⟨vs, mapM_value?_eq_some_iff.mp hvs, rfl⟩

theorem foldl_lt (h : List.Forall₂ (fun c v => value? c = some v) ds vs) (k : Nat) :
    vs.foldl (fun n d => n * 16 + d) k < (k + 1) * 16 ^ ds.length := by
  induction h generalizing k with
  | nil => simp
  | @cons c v ds vs hc _ ih =>
    have hv := value?_lt hc
    have hle : (k * 16 + v + 1) * 16 ^ ds.length ≤ (k + 1) * 16 * 16 ^ ds.length :=
      Nat.mul_le_mul_right _ (by omega)
    rw [List.foldl_cons, List.length_cons, Nat.pow_succ', ← Nat.mul_assoc]
    exact Nat.lt_of_lt_of_le (ih (k * 16 + v)) hle

theorem numberOf?_lt (h : numberOf? ds = some n) : n < 16 ^ ds.length := by
  obtain ⟨vs, hvs, rfl⟩ := exists_values h
  simpa using foldl_lt hvs 0

theorem isDigit_of_numberOf? (h : numberOf? ds = some n) : ∀ c ∈ ds, isDigit c = true := by
  obtain ⟨vs, hvs, -⟩ := exists_values h
  clear h
  induction hvs with
  | nil => simp
  | cons hc _ ih => exact List.forall_mem_cons.mpr ⟨by rw [isDigit, hc]; rfl, ih⟩

theorem isDigit_of_decimal (h : Numeral.isDigit c = true) : isDigit c = true := by
  rw [isDigit, value?, if_pos (by simpa [Numeral.isDigit] using h)]
  rfl

end Hexadecimal

end LogLab
