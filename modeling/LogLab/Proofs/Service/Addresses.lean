import LogLab.Proofs.Query.Tokens
import LogLab.Service.Address

/-! # Addresses as they are written

What texts write an address, and that reading a text gives an address if and only if the text writes
it. An address is also read in front of other text, as long as that text does not go on with it.
-/

namespace LogLab

namespace Ipv4

open Scan Text

variable {s t : List Char} {b : UInt8} {ip : Ipv4}

theorem length_toDigits_le (b : UInt8) : (Nat.toDigits 10 b.toNat).length ≤ 3 := by
  have hlt := b.toNat_lt
  exact (Nat.length_toDigits_le_iff (by decide) (by decide)).mpr (by omega)

theorem scanOctet_eq_some_iff : scanOctet s = some (b, t) ↔
    s = Nat.toDigits 10 b.toNat ++ t ∧ Stops Numeral.isDigit t := by
  rw [scanOctet, bind_eq_some_iff]
  constructor
  · rintro ⟨ds, r, hds, h⟩
    obtain ⟨hne, hd, hr, rfl⟩ := takeWhile1_eq_some_iff.mp hds
    split at h
    · cases h
    · next hlong =>
      split at h
      · next hlt =>
        obtain ⟨rfl, rfl⟩ := pure_eq_some_iff.mp h
        have hzero : ds.head? = some '0' → ds.length ≤ 1 := by
          intro hhead
          simp [hhead] at hlong
          omega
        have htoNat : (UInt8.ofNat (Numeral.digitsValue ds)).toNat = Numeral.digitsValue ds :=
          Nat.mod_eq_of_lt hlt
        rw [htoNat, Numeral.toDigits_digitsValue hd hne hzero]
        exact ⟨rfl, hr⟩
      · cases h
  · rintro ⟨rfl, ht⟩
    have hd : ∀ c ∈ Nat.toDigits 10 b.toNat, Numeral.isDigit c = true := fun c hc =>
      Numeral.isDigit_of_mem_toDigits hc
    refine ⟨_, t, takeWhile1_append Nat.toDigits_ne_nil hd ht, ?_⟩
    rw [if_neg (by simpa using ⟨length_toDigits_le b, Numeral.length_toDigits_le_one⟩),
      Numeral.digitsValue_toDigits, if_pos b.toNat_lt, UInt8.ofNat_toNat]
    rfl

theorem toList_display (ip : Ipv4) : ip.display.toList =
    Nat.toDigits 10 ip.a.toNat ++ '.' :: (Nat.toDigits 10 ip.b.toNat ++
      '.' :: (Nat.toDigits 10 ip.c.toNat ++ '.' :: Nat.toDigits 10 ip.d.toNat)) := by
  have htext (n : UInt8) : (toString n).toList = Nat.toDigits 10 n.toNat :=
    Numeral.toList_toString n.toNat
  have hpoint : (toString ".").toList = ['.'] := rfl
  simp only [display, String.toList_append, htext, hpoint, List.append_assoc, List.cons_append,
    List.nil_append]

theorem display_ne_nil : ip.display.toList ≠ [] := by
  simp [toList_display]

/-- Octets are read wherever they are written. -/
theorem scan_eq_some_iff : scan s = some (ip, t) ↔
    s = ip.display.toList ++ t ∧ Stops Numeral.isDigit t := by
  simp only [scan, bind_eq_some_iff, scanOctet_eq_some_iff, char_eq_some_iff, pure_eq_some_iff,
    toList_display]
  constructor
  · rintro ⟨a, _, ⟨rfl, -⟩, _, _, rfl, b, _, ⟨rfl, -⟩, _, _, rfl, c, _, ⟨rfl, -⟩, _, _, rfl, d, r,
      ⟨rfl, ht⟩, rfl, rfl⟩
    exact ⟨by simp, ht⟩
  · rintro ⟨rfl, ht⟩
    have hstop (t : List Char) : Stops Numeral.isDigit ('.' :: t) := stops_cons.mpr (by decide)
    exact ⟨ip.a, _, ⟨by simp, hstop _⟩, (), _, rfl, ip.b, _, ⟨rfl, hstop _⟩, (), _, rfl,
      ip.c, _, ⟨rfl, hstop _⟩, (), _, rfl, ip.d, t, ⟨rfl, ht⟩, rfl, rfl⟩

theorem parse?_eq_some_iff : parse? s = some ip ↔ s = ip.display.toList := by
  rw [parse?, whole?_eq_some_iff, scan_eq_some_iff, List.append_nil, and_iff_left stops_nil]

/-- Octets begin with a row of digits and a point. -/
theorem exists_digits_of_scan (h : scan s = some (ip, t)) :
    ∃ ds r, ds ≠ [] ∧ (∀ c ∈ ds, Hexadecimal.isDigit c = true) ∧ s = ds ++ '.' :: r := by
  obtain ⟨rfl, -⟩ := scan_eq_some_iff.mp h
  rw [toList_display, List.append_assoc]
  refine ⟨_, _, Nat.toDigits_ne_nil, fun c hc => ?_, rfl⟩
  exact Hexadecimal.isDigit_of_decimal (Numeral.isDigit_of_mem_toDigits hc)

theorem scan_eq_none_of_stops (h : Stops Hexadecimal.isDigit s) : scan s = none := by
  refine Option.eq_none_iff_forall_ne_some.mpr fun ⟨ip, t⟩ hscan => ?_
  obtain ⟨ds, r, hne, hd, rfl⟩ := exists_digits_of_scan hscan
  obtain ⟨c, ds, rfl⟩ := List.exists_cons_of_ne_nil hne
  simp [hd c (by simp)] at h

end Ipv4

namespace Ipv6

open Scan Text

/-- One to four hexadecimal digits that write a group. -/
structure IsGroup (g : UInt16) (d : List Char) : Prop where
  ne_nil : d ≠ []
  length_le : d.length ≤ 4
  numberOf? : Hexadecimal.numberOf? d = some g.toNat

/-- Groups as they are written with colons between them. The last two may be written as the octets
of the fourth version, which the flag tells. -/
inductive Parts : (dotted : Bool) → List UInt16 → List Char → Prop where
  | nil : Parts false [] []
  | group {g : UInt16} {d : List Char} : IsGroup g d → Parts false [g] d
  | octets (ip : Ipv4) : Parts true ip.groups ip.display.toList
  | cons {dotted : Bool} {g g' : UInt16} {gs : List UInt16} {d s : List Char} : IsGroup g d →
      Parts dotted (g' :: gs) s → Parts dotted (g :: g' :: gs) (d ++ ':' :: s)

/-- An address as it is written: all groups, or two colons in place of one group of zeros or more,
in front of which no octets are written. -/
inductive Written (ip : Ipv6) : List Char → Prop where
  | full {dotted : Bool} {s : List Char} : Parts dotted ip.groups s → Written ip s
  | gap {dotted : Bool} {front back : List UInt16} {s t : List Char} : Parts false front s →
      Parts dotted back t → front.length + back.length ≤ 7 →
      ip.groups = front ++ List.replicate (8 - front.length - back.length) 0 ++ back →
      Written ip (s ++ ':' :: ':' :: t)

/-- The text of a list that is read on: a colon stands in front unless this is the start. -/
def opened (isFirst : Bool) (s : List Char) : List Char :=
  if isFirst then s else ':' :: s

def behind (isFirst : Bool) (s : List Char) : List Char :=
  if s.isEmpty then [] else opened isFirst s

/-- A character that a group or octets can go on with. -/
def goesOn (c : Char) : Bool := Hexadecimal.isDigit c || c == '.'

/-- A text at which groups end: neither what was read nor the list goes on. -/
structure Closes (t : List Char) : Prop where
  stops : Stops goesOn t
  next : ∀ r, t = ':' :: r → Stops Hexadecimal.isDigit r

variable {s t d u rest : List Char} {g : UInt16} {gs : List UInt16} {dotted isFirst : Bool}
  {limit : Nat} {ip : Ipv6}

section Opened

@[simp] theorem opened_true : opened true s = s := rfl

@[simp] theorem behind_true : behind true s = s := by
  cases s <;> rfl

@[simp] theorem behind_nil : behind isFirst [] = [] := rfl

theorem behind_of_ne_nil (hs : s ≠ []) : behind isFirst s = opened isFirst s :=
  if_neg (by simpa using hs)

theorem opened_append : opened isFirst s ++ t = opened isFirst (s ++ t) := by
  cases isFirst <;> rfl

theorem opened_injective : Function.Injective (opened isFirst) := fun s t h => by
  cases isFirst with
  | true => exact h
  | false => exact (List.cons.inj h).2

theorem stops_of_goesOn (h : Stops goesOn t) : Stops Hexadecimal.isDigit t := fun c hc =>
  (Bool.or_eq_false_iff.mp (h c hc)).1

theorem separated_eq_some_iff {α : Type} {scan : Scan α} {a : α} :
    separated isFirst scan s = some (a, t) ↔ ∃ r, s = opened isFirst r ∧ scan r = some (a, t) := by
  cases isFirst with
  | true =>
    have h : separated true scan = scan := rfl
    simp [h]
  | false =>
    have h : separated false scan = char ':' >>= fun _ => scan := rfl
    simp [h, bind_eq_some_iff, char_eq_some_iff, opened]

theorem separated_eq_none {α : Type} {scan : Scan α} (h : ∀ r, s = opened isFirst r →
    scan r = none) : separated isFirst scan s = none := by
  refine Option.eq_none_iff_forall_ne_some.mpr fun ⟨a, t⟩ hscan => ?_
  obtain ⟨r, hr, ha⟩ := separated_eq_some_iff.mp hscan
  rw [h r hr] at ha
  cases ha

end Opened

section Groups

theorem scanGroup_eq_some_iff : scanGroup s = some (g, t) ↔
    ∃ d, IsGroup g d ∧ Stops Hexadecimal.isDigit t ∧ s = d ++ t := by
  rw [scanGroup, bind_eq_some_iff]
  constructor
  · rintro ⟨d, r, hd, h⟩
    obtain ⟨hne, -, hr, rfl⟩ := takeWhile1_eq_some_iff.mp hd
    split at h
    · cases h
    · next hlen =>
      cases hn : Hexadecimal.numberOf? d with
      | none => rw [hn] at h; cases h
      | some n =>
        rw [hn] at h
        obtain ⟨rfl, rfl⟩ := pure_eq_some_iff.mp h
        have hlt : n < 16 ^ 4 :=
          (Hexadecimal.numberOf?_lt hn).trans_le (Nat.pow_le_pow_right (by decide) (by omega))
        have htoNat : (UInt16.ofNat n).toNat = n := Nat.mod_eq_of_lt hlt
        exact ⟨d, ⟨hne, by omega, by rw [hn, htoNat]⟩, hr, rfl⟩
  · rintro ⟨d, hd, ht, rfl⟩
    refine ⟨d, t, takeWhile1_append hd.ne_nil
      (Hexadecimal.isDigit_of_numberOf? hd.numberOf?) ht, ?_⟩
    rw [if_neg (by have := hd.length_le; omega), hd.numberOf?]
    exact pure_eq_some_iff.mpr ⟨UInt16.ofNat_toNat, rfl⟩

theorem scanGroup_eq_none_of_stops (h : Stops Hexadecimal.isDigit s) : scanGroup s = none := by
  refine Option.eq_none_iff_forall_ne_some.mpr fun ⟨g, t⟩ hscan => ?_
  obtain ⟨d, hd, -, rfl⟩ := scanGroup_eq_some_iff.mp hscan
  obtain ⟨c, d, rfl⟩ := List.exists_cons_of_ne_nil hd.ne_nil
  have hc := Hexadecimal.isDigit_of_numberOf? hd.numberOf? c (by simp)
  simp [hc] at h

/-- A group is not taken for octets, since no point follows it. -/
theorem IsGroup.scan_append (hd : IsGroup g d) (ht : Stops goesOn t) :
    Ipv4.scan (d ++ t) = none := by
  refine Option.eq_none_iff_forall_ne_some.mpr fun ⟨ip, rest⟩ h => ?_
  obtain ⟨ds, r, -, hds, he⟩ := Ipv4.exists_digits_of_scan h
  obtain ⟨-, rfl⟩ := run_unique (Hexadecimal.isDigit_of_numberOf? hd.numberOf?)
    (stops_of_goesOn ht) hds (stops_cons.mpr (by decide)) he
  simp [goesOn] at ht

theorem Parts.eq_nil_iff (h : Parts dotted gs u) : u = [] ↔ gs = [] := by
  cases h with
  | nil => simp
  | group hd => simp [hd.ne_nil]
  | octets ip => exact ⟨fun h => absurd h Ipv4.display_ne_nil, nofun⟩
  | cons hd _ => simp

theorem Parts.cons_behind (hd : IsGroup g d) (h : Parts dotted gs u) :
    Parts dotted (g :: gs) (d ++ behind false u) := by
  cases gs with
  | nil =>
    obtain rfl := h.eq_nil_iff.mpr rfl
    cases h
    simpa using Parts.group hd
  | cons g' gs =>
    have hne : u ≠ [] := by simp [h.eq_nil_iff]
    rw [behind_of_ne_nil hne]
    exact .cons hd h

end Groups

section ReadGroups

theorem readGroups_display_append {ip : Ipv4} (hlimit : 0 < limit)
    (ht : Stops Hexadecimal.isDigit t) :
    readGroups (limit + 1) isFirst (opened isFirst (ip.display.toList ++ t)) =
      (ip.groups, true, t) := by
  have hstops : Stops Numeral.isDigit t := fun c hc => Bool.eq_false_iff.mpr fun hd => by
    have := ht c hc
    rw [Hexadecimal.isDigit_of_decimal hd] at this
    cases this
  have hscan : separated isFirst Ipv4.scan (opened isFirst (ip.display.toList ++ t)) =
      some (ip, t) :=
    separated_eq_some_iff.mpr ⟨_, rfl, Ipv4.scan_eq_some_iff.mpr ⟨rfl, hstops⟩⟩
  rw [readGroups, if_pos hlimit, hscan]

theorem readGroups_of_group (h : separated isFirst Ipv4.scan s = none)
    (hg : separated isFirst scanGroup s = some (g, t))
    (hnext : readGroups limit false t = (gs, dotted, rest)) :
    readGroups (limit + 1) isFirst s = (g :: gs, dotted, rest) := by
  rw [readGroups, h, hg, ite_self]
  simp only [hnext]

/-- What one step of reading groups can come to: octets, a group, or the end. -/
theorem readGroups_cases (h : readGroups (limit + 1) isFirst s = (gs, dotted, t)) :
    (∃ ip : Ipv4, 0 < limit ∧ gs = ip.groups ∧ dotted = true ∧
      separated isFirst Ipv4.scan s = some (ip, t)) ∨
    (∃ g gs' rest, gs = g :: gs' ∧ separated isFirst scanGroup s = some (g, rest) ∧
      readGroups limit false rest = (gs', dotted, t)) ∨
    gs = [] ∧ dotted = false ∧ t = s := by
  rw [readGroups] at h
  split at h
  · next ip rest hoctets =>
    obtain ⟨hlimit, hscan⟩ := Option.ite_none_right_eq_some.mp hoctets
    simp only [Prod.mk.injEq] at h
    obtain ⟨rfl, rfl, rfl⟩ := h
    exact .inl ⟨ip, hlimit, rfl, rfl, hscan⟩
  · split at h
    · next g rest hgroup =>
      simp only [Prod.mk.injEq] at h
      obtain ⟨rfl, rfl, rfl⟩ := h
      exact .inr (.inl ⟨g, _, rest, rfl, hgroup, rfl⟩)
    · simp only [Prod.mk.injEq] at h
      exact .inr (.inr ⟨h.1.symm, h.2.1.symm, h.2.2.symm⟩)

/-- Groups that are read are written in the text. -/
theorem parts_of_readGroups (h : readGroups limit isFirst s = (gs, dotted, t)) :
    gs.length ≤ limit ∧ ∃ u, Parts dotted gs u ∧ s = behind isFirst u ++ t := by
  induction limit generalizing isFirst s gs with
  | zero =>
    simp only [readGroups, Prod.mk.injEq] at h
    obtain ⟨rfl, rfl, rfl⟩ := h
    exact ⟨Nat.le_refl 0, [], .nil, rfl⟩
  | succ limit ih =>
    rcases readGroups_cases h with ⟨ip, hlimit, rfl, rfl, hscan⟩ | ⟨g, gs', rest, rfl, hg, hnext⟩ |
      ⟨rfl, rfl, rfl⟩
    · obtain ⟨r, rfl, hr⟩ := separated_eq_some_iff.mp hscan
      obtain ⟨rfl, -⟩ := Ipv4.scan_eq_some_iff.mp hr
      refine ⟨Nat.succ_le_succ hlimit, _, .octets ip, ?_⟩
      rw [behind_of_ne_nil Ipv4.display_ne_nil, opened_append]
    · obtain ⟨r, rfl, hr⟩ := separated_eq_some_iff.mp hg
      obtain ⟨d, hd, -, rfl⟩ := scanGroup_eq_some_iff.mp hr
      obtain ⟨hlen, u, hu, rfl⟩ := ih hnext
      have hne : d ++ behind false u ≠ [] := by simp [hd.ne_nil]
      refine ⟨Nat.succ_le_succ hlen, _, .cons_behind hd hu, ?_⟩
      rw [behind_of_ne_nil hne, opened_append, List.append_assoc]
    · exact ⟨Nat.zero_le _, [], .nil, rfl⟩

theorem Closes.readGroups (ht : Closes t) : readGroups limit isFirst t = ([], false, t) := by
  have hstops (r : List Char) (hr : t = opened isFirst r) : Stops Hexadecimal.isDigit r := by
    cases isFirst with
    | true =>
      obtain rfl : t = r := hr
      exact stops_of_goesOn ht.stops
    | false => exact ht.next r hr
  cases limit with
  | zero => rfl
  | succ limit =>
    rw [Ipv6.readGroups, separated_eq_none fun r hr => Ipv4.scan_eq_none_of_stops (hstops r hr),
      separated_eq_none fun r hr => scanGroup_eq_none_of_stops (hstops r hr), ite_self]

theorem IsGroup.readGroups_append (hd : IsGroup g d) (ht : Stops goesOn t)
    (hnext : readGroups limit false t = (gs, dotted, rest)) :
    readGroups (limit + 1) isFirst (opened isFirst (d ++ t)) = (g :: gs, dotted, rest) := by
  refine readGroups_of_group (separated_eq_none fun r hr => ?_) ?_ hnext
  · rw [← opened_injective hr, hd.scan_append ht]
  · exact separated_eq_some_iff.mpr
      ⟨_, rfl, scanGroup_eq_some_iff.mpr ⟨d, hd, stops_of_goesOn ht, rfl⟩⟩

/-- Groups that are written are read up to a text at which they end. -/
theorem Parts.readGroups_append (h : Parts dotted gs u) (hlen : gs.length ≤ limit)
    (ht : Closes t) : readGroups limit isFirst (behind isFirst u ++ t) = (gs, dotted, t) := by
  induction h generalizing limit isFirst with
  | nil => exact ht.readGroups
  | group hd =>
    obtain ⟨limit, rfl⟩ := Nat.exists_eq_add_of_le' hlen
    rw [behind_of_ne_nil hd.ne_nil, opened_append]
    exact hd.readGroups_append ht.stops ht.readGroups
  | octets ip =>
    obtain ⟨limit, rfl⟩ := Nat.exists_eq_add_of_le' hlen
    rw [behind_of_ne_nil Ipv4.display_ne_nil, opened_append]
    exact readGroups_display_append (Nat.succ_pos limit) (stops_of_goesOn ht.stops)
  | @cons dotted g g' gs d s hd hs ih =>
    obtain ⟨limit, rfl⟩ := Nat.exists_eq_add_of_le' hlen
    have hne : s ≠ [] := by simp [hs.eq_nil_iff]
    have hnext : Ipv6.readGroups (limit + (gs.length + 1)) false (behind false s ++ t) =
        (g' :: gs, dotted, t) := ih (Nat.le_add_left _ _)
    have hcolon : behind false s ++ t = ':' :: (s ++ t) := by
      rw [behind_of_ne_nil hne]
      rfl
    -- The colon in front of the next part is what ends this group.
    rw [behind_of_ne_nil (by simp), opened_append, List.append_assoc, List.cons_append, ← hcolon]
    exact hd.readGroups_append (hcolon ▸ stops_cons.mpr (by decide)) hnext

end ReadGroups

section Written

theorem withGap_eq_some_iff {front back : List UInt16} : withGap front back = some ip ↔
    ip.groups = front ++ List.replicate (8 - front.length - back.length) 0 ++ back := by
  unfold withGap
  dsimp only
  constructor
  · intro h
    split at h
    · obtain rfl := Option.some.inj h
      rfl
    · cases h
  · intro h
    rw [dif_pos (by rw [← h, ip.length_eq])]
    cases ip
    cases h
    rfl

theorem closes_nil : Closes [] := ⟨stops_nil, nofun⟩

theorem closes_gap : Closes (':' :: ':' :: t) where
  stops := stops_cons.mpr (by decide)
  next r hr := by
    obtain rfl := (List.cons.inj hr).2
    exact stops_cons.mpr (by decide)

/-- Parts at the start of a text are read up to a text at which they end. -/
theorem Parts.readGroups_eq (h : Parts dotted gs u) (hlen : gs.length ≤ limit) (ht : Closes t) :
    readGroups limit true (u ++ t) = (gs, dotted, t) := by
  have hread : Ipv6.readGroups limit true (behind true u ++ t) = (gs, dotted, t) :=
    h.readGroups_append hlen ht
  rwa [behind_true] at hread

/-- An address is read wherever it is written, up to a text at which groups end. -/
theorem Written.scan_append (h : Written ip u) (ht : Closes t) : scan (u ++ t) = some (ip, t) := by
  cases h with
  | full hu =>
    rw [scan]
    simp only [hu.readGroups_eq ip.length_eq.le ht, ip.length_eq, dite_true]
  | @gap dotted front back s k hs hk hlen hgroups =>
    have hfront : readGroups 8 true (s ++ ':' :: ':' :: (k ++ t)) =
        (front, false, ':' :: ':' :: (k ++ t)) := hs.readGroups_eq (by omega) closes_gap
    have hback : readGroups (7 - front.length) true (k ++ t) = (back, dotted, t) :=
      hk.readGroups_eq (by omega) ht
    rw [scan, List.append_assoc, List.cons_append, List.cons_append]
    simp only [hfront, hback, withGap_eq_some_iff.mpr hgroups, Bool.false_eq_true, if_false,
      Option.map_some]
    rw [dif_neg (by omega)]

/-- An address that is read is written in the text. -/
theorem exists_written_of_scan (h : scan s = some (ip, t)) : ∃ u, Written ip u ∧ s = u ++ t := by
  rcases hfront : readGroups 8 true s with ⟨front, dotted, rest⟩
  simp only [scan, hfront] at h
  obtain ⟨hlen, u, hu, rfl⟩ := parts_of_readGroups hfront
  rw [behind_true]
  split at h
  · obtain ⟨rfl, rfl⟩ := Prod.mk.inj (Option.some.inj h)
    exact ⟨u, .full hu, rfl⟩
  · split at h
    · cases h
    · next hdotted =>
      split at h
      · next rest' =>
        rcases hback : readGroups (7 - front.length) true rest' with ⟨back, dotted', rest''⟩
        obtain ⟨hlen', k, hk, rfl⟩ := parts_of_readGroups hback
        simp only [hback] at h
        obtain ⟨ip', hip, he⟩ := Option.map_eq_some_iff.mp h
        obtain ⟨rfl, rfl⟩ := Prod.mk.inj he
        obtain rfl : dotted = false := Bool.eq_false_iff.mpr hdotted
        refine ⟨u ++ ':' :: ':' :: k, ?_, by simp⟩
        exact .gap hu hk (by omega) (withGap_eq_some_iff.mp hip)
      · cases h

theorem parse?_eq_some_iff : parse? s = some ip ↔ Written ip s := by
  rw [parse?, whole?_eq_some_iff]
  constructor
  · intro h
    obtain ⟨u, hu, rfl⟩ := exists_written_of_scan h
    rwa [List.append_nil]
  · intro h
    simpa using h.scan_append closes_nil

/-- Octets alone are no address of the sixth version. -/
theorem not_written_display (ip : Ipv4) {ip' : Ipv6} : ¬Written ip' ip.display.toList := by
  have hlen : ip.groups.length = 2 := rfl
  have hfront : readGroups 8 true (ip.display.toList ++ []) = (ip.groups, true, []) :=
    (Parts.octets ip).readGroups_eq (by omega) closes_nil
  rw [List.append_nil] at hfront
  rw [← parse?_eq_some_iff, parse?, whole?, scan]
  simp [hfront, hlen]

theorem not_written_bracket : ¬Written ip ('[' :: t) := by
  rw [← parse?_eq_some_iff]
  exact nofun

end Written

end Ipv6

namespace IpAddress

variable {s : List Char}

def Written : IpAddress → List Char → Prop
  | v4 ip, s => s = ip.display.toList
  | v6 ip, s => ip.Written s

/-- An address is read if and only if it is written. -/
theorem parse?_eq_some_iff {ip : IpAddress} : parse? s = some ip ↔ ip.Written s := by
  unfold parse?
  constructor
  · intro h
    split at h
    · next ip' hip =>
      obtain rfl := Option.some.inj h
      exact Ipv4.parse?_eq_some_iff.mp hip
    · obtain ⟨ip', hip, rfl⟩ := Option.map_eq_some_iff.mp h
      exact Ipv6.parse?_eq_some_iff.mp hip
  · intro h
    cases ip with
    | v4 ip => rw [Ipv4.parse?_eq_some_iff.mpr h]
    | v6 ip =>
      cases hv4 : Ipv4.parse? s with
      | none => simp [Ipv6.parse?_eq_some_iff.mpr h]
      | some ip' =>
        obtain rfl := Ipv4.parse?_eq_some_iff.mp hv4
        exact absurd h (Ipv6.not_written_display ip')

end IpAddress

end LogLab
