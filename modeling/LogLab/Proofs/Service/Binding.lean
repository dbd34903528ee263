import LogLab.Proofs.Service.Addresses
import LogLab.Service.Config

/-! # Where the service listens

The host and the port are joined by a colon and read as one text. So a host can be bound if it is
octets, or groups between brackets; groups alone are the text of an address but cannot be bound.
-/

namespace LogLab

namespace SocketAddress

open Scan Text

/-- Digits that write a number below a bound. -/
structure IsNumber (bound : Nat) (ds : List Char) : Prop where
  ne_nil : ds ≠ []
  isDigit : ∀ c ∈ ds, Numeral.isDigit c = true
  lt : Numeral.digitsValue ds < bound

/-- The scope of an address, if it is written. -/
inductive Zone : UInt32 → List Char → Prop where
  | none : Zone 0 []
  | number {ds : List Char} : IsNumber UInt32.size ds →
      Zone (UInt32.ofNat (Numeral.digitsValue ds)) ('%' :: ds)

/-- Groups between brackets, with a scope or without. -/
inductive Bracketed (ip : Ipv6) (scope : UInt32) : List Char → Prop where
  | intro {s zone : List Char} : ip.Written s → Zone scope zone →
      Bracketed ip scope ('[' :: (s ++ (zone ++ [']'])))

/-- A host that can be bound to a port, and the address that this gives. -/
inductive Binds (port : UInt16) (host : List Char) : SocketAddress → Prop where
  | v4 {ip : Ipv4} : host = ip.display.toList → Binds port host (.v4 ip port)
  | v6 {ip : Ipv6} {scope : UInt32} : Bracketed ip scope host → Binds port host (.v6 ip scope port)

variable {s t ds host rest : List Char} {n bound : Nat} {port port' : UInt16} {a : SocketAddress}
  {scope : UInt32}

theorem scanNumber_eq_some_iff : scanNumber bound s = some (n, t) ↔
    ∃ ds, IsNumber bound ds ∧ n = Numeral.digitsValue ds ∧ Stops Numeral.isDigit t ∧
      s = ds ++ t := by
  rw [scanNumber, bind_eq_some_iff]
  constructor
  · rintro ⟨ds, r, hds, h⟩
    obtain ⟨hne, hd, hr, rfl⟩ := takeWhile1_eq_some_iff.mp hds
    split at h
    · next hlt =>
      obtain ⟨rfl, rfl⟩ := pure_eq_some_iff.mp h
      exact ⟨ds, ⟨hne, hd, hlt⟩, rfl, hr, rfl⟩
    · cases h
  · rintro ⟨ds, hds, rfl, ht, rfl⟩
    refine ⟨ds, t, takeWhile1_append hds.ne_nil hds.isDigit ht, ?_⟩
    rw [if_pos hds.lt]
    rfl

/-- A number behind a sign. -/
theorem char_scanNumber_eq_some_iff {α : Type} {c : Char} {f : Nat → α} {b : α} :
    (char c >>= fun _ => scanNumber bound >>= fun n => pure (f n)) s = some (b, t) ↔
      ∃ ds, IsNumber bound ds ∧ b = f (Numeral.digitsValue ds) ∧ Stops Numeral.isDigit t ∧
        s = c :: (ds ++ t) := by
  simp only [bind_eq_some_iff, char_eq_some_iff, scanNumber_eq_some_iff, pure_eq_some_iff]
  constructor
  · rintro ⟨_, _, rfl, _, r, ⟨ds, hds, rfl, hr, rfl⟩, rfl, rfl⟩
    exact ⟨ds, hds, rfl, hr, rfl⟩
  · rintro ⟨ds, hds, rfl, ht, rfl⟩
    exact ⟨(), _, rfl, _, t, ⟨ds, hds, rfl, ht, rfl⟩, rfl, rfl⟩

theorem scanPort_eq_some_iff : scanPort s = some (port, t) ↔
    ∃ ds, IsNumber UInt16.size ds ∧ port = UInt16.ofNat (Numeral.digitsValue ds) ∧
      Stops Numeral.isDigit t ∧ s = ':' :: (ds ++ t) :=
  char_scanNumber_eq_some_iff

theorem scanScope_eq_some_iff : scanScope s = some (scope, t) ↔
    ∃ ds, IsNumber UInt32.size ds ∧ scope = UInt32.ofNat (Numeral.digitsValue ds) ∧
      Stops Numeral.isDigit t ∧ s = '%' :: (ds ++ t) :=
  char_scanNumber_eq_some_iff

section Port

theorem isNumber_toDigits (port : UInt16) : IsNumber UInt16.size (Nat.toDigits 10 port.toNat) where
  ne_nil := Nat.toDigits_ne_nil
  isDigit _ hc := Numeral.isDigit_of_mem_toDigits hc
  lt := by rw [Numeral.digitsValue_toDigits]; exact port.toNat_lt

theorem scanPort_toDigits (port : UInt16) :
    scanPort (':' :: Nat.toDigits 10 port.toNat) = some (port, []) :=
  scanPort_eq_some_iff.mpr ⟨_, isNumber_toDigits port,
    by rw [Numeral.digitsValue_toDigits, UInt16.ofNat_toNat], stops_nil, by rw [List.append_nil]⟩

/-- Digits stand behind the last colon. -/
theorem lastColon_unique {ds' host' : List Char} (hd : ∀ c ∈ ds, Numeral.isDigit c = true)
    (hd' : ∀ c ∈ ds', Numeral.isDigit c = true)
    (h : host ++ ':' :: ds = host' ++ ':' :: ds') : host = host' ∧ ds = ds' := by
  have hcolon (u : List Char) : Stops Numeral.isDigit (':' :: u) := stops_cons.mpr (by decide)
  have hr := congrArg List.reverse h
  simp only [List.reverse_append, List.reverse_cons, List.append_assoc, List.singleton_append]
    at hr
  obtain ⟨hds, hhost⟩ := run_unique (by simpa using hd) (hcolon _) (by simpa using hd')
    (hcolon _) hr
  exact ⟨List.reverse_inj.mp (List.cons.inj hhost).2, List.reverse_inj.mp hds⟩

/-- Where a port can be read up to the end, the host ends and its port follows. -/
theorem eq_of_scanPort (hs : host ++ ':' :: Nat.toDigits 10 port.toNat = s ++ rest)
    (h : scanPort rest = some (port', [])) : host = s ∧ port' = port := by
  obtain ⟨ds, hds, rfl, -, rfl⟩ := scanPort_eq_some_iff.mp h
  rw [List.append_nil] at hs
  obtain ⟨rfl, rfl⟩ :=
    lastColon_unique (fun _ => Numeral.isDigit_of_mem_toDigits) hds.isDigit hs
  exact ⟨rfl, by rw [Numeral.digitsValue_toDigits, UInt16.ofNat_toNat]⟩

end Port

section Scope

theorem exists_zone {scope? : Option UInt32} (h : maybe scanScope s = some (scope?, t)) :
    ∃ zone, Zone (scope?.getD 0) zone ∧ s = zone ++ t := by
  unfold maybe at h
  split at h
  · next scope r hscope =>
    obtain ⟨rfl, rfl⟩ := Prod.mk.inj (Option.some.inj h)
    obtain ⟨ds, hds, rfl, -, rfl⟩ := scanScope_eq_some_iff.mp hscope
    exact ⟨'%' :: ds, .number hds, rfl⟩
  · obtain ⟨rfl, rfl⟩ := Prod.mk.inj (Option.some.inj h)
    exact ⟨[], .none, rfl⟩

theorem Zone.exists_maybe {zone : List Char} (h : Zone scope zone) :
    ∃ scope?, scope?.getD 0 = scope ∧
      maybe scanScope (zone ++ ']' :: t) = some (scope?, ']' :: t) := by
  cases h with
  | none =>
    refine ⟨Option.none, rfl, maybe_eq_none ?_⟩
    refine Option.eq_none_iff_forall_ne_some.mpr fun ⟨scope, r⟩ hscope => ?_
    obtain ⟨ds, -, -, -, he⟩ := scanScope_eq_some_iff.mp hscope
    exact absurd (List.cons.inj he).1 (by decide)
  | number hds =>
    refine ⟨some _, rfl, maybe_eq ?_⟩
    exact scanScope_eq_some_iff.mpr ⟨_, hds, rfl, stops_cons.mpr (by decide), rfl⟩

theorem Zone.closes {zone : List Char} (h : Zone scope zone) :
    Ipv6.Closes (zone ++ ']' :: t) := by
  obtain ⟨c, r, he, hc⟩ : ∃ c r, zone ++ ']' :: t = c :: r ∧ (c = '%' ∨ c = ']') := by
    cases h with
    | none => exact ⟨_, _, rfl, .inr rfl⟩
    | number => exact ⟨_, _, rfl, .inl rfl⟩
  rw [he]
  rcases hc with rfl | rfl
  all_goals exact ⟨stops_cons.mpr (by decide), fun _ hr => absurd (List.cons.inj hr).1 (by decide)⟩

end Scope

theorem scanV4_eq_some_iff : scanV4 (host ++ ':' :: Nat.toDigits 10 port.toNat) = some (a, []) ↔
    ∃ ip : Ipv4, host = ip.display.toList ∧ a = .v4 ip port := by
  simp only [scanV4, bind_eq_some_iff, Ipv4.scan_eq_some_iff, pure_eq_some_iff]
  constructor
  · rintro ⟨ip, rest, ⟨hs, -⟩, port', _, hport, rfl, rfl⟩
    obtain ⟨rfl, rfl⟩ := eq_of_scanPort hs hport
    exact ⟨ip, rfl, rfl⟩
  · rintro ⟨ip, rfl, rfl⟩
    exact ⟨ip, _, ⟨rfl, stops_cons.mpr (by decide)⟩, port, [], scanPort_toDigits port, rfl, rfl⟩

theorem scanV6_eq_some_iff : scanV6 (host ++ ':' :: Nat.toDigits 10 port.toNat) = some (a, []) ↔
    ∃ ip scope, Bracketed ip scope host ∧ a = .v6 ip scope port := by
  simp only [scanV6, bind_eq_some_iff, char_eq_some_iff, pure_eq_some_iff]
  constructor
  · rintro ⟨_, s, hs, ip, r, hip, scope?, _, hscope, _, rest, rfl, port', _, hport, rfl, rfl⟩
    obtain ⟨u, hu, rfl⟩ := Ipv6.exists_written_of_scan hip
    obtain ⟨zone, hzone, rfl⟩ := exists_zone hscope
    have htext : host ++ ':' :: Nat.toDigits 10 port.toNat =
        '[' :: (u ++ (zone ++ [']'])) ++ rest := by simpa using hs
    obtain ⟨rfl, rfl⟩ := eq_of_scanPort htext hport
    exact ⟨ip, _, .intro hu hzone, rfl⟩
  · rintro ⟨ip, scope, ⟨hs, hzone⟩, rfl⟩
    obtain ⟨scope?, rfl, hscope⟩ := hzone.exists_maybe
    exact ⟨(), _, by simp, ip, _, hs.scan_append hzone.closes, scope?, _, hscope, (), _, rfl,
      port, [], scanPort_toDigits port, rfl, rfl⟩

theorem Bracketed.exists_eq_cons {ip : Ipv6} (h : Bracketed ip scope host) :
    ∃ t, host = '[' :: t := by
  cases h
  exact ⟨_, rfl⟩

/-- A host and a port with a colon between them are read as an address if and only if the host can
be bound to the port. -/
theorem parse?_eq_some_iff :
    parse? (host ++ ':' :: Nat.toDigits 10 port.toNat) = some a ↔ Binds port host a := by
  unfold parse?
  constructor
  · intro h
    split at h
    · next a' hv4 =>
      obtain rfl := Option.some.inj h
      obtain ⟨ip, hip, rfl⟩ := scanV4_eq_some_iff.mp (whole?_eq_some_iff.mp hv4)
      exact .v4 hip
    · obtain ⟨ip, scope, hip, rfl⟩ := scanV6_eq_some_iff.mp (whole?_eq_some_iff.mp h)
      exact .v6 hip
  · rintro (hip | hip)
    · rw [whole?_eq_some_iff.mpr (scanV4_eq_some_iff.mpr ⟨_, hip, rfl⟩)]
    · obtain ⟨t, rfl⟩ := hip.exists_eq_cons
      have hv4 : whole? scanV4 ('[' :: t ++ ':' :: Nat.toDigits 10 port.toNat) = none := rfl
      rw [hv4]
      exact whole?_eq_some_iff.mpr (scanV6_eq_some_iff.mpr ⟨_, _, hip, rfl⟩)

/-- Groups that write an address are no host that can be bound. -/
theorem not_binds_of_written {ip : Ipv6} (h : ip.Written host) : ¬Binds port host a := by
  rintro (hip | hip)
  · exact Ipv6.not_written_display _ (hip ▸ h)
  · obtain ⟨t, rfl⟩ := hip.exists_eq_cons
    exact Ipv6.not_written_bracket h

end SocketAddress

def Ipv6.loopback : Ipv6 := ⟨[0, 0, 0, 0, 0, 0, 0, 1], rfl⟩

def IpAddress.withPort (port : UInt16) : IpAddress → SocketAddress
  | v4 ip => .v4 ip port
  | v6 ip => .v6 ip 0 port

/-- What is bound is the address that is written, exactly for the hosts that are neither groups
alone nor groups between brackets. -/
theorem SocketAddress.binds_written_iff {port : UInt16} {host : List Char} :
    (∀ a, Binds port host a ↔ ∃ ip : IpAddress, ip.Written host ∧ a = ip.withPort port) ↔
      ∀ ip : Ipv6, ¬ip.Written host ∧ ∀ scope, ¬Bracketed ip scope host := by
  constructor
  · refine fun h ip => ⟨fun hip => ?_, fun scope hip => ?_⟩
    · exact not_binds_of_written hip ((h _).mpr ⟨.v6 ip, hip, rfl⟩)
    · obtain ⟨ip' | ip', hwritten, he⟩ := (h _).mp (.v6 hip)
      · cases he
      · exact not_binds_of_written hwritten (.v6 hip : Binds port host _)
  · refine fun h a => ⟨?_, ?_⟩
    · rintro (hip | hip)
      · exact ⟨.v4 _, hip, rfl⟩
      · exact absurd hip ((h _).2 _)
    · rintro ⟨ip | ip, hip, rfl⟩
      · exact .v4 hip
      · exact absurd hip (h ip).1

namespace Config

open SocketAddress

variable {c : Config} {a : SocketAddress}

theorem toList_hostAndPort :
    c.hostAndPort.toList = c.host.toList ++ ':' :: Nat.toDigits 10 c.port.toNat := by
  have hport : (toString c.port).toList = Nat.toDigits 10 c.port.toNat :=
    Numeral.toList_toString c.port.toNat
  have hcolon : (":" : String).toList = [':'] := rfl
  simp only [hostAndPort, String.toList_append, hport, hcolon, List.append_assoc,
    List.singleton_append]

theorem address_eq_ok_iff : c.address = .ok a ↔ Binds c.port c.host.toList a := by
  rw [← SocketAddress.parse?_eq_some_iff, ← toList_hostAndPort, address]
  cases SocketAddress.parse? c.hostAndPort.toList <;> simp

/-- A host that cannot be bound is an error that names it with its port. -/
theorem address_eq_error (h : ∀ a, ¬Binds c.port c.host.toList a) :
    c.address = .error (.invalidAddress c.host c.port) := by
  simp only [← SocketAddress.parse?_eq_some_iff, ← toList_hostAndPort] at h
  rw [address, Option.eq_none_iff_forall_ne_some.mpr h]

/-- The service can be bound to a host if and only if it is octets or, between brackets, groups with
a scope or without; every other host is an error that names it. So each address of the fourth
version is bound as it is written and no address of the sixth version is. Being the text of an
address is what decides, exactly for the hosts that are neither groups alone nor groups between
brackets. -/
theorem address_exact (c : Config) :
    (∀ a, c.address = .ok a ↔ Binds c.port c.host.toList a) ∧
      ((∀ a, ¬Binds c.port c.host.toList a) →
        c.address = .error (.invalidAddress c.host c.port)) ∧
      (∀ ip : Ipv4, (IpAddress.v4 ip).Written c.host.toList → c.address = .ok (.v4 ip c.port)) ∧
      (∀ ip : Ipv6, (IpAddress.v6 ip).Written c.host.toList →
        c.address = .error (.invalidAddress c.host c.port)) ∧
      ((∀ a, c.address = .ok a ↔
          ∃ ip : IpAddress, ip.Written c.host.toList ∧ a = ip.withPort c.port) ↔
        ∀ ip : Ipv6, ¬ip.Written c.host.toList ∧ ∀ scope, ¬Bracketed ip scope c.host.toList) := by
  refine ⟨fun a => address_eq_ok_iff, address_eq_error, fun ip h => ?_, fun ip h => ?_, ?_⟩
  · exact address_eq_ok_iff.mpr (.v4 h)
  · exact address_eq_error fun _ => not_binds_of_written h
  · simp only [address_eq_ok_iff, binds_written_iff]

/-- The configuration that names a host and nothing else. -/
def ofHost (host : String) : Config := withPort (some host) none 8080

theorem address_exact_of_loopback :
    (ofHost "127.0.0.1").address = .ok (.v4 ⟨127, 0, 0, 1⟩ 8080) ∧
      (ofHost "::1").address = .error (.invalidAddress "::1" 8080) ∧
      (ofHost "localhost").address = .error (.invalidAddress "localhost" 8080) := by
  refine ⟨?_, ?_, ?_⟩
  · exact (address_exact (ofHost "127.0.0.1")).2.2.1 ⟨127, 0, 0, 1⟩
      (IpAddress.parse?_eq_some_iff.mp (by decide +kernel))
  · exact (address_exact (ofHost "::1")).2.2.2.1 Ipv6.loopback
      (IpAddress.parse?_eq_some_iff.mp (by decide +kernel))
  · have hnone : SocketAddress.parse? "localhost:8080".toList = none := by decide +kernel
    refine (address_exact (ofHost "localhost")).2.1 fun a h => ?_
    cases hnone.symm.trans (SocketAddress.parse?_eq_some_iff.mpr h)

/-- Groups alone are the text of an address and cannot be bound; groups between brackets are the
text of none and can be. -/
theorem address_of_brackets :
    IpAddress.parse? "::1".toList = some (.v6 .loopback) ∧
      (ofHost "::1").address = .error (.invalidAddress "::1" 8080) ∧
      IpAddress.parse? "[::1]".toList = none ∧
      (ofHost "[::1]").address = .ok (.v6 .loopback 0 8080) ∧
      ¬∀ (c : Config) (a : SocketAddress), c.address = .ok a ↔
        ∃ ip : IpAddress, ip.Written c.host.toList ∧ a = ip.withPort c.port := by
  have hparse : IpAddress.parse? "::1".toList = some (.v6 .loopback) := by decide +kernel
  have haddress : (ofHost "::1").address = .error (.invalidAddress "::1" 8080) := by
    decide +kernel
  refine ⟨hparse, haddress, by decide +kernel, by decide +kernel, fun h => ?_⟩
  have hok := (h (ofHost "::1") _).mpr
    ⟨.v6 .loopback, IpAddress.parse?_eq_some_iff.mp hparse, rfl⟩
  cases haddress.symm.trans hok

end Config

end LogLab
