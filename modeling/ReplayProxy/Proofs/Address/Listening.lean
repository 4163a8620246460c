import ReplayProxy.Options
import ReplayProxy.Proofs.Address.Reading

/-!
# Where the program listens

One host is given for the proxy and for the administration, each of which has a port of its own.
Host and port are written side by side with a colon between, and what comes out is read as a
socket address. The colons of an IPv6 address are in the way of that: it must be given in brackets.

`SocketAddress.Binds` lists all hosts that make a socket address, with the place that each one is.
No other text does (`SocketAddress.ofHostPort?_eq_some_iff`), and which ones do has nothing to do
with the port. So the two listeners agree on every host, though each has an error of its own for
those that it refuses.

Main statements:

* `Options.listens`: where the two listen, for every host that writes an address and for all others.
* `Options.unbracketed_refused`: the address `::1` is refused.
-/

namespace ReplayProxy

namespace Address

variable {k : Char} {cs rest : List Char}

/-! ### Ports -/

theorem port?_toDigits (port : UInt16) :
    port? (':' :: Nat.toDigits 10 port.toNat) = some (port, []) := by
  have hsmall : port.toNat ≤ 65535 := Nat.le_of_lt_succ port.toNat_lt
  have hnumber := number?_toDigits hsmall
  rw [port?, char?_eq_some_iff.2 rfl, Option.bind_eq_bind, Option.bind_some, hnumber]
  show some (UInt16.ofNat port.toNat, []) = _
  rw [UInt16.ofNat_toNat]

/-- A port is taken with the colon in front of it, and has no other. -/
theorem exists_of_port? {port : UInt16} (h : port? cs = some (port, rest)) :
    ∃ digits, cs = ':' :: digits ++ rest ∧ ':' ∉ digits := by
  obtain ⟨left, hmark, hread⟩ := Option.bind_eq_some_iff.1 h
  obtain ⟨⟨n, left'⟩, hnumber, hpair⟩ := Option.bind_eq_some_iff.1 hread
  obtain rfl := char?_eq_some_iff.1 hmark
  obtain ⟨-, rfl⟩ := Prod.mk.inj (Option.some.inj hpair)
  obtain ⟨digits, rfl, hdigits⟩ := takes_number 10 none true 65535 hnumber
  refine ⟨digits, rfl, fun hcolon => ?_⟩
  have hdigit : Ascii.isDigit ':' = true := hdigits ':' hcolon
  exact absurd hdigit (by decide)

/-- What stands behind the last mark is known by that. -/
theorem eq_of_append_mark {before before' after after' : List Char} (hafter : k ∉ after)
    (hafter' : k ∉ after') (h : before ++ k :: after = before' ++ k :: after') :
    before = before' ∧ after = after' := by
  -- if one mark stood behind the other, it would be in what follows that
  have hbetween {between rest rest' : List Char} (hmark : k ∉ rest)
      (hrest : k :: rest = between ++ k :: rest') : between = [] ∧ rest = rest' := by
    cases between with
    | nil => exact ⟨rfl, (List.cons.inj hrest).2⟩
    | cons c between =>
      obtain ⟨-, rfl⟩ := List.cons.inj hrest
      exact absurd (List.mem_append_right between List.mem_cons_self) hmark
  rcases List.append_eq_append_iff.1 h with ⟨between, rfl, hrest⟩ | ⟨between, rfl, hrest⟩
  · obtain ⟨rfl, rfl⟩ := hbetween hafter hrest
    exact ⟨(List.append_nil before).symm, rfl⟩
  · obtain ⟨rfl, rfl⟩ := hbetween hafter' hrest
    exact ⟨List.append_nil before', rfl⟩

/-! ### Interfaces -/

theorem stops_scope (hk : Ascii.isDigit k = false) (hmark : k ≠ '%') : Stops k scope? := by
  refine Stops.mark (Stops.bind (stops_decimal hk none true 4294967295) fun n => ?_)
    hmark
  exact Stops.pure (UInt32.ofNat n)

theorem exists_of_scope? {scope : UInt32} (h : scope? cs = some (scope, rest)) :
    ∃ digits, cs = '%' :: digits ++ rest ∧ ∀ c ∈ digits, Ascii.isDigit c = true := by
  obtain ⟨left, hmark, hread⟩ := Option.bind_eq_some_iff.1 h
  obtain ⟨⟨n, left'⟩, hnumber, hpair⟩ := Option.bind_eq_some_iff.1 hread
  obtain rfl := char?_eq_some_iff.1 hmark
  obtain ⟨-, rfl⟩ := Prod.mk.inj (Option.some.inj hpair)
  obtain ⟨digits, rfl, hdigits⟩ := takes_number 10 none true 4294967295 hnumber
  exact ⟨digits, rfl, hdigits⟩

end Address

namespace SocketAddress

open Address

variable {host : String} {port : UInt16} {s : SocketAddress}

/-! ### Hosts -/

/-- What may stand behind an IPv6 address: nothing, or the interface that it belongs to. -/
def IsZone (zone : List Char) (scope : UInt32) : Prop :=
  zone = [] ∧ scope = 0 ∨ scope? zone = some (scope, [])

/-- A host that can be listened at, and its place at each port. -/
inductive Binds : String → (UInt16 → SocketAddress) → Prop
  | v4 {host : String} {a : Ipv4} (h : IpAddress.parse? host = some (.v4 a)) : Binds host (.v4 a)
  | v6 {inner zone : String} {a : Ipv6} {scope : UInt32}
    (h : IpAddress.parse? inner = some (.v6 a)) (hzone : IsZone zone.toList scope) :
    Binds ("[" ++ inner ++ zone ++ "]") (.v6 a scope)

theorem toList_hostPort (host : String) (port : UInt16) :
    (host ++ ":" ++ toString port.toNat).toList =
      host.toList ++ ':' :: Nat.toDigits 10 port.toNat := by
  simp [Nat.repr]

/-- Reading an IPv4 address and a port. -/
def v4? (cs : List Char) : Option (SocketAddress × List Char) := do
  let (a, cs) ← ipv4? cs
  let (p, cs) ← port? cs
  some (SocketAddress.v4 a p, cs)

/-- Reading an IPv6 address and a port. -/
def v6? (cs : List Char) : Option (SocketAddress × List Char) := do
  let (a, cs) ← ipv6? (← char? '[' cs)
  let (scope, cs) := (scope? cs).getD (0, cs)
  let (p, cs) ← port? (← char? ']' cs)
  some (SocketAddress.v6 a scope p, cs)

theorem parse?_eq (s : String) :
    parse? s = match whole (v4? s.toList) with
      | some x => some x
      | none => whole (v6? s.toList) := rfl

/-- What is read with an IPv4 address is that address and a port. -/
theorem exists_of_v4? {cs : List Char} (h : v4? cs = some (s, [])) :
    ∃ taken digits a port, cs = taken ++ ':' :: digits ∧ ':' ∉ digits ∧
      ipv4? taken = some (a, []) ∧ port? (':' :: digits) = some (port, []) ∧ s = .v4 a port := by
  obtain ⟨⟨a, left⟩, haddress, hread⟩ := Option.bind_eq_some_iff.1 h
  obtain ⟨⟨port, left'⟩, hport, hpair⟩ := Option.bind_eq_some_iff.1 hread
  obtain ⟨rfl, rfl⟩ := Prod.mk.inj (Option.some.inj hpair)
  obtain ⟨digits, rfl, hdigits⟩ := exists_of_port? hport
  obtain ⟨taken, rfl, -⟩ := takes_ipv4 haddress
  rw [List.append_nil] at haddress hport ⊢
  have hstops : Stops ':' ipv4? := stops_ipv4 (by decide)
  exact ⟨taken, digits, a, port, rfl, hdigits, hstops.eq_some_iff.1 haddress, hport, rfl⟩

/-- What is read with an IPv6 address is that address, perhaps an interface, and a port. -/
theorem exists_of_v6? {cs : List Char} (h : v6? cs = some (s, [])) :
    ∃ inner zone digits a scope port, cs = '[' :: inner ++ zone ++ ']' :: ':' :: digits ∧
      ':' ∉ digits ∧ ipv6? inner = some (a, []) ∧ IsZone zone scope ∧
      port? (':' :: digits) = some (port, []) ∧ s = .v6 a scope port := by
  obtain ⟨afterOpen, hopen, hread⟩ := Option.bind_eq_some_iff.1 h
  obtain ⟨⟨a, left⟩, haddress, hread'⟩ := Option.bind_eq_some_iff.1 hread
  obtain ⟨afterClose, hclose, hread''⟩ := Option.bind_eq_some_iff.1 hread'
  obtain ⟨⟨port, left'⟩, hport, hpair⟩ := Option.bind_eq_some_iff.1 hread''
  obtain ⟨rfl, rfl⟩ := Prod.mk.inj (Option.some.inj hpair)
  obtain ⟨digits, rfl, hdigits⟩ := exists_of_port? hport
  obtain rfl := char?_eq_some_iff.1 hopen
  obtain ⟨inner, rfl, -⟩ := exists_of_ipv6? haddress
  rw [List.append_nil] at hport hclose
  cases hscope : scope? left with
  | none =>
    -- the bracket stands right behind the address
    rw [hscope] at hclose
    obtain rfl : left = _ := char?_eq_some_iff.1 hclose
    have hstops : Stops ']' ipv6? := stops_ipv6 (by decide)
    exact ⟨inner, [], digits, a, 0, port, by simp, hdigits, hstops.eq_some_iff.1 haddress,
      .inl ⟨rfl, rfl⟩, hport, rfl⟩
  | some r =>
    obtain ⟨scope, behind⟩ := r
    rw [hscope] at hclose
    obtain rfl : behind = _ := char?_eq_some_iff.1 hclose
    obtain ⟨zone, rfl, -⟩ := exists_of_scope? hscope
    -- the percent sign ends the address, and the bracket ends the zone
    have hstops : Stops '%' ipv6? := stops_ipv6 (by decide)
    have hzone : Stops ']' scope? := stops_scope (by decide) (by decide)
    exact ⟨inner, '%' :: zone, digits, a, scope, port, by simp, hdigits,
      hstops.eq_some_iff.1 haddress, .inr (hzone.eq_some_iff.1 hscope), hport, rfl⟩

/-- A bracket begins no IPv4 address. -/
theorem v4?_bracket (cs : List Char) : v4? ('[' :: cs) = none := by
  simp [v4?, ipv4?, octet?, number?, isDigit, Ascii.isDigit]

theorem v4?_hostPort {cs : List Char} {a : Ipv4} (h : ipv4? cs = some (a, [])) (port : UInt16) :
    v4? (cs ++ ':' :: Nat.toDigits 10 port.toNat) = some (.v4 a port, []) := by
  have hstops : Stops ':' ipv4? := stops_ipv4 (by decide)
  rw [v4?, hstops.eq_some_iff.2 h, Option.bind_eq_bind, Option.bind_some]
  dsimp only
  rw [port?_toDigits]
  rfl

theorem v6?_hostPort {inner zone : List Char} {a : Ipv6} {scope : UInt32}
    (h : ipv6? inner = some (a, [])) (hzone : IsZone zone scope) (port : UInt16) :
    v6? ('[' :: inner ++ zone ++ ']' :: ':' :: Nat.toDigits 10 port.toNat) =
      some (.v6 a scope port, []) := by
  -- what stands behind the address ends it, and the bracket ends that
  have hread : ipv6? (inner ++ zone ++ ']' :: ':' :: Nat.toDigits 10 port.toNat) =
        some (a, zone ++ ']' :: ':' :: Nat.toDigits 10 port.toNat) ∧
      (scope? (zone ++ ']' :: ':' :: Nat.toDigits 10 port.toNat)).getD
        (0, zone ++ ']' :: ':' :: Nat.toDigits 10 port.toNat) =
          (scope, ']' :: ':' :: Nat.toDigits 10 port.toNat) := by
    have hclose : Stops ']' ipv6? := stops_ipv6 (by decide)
    rcases hzone with ⟨rfl, rfl⟩ | hscope
    · rw [List.append_nil]
      exact ⟨hclose.eq_some_iff.2 h, rfl⟩
    · have hmark : Stops '%' ipv6? := stops_ipv6 (by decide)
      have hbracket : Stops ']' scope? := stops_scope (by decide) (by decide)
      obtain ⟨digits, rfl, -⟩ := exists_of_scope? hscope
      rw [List.append_nil] at hscope ⊢
      refine ⟨?_, ?_⟩
      · rw [List.append_assoc, List.cons_append]
        exact hmark.eq_some_iff.2 h
      · rw [hbracket.eq_some_iff.2 hscope, Option.getD_some]
  rw [v6?, List.cons_append, List.cons_append, char?_eq_some_iff.2 rfl, Option.bind_eq_bind,
    Option.bind_some, hread.1, Option.bind_eq_bind, Option.bind_some]
  dsimp only
  rw [hread.2]
  dsimp only
  rw [char?_eq_some_iff.2 rfl, Option.bind_eq_bind, Option.bind_some, port?_toDigits]
  rfl

/-- The colon in front of the port is the last one, whatever the host holds. -/
theorem eq_of_hostPort {cs before digits : List Char} {port' : UInt16} (hdigits : ':' ∉ digits)
    (h : cs ++ ':' :: Nat.toDigits 10 port.toNat = before ++ ':' :: digits)
    (hport : port? (':' :: digits) = some (port', [])) : cs = before ∧ port = port' := by
  have hwritten : ':' ∉ Nat.toDigits 10 port.toNat := by
    intro hcolon
    exact absurd (Ascii.isDigit_of_mem_toDigits hcolon) (by decide)
  obtain ⟨rfl, rfl⟩ := eq_of_append_mark hwritten hdigits h
  rw [port?_toDigits] at hport
  exact ⟨rfl, (Prod.mk.inj (Option.some.inj hport)).1⟩

theorem binds_of_v4? (h : v4? (host.toList ++ ':' :: Nat.toDigits 10 port.toNat) = some (s, [])) :
    ∃ place, Binds host place ∧ s = place port := by
  obtain ⟨taken, digits, a, port', htext, hdigits, haddress, hport, rfl⟩ := exists_of_v4? h
  obtain ⟨rfl, rfl⟩ := eq_of_hostPort hdigits htext hport
  exact ⟨.v4 a, .v4 (IpAddress.parse?_eq_v4_iff.2 haddress), rfl⟩

theorem binds_of_v6? (h : v6? (host.toList ++ ':' :: Nat.toDigits 10 port.toNat) = some (s, [])) :
    ∃ place, Binds host place ∧ s = place port := by
  obtain ⟨inner, zone, digits, a, scope, port', htext, hdigits, haddress, hzone, hport, rfl⟩ :=
    exists_of_v6? h
  have htext' : host.toList ++ ':' :: Nat.toDigits 10 port.toNat =
      ('[' :: inner ++ zone ++ [']']) ++ ':' :: digits := by
    rw [htext]
    simp
  -- the last colon stands in front of the port, so the host is all that stands before it
  obtain ⟨hhost, rfl⟩ := eq_of_hostPort hdigits htext' hport
  have hwritten : host = "[" ++ String.ofList inner ++ String.ofList zone ++ "]" := by
    rw [← String.toList_inj, hhost]
    simp
  rw [hwritten]
  refine ⟨.v6 a scope, .v6 (IpAddress.parse?_eq_v6_iff.2 ?_) ?_, rfl⟩
  · rw [String.toList_ofList]
    exact haddress
  · rw [String.toList_ofList]
    exact hzone

theorem ofHostPort?_of_binds {place : UInt16 → SocketAddress} (h : Binds host place)
    (port : UInt16) : ofHostPort? host port = some (place port) := by
  rw [ofHostPort?, parse?_eq, toList_hostPort]
  cases h with
  | v4 h => rw [whole_eq_some_iff.2 (v4?_hostPort (IpAddress.parse?_eq_v4_iff.1 h) port)]
  | @v6 inner zone a scope h hzone =>
    have htext : ("[" ++ inner ++ zone ++ "]").toList ++ ':' :: Nat.toDigits 10 port.toNat =
        '[' :: inner.toList ++ zone.toList ++ ']' :: ':' :: Nat.toDigits 10 port.toNat := by
      simp
    have hv6 := v6?_hostPort (IpAddress.parse?_eq_v6_iff.1 h) hzone port
    rw [htext, whole_eq_some_iff.2 hv6, List.cons_append, List.cons_append, v4?_bracket]
    rfl

/-- **The hosts.** A host and a port make a socket address if and only if the host can be listened
at, and then they make its place at the port. -/
theorem ofHostPort?_eq_some_iff :
    ofHostPort? host port = some s ↔ ∃ place, Binds host place ∧ s = place port := by
  constructor
  · intro h
    rw [ofHostPort?, parse?_eq, toList_hostPort] at h
    -- an IPv4 address is tried first, and an IPv6 address if there is none
    cases hv4 : whole (v4? (host.toList ++ ':' :: Nat.toDigits 10 port.toNat)) with
    | some x =>
      rw [hv4] at h
      obtain rfl := Option.some.inj h
      exact binds_of_v4? (whole_eq_some_iff.1 hv4)
    | none =>
      rw [hv4] at h
      exact binds_of_v6? (whole_eq_some_iff.1 h)
  · rintro ⟨place, hbinds, rfl⟩
    exact ofHostPort?_of_binds hbinds port

/-- An IPv6 address cannot be listened at without brackets. -/
theorem not_binds_of_v6 {a : Ipv6} (h : IpAddress.parse? host = some (.v6 a))
    (place : UInt16 → SocketAddress) : ¬Binds host place := by
  intro hbinds
  cases hbinds with
  | v4 h' =>
    rw [h] at h'
    cases h'
  | v6 h' hzone =>
    -- such an address has no bracket
    have hpart := (IpAddress.text_of_v6 h).1 '[' (by simp)
    exact absurd hpart (by decide)

end SocketAddress

namespace Options

open SocketAddress

variable {o : Options}

/-! ### Listeners -/

/-- A host at which nothing can be listened makes no address with any port. -/
theorem ofHostPort?_of_not_binds {host : String} (h : ∀ place, ¬Binds host place)
    (port : UInt16) : ofHostPort? host port = none := by
  refine Option.eq_none_iff_forall_ne_some.2 fun s hs => ?_
  obtain ⟨place, hbinds, -⟩ := ofHostPort?_eq_some_iff.1 hs
  exact h place hbinds

/-- Where the proxy and the administration of an engine listen. -/
structure Listens (o : Options) (e : Engine) : Prop where
  /-- An IPv4 address is listened at. -/
  v4 : ∀ a, IpAddress.parse? o.host = some (.v4 a) →
    o.proxyAddress = .ok (.v4 a o.proxyPort) ∧
      Admin.Server.create o.adminSettings e = .ok ⟨e, .v4 a o.adminPort⟩
  /-- An IPv6 address is refused by both, each with its own words, -/
  v6 : ∀ a, IpAddress.parse? o.host = some (.v6 a) →
    o.proxyAddress = .error (.address (o.host ++ ":" ++ toString o.proxyPort.toNat)) ∧
      Admin.Server.create o.adminSettings e =
        .error (.runtime "invalid address: invalid socket address syntax")
  /-- and listened at if it is given in brackets. -/
  bracketed : ∀ inner a, IpAddress.parse? inner = some (.v6 a) → o.host = "[" ++ inner ++ "]" →
    o.proxyAddress = .ok (.v6 a 0 o.proxyPort) ∧
      Admin.Server.create o.adminSettings e = .ok ⟨e, .v6 a 0 o.adminPort⟩
  /-- Whatever the host is, it is one place to both, or it is refused by both. -/
  agreed : (∃ place, Binds o.host place ∧ o.proxyAddress = .ok (place o.proxyPort) ∧
      Admin.Server.create o.adminSettings e = .ok ⟨e, place o.adminPort⟩) ∨
    (∀ place, ¬Binds o.host place) ∧
      o.proxyAddress = .error (.address (o.host ++ ":" ++ toString o.proxyPort.toNat)) ∧
      Admin.Server.create o.adminSettings e =
        .error (.runtime "invalid address: invalid socket address syntax")

/-- A host that can be listened at has one place for both, each at its port. -/
theorem addresses_of_binds {place : UInt16 → SocketAddress} (h : Binds o.host place) :
    o.proxyAddress = .ok (place o.proxyPort) ∧
      o.adminSettings.address = .ok (place o.adminPort) := by
  have hproxy : ofHostPort? o.host o.proxyPort = some (place o.proxyPort) :=
    ofHostPort?_of_binds h o.proxyPort
  have hadmin : ofHostPort? o.adminSettings.host o.adminSettings.port = some (place o.adminPort) :=
    ofHostPort?_of_binds h o.adminPort
  constructor
  · rw [proxyAddress, address, hproxy]
  · rw [Admin.ServerSettings.address, hadmin]

/-- Any other one has no place for either, and each has its own error. -/
theorem addresses_of_not_binds (h : ∀ place, ¬Binds o.host place) :
    o.proxyAddress = .error (.address (o.host ++ ":" ++ toString o.proxyPort.toNat)) ∧
      o.adminSettings.address =
        .error (.runtime "invalid address: invalid socket address syntax") := by
  have hproxy : ofHostPort? o.host o.proxyPort = none := ofHostPort?_of_not_binds h o.proxyPort
  have hadmin : ofHostPort? o.adminSettings.host o.adminSettings.port = none :=
    ofHostPort?_of_not_binds h o.adminPort
  constructor
  · rw [proxyAddress, address, hproxy]
  · rw [Admin.ServerSettings.address, hadmin]
    rfl

/-- Both listen at a host that can be listened at. -/
theorem listen_of_binds {place : UInt16 → SocketAddress} (h : Binds o.host place) (e : Engine) :
    o.proxyAddress = .ok (place o.proxyPort) ∧
      Admin.Server.create o.adminSettings e = .ok ⟨e, place o.adminPort⟩ := by
  obtain ⟨hproxy, hadmin⟩ := addresses_of_binds h
  refine ⟨hproxy, ?_⟩
  rw [Admin.Server.create, hadmin]
  rfl

/-- Neither listens at any other. -/
theorem refused_of_not_binds (h : ∀ place, ¬Binds o.host place) (e : Engine) :
    o.proxyAddress = .error (.address (o.host ++ ":" ++ toString o.proxyPort.toNat)) ∧
      Admin.Server.create o.adminSettings e =
        .error (.runtime "invalid address: invalid socket address syntax") := by
  obtain ⟨hproxy, hadmin⟩ := addresses_of_not_binds h
  refine ⟨hproxy, ?_⟩
  rw [Admin.Server.create, hadmin]
  rfl

/-- **The listeners.** They agree on every host. An IPv4 address is listened at as it is, and an
IPv6 address only in brackets. -/
theorem listens (o : Options) (e : Engine) : Listens o e := by
  refine
    { v4 := fun a h => listen_of_binds (.v4 h) e
      v6 := fun a h => refused_of_not_binds (not_binds_of_v6 h) e
      bracketed := fun inner a h hhost => listen_of_binds ?_ e
      agreed := ?_ }
  · -- no interface stands behind the address
    have hbinds : Binds ("[" ++ inner ++ "" ++ "]") (.v6 a 0) := .v6 h (.inl ⟨rfl, rfl⟩)
    rw [String.append_empty] at hbinds
    rw [hhost]
    exact hbinds
  · by_cases h : ∃ place, Binds o.host place
    · obtain ⟨place, hplace⟩ := h
      exact .inl ⟨place, hplace, listen_of_binds hplace e⟩
    · have hnone : ∀ place, ¬Binds o.host place := fun place hplace => h ⟨place, hplace⟩
      exact .inr ⟨hnone, refused_of_not_binds hnone e⟩

/-- The loopback address of IPv6 is refused as a host. -/
theorem unbracketed_refused :
    let o : Options := { host := "::1" }
    IpAddress.parse? o.host = some (.v6 ⟨#v[0, 0, 0, 0, 0, 0, 0, 1]⟩) ∧
      o.proxyAddress = .error (.address "::1:8500") ∧
      o.adminSettings.address =
        .error (.runtime "invalid address: invalid socket address syntax") := by
  intro o
  have hparse : IpAddress.parse? o.host = some (.v6 ⟨#v[0, 0, 0, 0, 0, 0, 0, 1]⟩) := by
    decide +kernel
  have htext : o.host ++ ":" ++ toString o.proxyPort.toNat = "::1:8500" := by decide +kernel
  obtain ⟨hproxy, hadmin⟩ := addresses_of_not_binds (o := o) (not_binds_of_v6 hparse)
  rw [htext] at hproxy
  exact ⟨hparse, hproxy, hadmin⟩

end Options

end ReplayProxy
