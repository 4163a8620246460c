import ReplayProxy.Proofs.Address.Reading
import ReplayProxy.Proofs.Certificate.Times
import ReplayProxy.Proofs.Text.Blanks

/-!
# The host that a leaf names

Clients name a host with a port or without one, and an IPv6 address in brackets or without them. The
port and the brackets are no part of the host, but they are told from it by colons alone, which an
IPv6 address has as well. `Root.Spells` lists the ways to give a host, and `Root.hostOf_of_spells`
says that they all come to the host.

What is issued for a host depends on nothing else, so it is the same leaf in all these ways
(`Root.issue_congr`), and it fails in the same way.

Main statement: `Root.identity_ignores_port`.
-/

namespace ReplayProxy

/-- A decimal digit is no blank. -/
theorem Ascii.isBlank_of_isDigit {c : Char} (h : isDigit c = true) : isBlank c = false := by
  have hc := isDigit_iff.1 h
  simp only [isBlank, Bool.or_eq_false_iff, Bool.and_eq_false_iff, decide_eq_false_iff_not,
    beq_eq_false_iff_ne]
  omega

namespace Root

variable {host given port : String} {cs ds : List Char}

/-! ### Hosts and ports -/

/-- Without a bracket in front, what counts is behind the last colon. -/
theorem hostOf_of_head?_ne (hbracket : given.toList.head? ≠ some '[') :
    hostOf given =
      let port := (given.toList.reverse.takeWhile (· != ':')).reverse
      let host := given.toList.take (given.toList.length - port.length - 1)
      if given.toList.contains ':' && !host.contains ':' && port.all Ascii.isDigit then
        String.ofList host
      else given := by
  unfold hostOf
  split
  · next rest hrest =>
    rw [hrest] at hbracket
    exact absurd rfl hbracket
  · rfl

/-- There is no port behind it if there are more colons, or something else than digits. -/
theorem hostOf_of_colon (hgiven : given.toList = cs ++ ':' :: ds)
    (hbracket : given.toList.head? ≠ some '[') (hds : ':' ∉ ds) :
    hostOf given =
      if ':' ∉ cs ∧ ds.all Ascii.isDigit = true then String.ofList cs else given := by
  -- seen from behind, the digits end at the last colon
  have hlast : ((cs ++ ':' :: ds).reverse.takeWhile (· != ':')).reverse = ds := by
    have hstop : ∀ c ∈ ds.reverse, (c != ':') = true := by
      intro c hc
      rw [bne_iff_ne]
      rintro rfl
      exact hds (List.mem_reverse.1 hc)
    rw [List.reverse_append, List.reverse_cons, List.append_assoc,
      List.takeWhile_append_of_pos hstop]
    simp
  have htake : (cs ++ ':' :: ds).take ((cs ++ ':' :: ds).length - ds.length - 1) = cs := by
    rw [List.length_append, List.length_cons,
      show cs.length + (ds.length + 1) - ds.length - 1 = cs.length by omega, List.take_left]
  rw [hostOf_of_head?_ne hbracket, hgiven]
  dsimp only
  rw [hlast, htake]
  -- the port is dropped if the colon is the only one and digits follow it
  by_cases hhost : ':' ∉ cs ∧ ds.all Ascii.isDigit = true
  · rw [if_pos hhost, if_pos]
    simpa using hhost
  · rw [if_neg hhost, if_neg]
    simpa using hhost

/-- A host without a colon has no port. -/
theorem hostOf_of_not_mem (hbracket : given.toList.head? ≠ some '[')
    (hcolon : ':' ∉ given.toList) : hostOf given = given := by
  have hnone : given.toList.contains ':' = false := by simpa using hcolon
  rw [hostOf_of_head?_ne hbracket]
  dsimp only
  rw [hnone]
  rfl

/-- A host in brackets ends with the first one that closes, whatever is behind it. -/
theorem hostOf_of_bracket (hgiven : given.toList = '[' :: cs ++ ']' :: ds) (hcs : ']' ∉ cs) :
    hostOf given = String.ofList cs := by
  have htake : (cs ++ ']' :: ds).takeWhile (· != ']') = cs := by
    have hinside : ∀ c ∈ cs, (c != ']') = true := by
      intro c hc
      rw [bne_iff_ne]
      rintro rfl
      exact hcs hc
    rw [List.takeWhile_append_of_pos hinside]
    simp
  unfold hostOf
  rw [hgiven, List.cons_append]
  exact congrArg String.ofList htake

/-- The last of two colons has no port behind it. -/
theorem hostOf_of_two_le_count (hbracket : given.toList.head? ≠ some '[')
    (hcolons : 2 ≤ given.toList.count ':') : hostOf given = given := by
  -- seen from behind, the last colon is the first
  have hmem : ':' ∈ given.toList.reverse := by
    rw [List.mem_reverse, ← List.one_le_count_iff]
    omega
  obtain ⟨behind, front, hreverse, hbehind⟩ := List.eq_append_cons_of_mem hmem
  have hgiven : given.toList = front.reverse ++ ':' :: behind.reverse := by
    rw [← List.reverse_reverse given.toList, hreverse]
    simp
  have hds : ':' ∉ behind.reverse := mt List.mem_reverse.1 hbehind
  -- what is in front of it holds the other one, so it is no host
  have hcs : ':' ∈ front.reverse := by
    rw [hgiven, List.count_append, List.count_cons_self, List.count_eq_zero.2 hds] at hcolons
    rw [← List.one_le_count_iff]
    omega
  rw [hostOf_of_colon hgiven hbracket hds, if_neg (fun h => h.1 hcs)]

/-- The ways to give a host: an IPv6 address as it is, in brackets, or in brackets and with a port,
and another host as it is or with a port. -/
inductive Spells (host : String) : String → Prop
  | address {a : Ipv6} (h : IpAddress.parse? host = some (.v6 a)) : Spells host host
  | bracketed {a : Ipv6} (h : IpAddress.parse? host = some (.v6 a)) :
    Spells host ("[" ++ host ++ "]")
  | bracketedPort {a : Ipv6} (h : IpAddress.parse? host = some (.v6 a)) {port : String}
    (hport : ∀ c ∈ port.toList, Ascii.isDigit c = true) :
    Spells host ("[" ++ host ++ "]:" ++ port)
  | name (hne : host ≠ "") (hcolon : ':' ∉ host.toList) (hbracket : host.toList.head? ≠ some '[') :
    Spells host host
  | namePort (hne : host ≠ "") (hcolon : ':' ∉ host.toList)
    (hbracket : host.toList.head? ≠ some '[') {port : String}
    (hport : ∀ c ∈ port.toList, Ascii.isDigit c = true) : Spells host (host ++ ":" ++ port)

theorem toList_namePort (host port : String) :
    (host ++ ":" ++ port).toList = host.toList ++ ':' :: port.toList := by
  simp

theorem toList_bracketedPort (host port : String) :
    ("[" ++ host ++ "]:" ++ port).toList = '[' :: host.toList ++ ']' :: ':' :: port.toList := by
  simp

/-- What is no part of an address is not in one. -/
theorem not_mem_of_v6 {a : Ipv6} (h : IpAddress.parse? host = some (.v6 a)) {c : Char}
    (hc : Address.isPart c = false) : c ∉ host.toList := by
  intro hmem
  rw [(IpAddress.text_of_v6 h).1 c hmem] at hc
  cases hc

/-- However a host is given, it is the host. -/
theorem hostOf_of_spells (h : Spells host given) : hostOf given = host := by
  have hdigits : ∀ {port : String}, (∀ c ∈ port.toList, Ascii.isDigit c = true) →
      ':' ∉ port.toList := by
    intro port hport hcolon
    exact absurd (hport ':' hcolon) (by decide)
  cases h with
  | address h =>
    -- its colons are not taken for that of a port, since there are two
    refine hostOf_of_two_le_count ?_ (IpAddress.text_of_v6 h).2
    intro hhead
    exact not_mem_of_v6 h (by decide) (List.mem_of_mem_head? hhead)
  | bracketed h =>
    have htext : ("[" ++ host ++ "]").toList = '[' :: host.toList ++ ']' :: [] := by simp
    rw [hostOf_of_bracket htext (not_mem_of_v6 h (by decide)), String.ofList_toList]
  | @bracketedPort a h port hport =>
    rw [hostOf_of_bracket (toList_bracketedPort host port) (not_mem_of_v6 h (by decide)),
      String.ofList_toList]
  | name hne hcolon hbracket => exact hostOf_of_not_mem hbracket hcolon
  | @namePort hne hcolon hbracket port hport =>
    have hhead : (host ++ ":" ++ port).toList.head? = host.toList.head? := by
      rw [toList_namePort, List.head?_append_of_ne_nil _ (mt String.toList_eq_nil_iff.1 hne)]
    rw [hostOf_of_colon (toList_namePort host port) (hhead ▸ hbracket) (hdigits hport),
      if_pos ⟨hcolon, List.all_eq_true.2 hport⟩, String.ofList_toList]

theorem Spells.self (h : Spells host given) : Spells host host := by
  cases h with
  | address h | bracketed h | bracketedPort h _ => exact .address h
  | name hne hcolon hbracket | namePort hne hcolon hbracket _ => exact .name hne hcolon hbracket

theorem Spells.ne_empty (h : Spells host given) : host ≠ "" := by
  cases h with
  | address h | bracketed h | bracketedPort h _ =>
    rintro rfl
    exact absurd (IpAddress.text_of_v6 h).2 (by decide)
  | name hne _ _ | namePort hne _ _ _ => exact hne

/-- A port ends with no blank. -/
theorem not_isBlank_of_port (hds : ∀ c ∈ ds, Ascii.isDigit c = true) (cs : List Char) :
    ∀ c ∈ (cs ++ ':' :: ds).getLast?, isBlank c = false := by
  intro c hc
  rw [List.getLast?_append_of_ne_nil _ (List.cons_ne_nil _ _)] at hc
  rcases List.mem_cons.1 (List.mem_of_getLast? hc) with rfl | hmem
  · rfl
  · exact Ascii.isBlank_of_isDigit (hds c hmem)

/-- Where there are no blanks around a host, there are none around it with brackets and a port. -/
theorem trim_of_spells (h : Spells host given) (htrim : Blank.trim host = host) :
    Blank.trim given = given := by
  -- a bracket or a digit at an end is no blank; a host that stands at an end is trimmed
  cases h with
  | address h => exact htrim
  | bracketed h =>
    have htext : ("[" ++ host ++ "]").toList = ('[' :: host.toList) ++ [']'] := by simp
    rw [Blank.trim_eq_self_iff, htext, List.getLast?_concat]
    constructor
    · rintro c ⟨⟩
      rfl
    · rintro c ⟨⟩
      rfl
  | @bracketedPort a h port hport =>
    rw [Blank.trim_eq_self_iff, toList_bracketedPort, List.append_cons]
    refine ⟨?_, not_isBlank_of_port hport _⟩
    rintro c ⟨⟩
    rfl
  | name hne hcolon hbracket => exact htrim
  | @namePort hne hcolon hbracket port hport =>
    rw [Blank.trim_eq_self_iff, toList_namePort]
    refine ⟨?_, not_isBlank_of_port hport _⟩
    rw [List.head?_append_of_ne_nil _ (mt String.toList_eq_nil_iff.1 hne)]
    exact (Blank.trim_eq_self_iff.1 htrim).1

/-! ### Leaves -/

theorem leafFor_congr (r : Root) {given given' : String}
    (h : hostOf (Blank.trim given) = hostOf (Blank.trim given')) (days : Int) (now : Second)
    (serial : Bytes) : r.leafFor given days now serial = r.leafFor given' days now serial := by
  rw [leafFor_eq, leafFor_eq, h]

/-- What is issued for a host depends on nothing else of what is given. -/
theorem issue_congr (r : Root) {given given' : String}
    (h : hostOf (Blank.trim given) = hostOf (Blank.trim given')) (days : Int) (now : Second) :
    r.issue given days now = r.issue given' days now := by
  unfold issue
  simp only [leafFor_congr r h]

/-- The root can sign what it states for a host. -/
def Signs (r : Root) (host : String) (days now : Int) (e : Entropy) : Prop :=
  ∀ c, r.leafFor host days now (drawSerial e).1 = .ok c →
    (c.signed r.key (drawSerial e).2).1.isOk = true

/-- With an RSA key it can, by a clock that stands after 1970. -/
theorem signs_of_rsa {r : Root} {n exponent d p q : Nat} (hkey : r.key = .rsa n exponent d p q)
    {days now : Int} (hnow : 0 ≤ now) (host : String) (e : Entropy) : r.Signs host days now e := by
  intro c hc
  obtain ⟨hdays, name, -, rfl⟩ := leafFor_eq_ok hc
  have hend : 0 ≤ now + days * daySeconds :=
    Int.le_of_lt (Int.lt_of_le_of_lt hnow (Validity.lt_add_days hdays now))
  have hwritable : (!Validity.isWritable now ||
      !Validity.isWritable (now + days * daySeconds)) = false := by
    rw [Validity.isWritable_of_nonneg hnow, Validity.isWritable_of_nonneg hend]
    rfl
  simp only [Certificate.signed, leafNaming, hwritable, hkey]
  rfl

/-- What comes of it when a leaf is asked for that names a host. -/
structure Identifies (r : Root) (host given : String) (days now : Int) (e : Entropy) : Prop where
  /-- It does not matter in which way the host is given. -/
  same : r.issue given days now e = r.issue host days now e
  /-- A host that cannot be named has no leaf. -/
  refused : ¬Nameable host →
    (r.issue given days now e).1 = .error (.generation ("invalid hostname: " ++ host))
  /-- Any other has one, with the host as its common name and as its only other name. -/
  issued : Nameable host → ∃ l, (r.issue given days now e).1 = .ok l ∧
    l.certificate.subject.ofKind Attribute.commonName = [.ofText Attribute.commonName host] ∧
    l.certificate.alternatives = [nameOf host]

/-- **The host that a leaf names.** A host is found in all the ways in which it can be given. If
there are no blanks around it, its leaf is the same in all of them, and there is one if and only if
the host can be named. -/
theorem identity_ignores_port (h : Spells host given) :
    hostOf given = host ∧
      (Blank.trim host = host → ∀ (r : Root) (days now : Int) (e : Entropy), 1 ≤ days →
        Validity.firstNameable ≤ now → now + days * daySeconds ≤ Validity.lastNameable →
        r.Signs host days now e → r.Identifies host given days now e) := by
  refine ⟨hostOf_of_spells h, fun htrim r days now e hdays hfirst hlast hsigns => ?_⟩
  have hgiven : hostOf (Blank.trim given) = host := by
    rw [trim_of_spells h htrim, hostOf_of_spells h]
  -- the host is one of the ways to give it
  have hself : hostOf (Blank.trim host) = host := by
    rw [htrim, hostOf_of_spells h.self]
  have hsame : r.issue given days now e = r.issue host days now e :=
    congrFun (issue_congr r (hgiven.trans hself.symm) days now) e
  have hempty : (hostOf (Blank.trim host)).isEmpty = false := by
    rw [hself]
    exact Bool.eq_false_iff.2 (mt String.isEmpty_iff.1 h.ne_empty)
  have hleaf : r.leafFor host days now (drawSerial e).1 = _ :=
    leafFor_of_le_lastNameable hdays hfirst hlast hempty _
  rw [hself] at hleaf
  refine { same := hsame, refused := fun hname => ?_, issued := fun hname => ?_ }
  · rw [if_neg hname] at hleaf
    rw [hsame, issue_of_leafFor_error hleaf]
  · rw [if_pos hname] at hleaf
    -- only the signature is missing, which was assumed to succeed
    have hsigned := hsigns _ hleaf
    rw [hsame, issue_of_leafFor_ok hleaf]
    cases hbytes : (Certificate.signed _ r.key (drawSerial e).2).1 with
    | error err =>
      rw [hbytes] at hsigned
      cases hsigned
    | ok bytes => exact ⟨_, rfl, leafNaming_commonName r host _ _ _, rfl⟩

/-- The loopback address is named in the same leaf with brackets and a port as without. -/
theorem identity_ignores_port_loopback :
    Spells "::1" "[::1]:443" ∧ hostOf "[::1]:443" = "::1" ∧
      Issuance.greatRoot.Identifies "::1" "[::1]:443" 1 0 ⟨[], 0⟩ ∧
      ∃ l, (Issuance.greatRoot.issue "[::1]:443" 1 0 ⟨[], 0⟩).1 = .ok l ∧
        l.certificate.alternatives = [.address (List.replicate 15 0 ++ [1])] := by
  have hparse : IpAddress.parse? "::1" = some (.v6 ⟨#v[0, 0, 0, 0, 0, 0, 0, 1]⟩) := by
    decide +kernel
  -- brackets and port are one of the spellings, and the key of the root can sign
  have hspells : Spells "::1" "[::1]:443" :=
    @Spells.bracketedPort "::1" _ hparse "443" (List.all_eq_true.1 (by decide))
  obtain ⟨hhost, hidentifies⟩ := identity_ignores_port hspells
  have hleaf := hidentifies (by decide +kernel) Issuance.greatRoot 1 0 ⟨[], 0⟩ (by decide)
    (by decide) (by decide) (signs_of_rsa rfl (by decide) _ _)
  obtain ⟨l, hissue, -, hnames⟩ := hleaf.issued (.inl (by rw [hparse]; rfl))
  refine ⟨hspells, hhost, hleaf, l, hissue, ?_⟩
  rw [hnames, nameOf, hparse]
  rfl

end Root

end ReplayProxy
