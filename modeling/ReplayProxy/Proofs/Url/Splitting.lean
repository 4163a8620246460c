import Mathlib.Data.List.DropRight
import ReplayProxy.Proofs.Text.Blanks
import ReplayProxy.Proofs.Text.Encoding
import ReplayProxy.Proofs.Text.Letters
import ReplayProxy.Url

/-!
# Where a URL is split

A client reads a URL from the left: the scheme ends at the first colon, the authority at the first
slash, backslash, question mark or number sign, and so on. So a text that is put together from
parts is only taken apart into the same parts if no part holds the mark that ends it.
`Url.parts_of_parse?` says what is read off a text whose marks stand where they should.

Before all that the text is cleaned. What is solid, with neither blanks nor control characters,
stays as it is (`Url.clean_append`).
-/

namespace ReplayProxy.Url

/-! ### Cleaning -/

/-- A character that cleaning leaves alone. -/
def Solid (c : Char) : Prop := 0x20 < c.toNat

instance : DecidablePred Solid := fun c => inferInstanceAs (Decidable (0x20 < c.toNat))

/-- What is dropped at both ends of a text. -/
def isOuter (c : Char) : Bool := c.toNat ≤ 0x20

/-- What is not dropped inside. -/
def isKept (c : Char) : Bool := c != '\t' && c != '\n' && c != '\r'

theorem clean_eq (cs : List Char) :
    clean cs = ((cs.dropWhile isOuter).rdropWhile isOuter).filter isKept := rfl

theorem Solid.not_isOuter {c : Char} (h : Solid c) : isOuter c = false :=
  decide_eq_false (Nat.not_le.2 h)

theorem Solid.isKept {c : Char} (h : Solid c) : isKept c = true := by
  have hne : ∀ k : Char, k.toNat ≤ 0x20 → (c != k) = true := by
    rintro k hk
    rw [bne_iff_ne]
    rintro rfl
    exact Nat.not_le.2 h hk
  rw [Url.isKept, hne _ (by decide), hne _ (by decide), hne _ (by decide)]
  rfl

theorem dropWhile_eq_of_solid {cs : List Char} (hne : cs ≠ []) (hsolid : ∀ c ∈ cs, Solid c)
    (after : List Char) : (cs ++ after).dropWhile isOuter = cs ++ after := by
  cases cs with
  | nil => exact absurd rfl hne
  | cons c cs =>
    rw [List.cons_append, List.dropWhile_cons_of_neg]
    rw [(hsolid c (by simp)).not_isOuter]
    decide

/-- A solid middle stays as it is, and what is before and after it is cleaned by itself. -/
theorem clean_append {middle : List Char} (hne : middle ≠ []) (hsolid : ∀ c ∈ middle, Solid c)
    (before after : List Char) :
    clean (before ++ middle ++ after) =
      (before.dropWhile isOuter).filter isKept ++ middle ++
        (after.rdropWhile isOuter).filter isKept := by
  have hfront : (before ++ middle ++ after).dropWhile isOuter =
      before.dropWhile isOuter ++ middle ++ after := by
    rw [List.append_assoc, Text.dropWhile_append_of_eq (dropWhile_eq_of_solid hne hsolid after),
      List.append_assoc]
  have hback : (before.dropWhile isOuter ++ middle ++ after).rdropWhile isOuter =
      before.dropWhile isOuter ++ middle ++ after.rdropWhile isOuter := by
    -- seen from behind, the middle is what stays again
    have hreverse := dropWhile_eq_of_solid (List.reverse_ne_nil_iff.2 hne)
      (fun c hc => hsolid c (List.mem_reverse.1 hc)) (before.dropWhile isOuter).reverse
    rw [← List.reverse_append] at hreverse
    rw [List.rdropWhile, List.reverse_append, Text.dropWhile_append_of_eq hreverse,
      List.reverse_append, List.reverse_reverse, List.rdropWhile]
  have hmiddle : middle.filter isKept = middle :=
    List.filter_eq_self.2 fun c hc => (hsolid c hc).isKept
  rw [clean_eq, hfront, hback, List.filter_append, List.filter_append, hmiddle]

/-- What is solid throughout stays as it is at its end and inside. -/
theorem cleaned_of_solid {cs : List Char} (h : ∀ c ∈ cs, Solid c) :
    (cs.rdropWhile isOuter).filter isKept = cs := by
  have hend : cs.rdropWhile isOuter = cs := by
    rw [List.rdropWhile_eq_self_iff]
    intro hne
    rw [(h _ (List.getLast_mem hne)).not_isOuter]
    decide
  rw [hend]
  exact List.filter_eq_self.2 fun c hc => (h c hc).isKept

/-! ### The parts -/

theorem takeWhile_of_stop {p : Char → Bool} {cs rest : List Char} (hcs : ∀ c ∈ cs, p c = true)
    (hrest : ∀ c ∈ rest.head?, p c = false) : (cs ++ rest).takeWhile p = cs := by
  rw [List.takeWhile_append_of_pos hcs]
  cases rest with
  | nil => simp
  | cons c rest => simp [hrest c rfl]

theorem dropWhile_of_stop {p : Char → Bool} {cs rest : List Char} (hcs : ∀ c ∈ cs, p c = true)
    (hrest : ∀ c ∈ rest.head?, p c = false) : (cs ++ rest).dropWhile p = rest := by
  rw [List.dropWhile_append_of_pos hcs]
  cases rest with
  | nil => rfl
  | cons c rest => simp [hrest c rfl]

/-- What is left begins with what stopped the dropping. -/
theorem eq_false_of_head?_dropWhile {p : Char → Bool} {cs : List Char} :
    ∀ c ∈ (cs.dropWhile p).head?, p c = false := by
  intro c hc
  have hstop := List.head?_dropWhile_not p cs
  rw [Option.mem_def.1 hc] at hstop
  exact hstop

/-- What counts as a slash before an authority. -/
def isSlash (c : Char) : Bool := c == '/' || c == '\\'

/-- What is read off a text that writes these parts: a scheme, an authority after slashes, and what
follows the authority. -/
structure Parts (scheme authority rest : List Char) (u : Url) : Prop where
  secure : (String.ofList scheme).toLower = if u.secure then "https" else "http"
  host : host? (splitPort (splitUser authority).2).1 = some u.host
  port : port? u.secure ((splitPort (splitUser authority).2).2.getD []) = some u.port
  credentials : u.credentials = (splitUser authority).1.bind credentialsOf
  path : u.path = resolvedPath ((rest.takeWhile (· != '#')).takeWhile (· != '?'))
  query : u.query =
    (((rest.takeWhile (· != '#')).dropWhile (· != '?')).tail?).map
      fun q => String.ofList (encode inQuery q)

/-- A scheme that is read is one of two, and stands in front of the first colon. -/
theorem lower_of_scheme? {scheme after rest : List Char} {secure : Bool}
    (hscheme : ∀ c ∈ scheme, c ≠ ':')
    (h : scheme? (scheme ++ ':' :: after) = some (secure, rest)) :
    (String.ofList scheme).toLower = (if secure then "https" else "http") ∧ after = rest := by
  have hname : (scheme ++ ':' :: after).takeWhile (· != ':') = scheme :=
    takeWhile_of_stop (fun c hc => bne_iff_ne.2 (hscheme c hc)) (by simp)
  have hafter : (scheme ++ ':' :: after).dropWhile (· != ':') = ':' :: after :=
    dropWhile_of_stop (fun c hc => bne_iff_ne.2 (hscheme c hc)) (by simp)
  -- the first colon ends the scheme, and only two schemes are known
  simp only [scheme?, hname, hafter] at h
  split at h
  · next hhttp =>
    obtain ⟨rfl, hrest⟩ := Prod.mk.inj (Option.some.inj h)
    exact ⟨hhttp, hrest⟩
  · split at h
    · next hhttps =>
      obtain ⟨rfl, hrest⟩ := Prod.mk.inj (Option.some.inj h)
      exact ⟨hhttps, hrest⟩
    · cases h

theorem parts_of_parse? {s : String} {scheme slashes authority rest : List Char} {u : Url}
    (hs : clean s.toList = scheme ++ ':' :: (slashes ++ (authority ++ rest)))
    (hscheme : ∀ c ∈ scheme, c ≠ ':') (hslashes : ∀ c ∈ slashes, isSlash c = true)
    (hstop : ∀ c ∈ (authority ++ rest).head?, isSlash c = false)
    (hauthority : ∀ c ∈ authority, endsAuthority c = false)
    (hrest : ∀ c ∈ rest.head?, endsAuthority c = true) (h : parse? s = some u) :
    Parts scheme authority rest u := by
  have hdrop : (slashes ++ (authority ++ rest)).dropWhile (fun c => c == '/' || c == '\\') =
      authority ++ rest := dropWhile_of_stop hslashes hstop
  have hauth : (authority ++ rest).takeWhile (fun c => !endsAuthority c) = authority :=
    takeWhile_of_stop (by simpa using hauthority) (by simpa using hrest)
  have hends : (authority ++ rest).dropWhile (fun c => !endsAuthority c) = rest :=
    dropWhile_of_stop (by simpa using hauthority) (by simpa using hrest)
  -- a URL is read if its scheme, its host and its port are, one after the other
  unfold parse? at h
  rw [hs, Option.bind_eq_bind, Option.bind_eq_some_iff] at h
  obtain ⟨⟨secure, rest'⟩, hsecure, h⟩ := h
  obtain ⟨hlower, rfl⟩ := lower_of_scheme? hscheme hsecure
  simp only [hdrop, hauth, hends] at h
  rw [Option.bind_eq_bind, Option.bind_eq_some_iff] at h
  obtain ⟨host, hhost, h⟩ := h
  rw [Option.bind_eq_bind, Option.bind_eq_some_iff] at h
  obtain ⟨port, hport, h⟩ := h
  cases h
  refine ⟨hlower, hhost, hport, rfl, rfl, ?_⟩
  cases (rest.takeWhile (· != '#')).dropWhile (· != '?') <;> rfl

/-- Any text is split into slashes, an authority and what follows it. -/
theorem exists_split (cs : List Char) :
    ∃ slashes authority rest, cs = slashes ++ (authority ++ rest) ∧
      (∀ c ∈ slashes, isSlash c = true) ∧ (∀ c ∈ (authority ++ rest).head?, isSlash c = false) ∧
      (∀ c ∈ authority, endsAuthority c = false) ∧ ∀ c ∈ rest.head?, endsAuthority c = true := by
  refine ⟨cs.takeWhile isSlash, (cs.dropWhile isSlash).takeWhile fun c => !endsAuthority c,
    (cs.dropWhile isSlash).dropWhile fun c => !endsAuthority c, ?_, ?_, ?_, ?_, ?_⟩
  · rw [List.takeWhile_append_dropWhile, List.takeWhile_append_dropWhile]
  · exact fun c hc => List.mem_takeWhile_imp hc
  · rw [List.takeWhile_append_dropWhile]
    exact eq_false_of_head?_dropWhile
  · exact fun c hc => by simpa using List.mem_takeWhile_imp hc
  · exact fun c hc => by simpa using eq_false_of_head?_dropWhile c hc

/-- What ends no authority is no slash. -/
theorem isSlash_of_endsAuthority {c : Char} (h : endsAuthority c = false) : isSlash c = false := by
  simp only [endsAuthority, Bool.or_eq_false_iff] at h
  rw [isSlash, h.1.1.1, h.1.1.2]
  rfl

/-- No URL has an authority without a host. -/
theorem Parts.authority_ne_nil {scheme authority rest : List Char} {u : Url}
    (h : Parts scheme authority rest u) : authority ≠ [] := by
  rintro rfl
  have hhost := h.host
  have hnone : host? (splitPort (splitUser []).2).1 = none := by decide +kernel
  rw [hnone] at hhost
  cases hhost

/-! ### Host and port -/

/-- An authority without an at sign has no user information. -/
theorem splitUser_of_not_mem {cs : List Char} (h : '@' ∉ cs) : splitUser cs = (none, cs) := by
  have hdrop : cs.reverse.dropWhile (· != '@') = [] := by
    rw [List.dropWhile_eq_nil_iff]
    intro c hc
    rw [bne_iff_ne]
    rintro rfl
    exact h (List.mem_reverse.1 hc)
  simp only [splitUser, hdrop]

/-- A host, in brackets if it is an IPv6 address, and the digits of a port, if there is one. -/
structure Place where
  host : List Char
  port : Option (List Char)

namespace Place

/-- A place as it is written. -/
def text (d : Place) : List Char :=
  d.host ++ match d.port with
    | some digits => ':' :: digits
    | none => []

/-- The characters of an IPv6 address. -/
def isAddressChar (c : Char) : Bool := (Ascii.hexValue? c).isSome || c == ':' || c == '.'

/-- A host is an address in brackets, or a name without anything that no name may hold. A port is
written with digits. -/
structure WellFormed (d : Place) : Prop where
  host : (∃ address, d.host = '[' :: address ++ [']'] ∧ ∀ c ∈ address, isAddressChar c = true) ∨
    d.host ≠ [] ∧ ∀ c ∈ d.host, forbidden c = false
  port : ∀ digits ∈ d.port, digits ≠ [] ∧ ∀ c ∈ digits, Ascii.isDigit c = true

/-- The port of a place under a scheme: the one that is written, or the scheme's own. -/
def portFor (d : Place) (secure : Bool) : Option Nat :=
  match d.port with
  | some digits => Ascii.decimal? digits
  | none => some (defaultPort secure)

variable {d : Place}

/-- A character that can stand anywhere in a place. -/
def Inside (c : Char) : Prop := Solid c ∧ endsAuthority c = false ∧ c ≠ '@'

theorem inside_of_toNat {c : Char} (hsolid : 0x20 < c.toNat) (hne : c.toNat ≠ 0x2F)
    (hne₁ : c.toNat ≠ 0x5C) (hne₂ : c.toNat ≠ 0x3F) (hne₃ : c.toNat ≠ 0x23)
    (hne₄ : c.toNat ≠ 0x40) : Inside c := by
  refine ⟨hsolid, ?_, mt (congrArg Char.toNat) hne₄⟩
  simp only [endsAuthority, Bool.or_eq_false_iff, beq_eq_false_iff_ne]
  exact ⟨⟨⟨mt (congrArg Char.toNat) hne, mt (congrArg Char.toNat) hne₁⟩,
    mt (congrArg Char.toNat) hne₂⟩, mt (congrArg Char.toNat) hne₃⟩

theorem inside_of_isDigit {c : Char} (h : Ascii.isDigit c = true) : Inside c := by
  have hn := Ascii.isDigit_iff.1 h
  apply inside_of_toNat <;> omega

theorem toNat_of_isAddressChar {c : Char} (h : isAddressChar c = true) :
    (48 ≤ c.toNat ∧ c.toNat ≤ 58) ∨ c.toNat = 46 ∨ (65 ≤ c.toNat ∧ c.toNat ≤ 70) ∨
      (97 ≤ c.toNat ∧ c.toNat ≤ 102) := by
  simp only [isAddressChar, Bool.or_eq_true, beq_iff_eq] at h
  -- a hexadecimal digit of either case, a colon or a point
  rcases h with (h | rfl) | rfl
  · unfold Ascii.hexValue? at h
    split at h
    · next hdigit =>
      have hn : 48 ≤ c.toNat ∧ c.toNat ≤ 57 := hdigit
      omega
    · split at h
      · next hletter =>
        have hn : 97 ≤ c.toNat ∧ c.toNat ≤ 102 := hletter
        omega
      · split at h
        · next hletter =>
          have hn : 65 ≤ c.toNat ∧ c.toNat ≤ 70 := hletter
          omega
        · cases h
  · decide
  · decide

theorem inside_of_forbidden {c : Char} (h : forbidden c = false) :
    Inside c ∧ c ≠ ':' ∧ c ≠ '[' := by
  simp only [forbidden, isControl, List.contains_cons, List.contains_nil, Bool.or_eq_false_iff,
    beq_eq_false_iff_ne, decide_eq_false_iff_not, Nat.not_lt] at h
  obtain ⟨⟨hlow, -⟩, hspace, hhash, hslash, hcolon, -, -, hquestion, hat, hbracket, hback, -⟩ := h
  have hne : c.toNat ≠ 0x20 := fun hn => hspace (Char.toNat_inj.1 hn)
  refine ⟨⟨Nat.lt_of_le_of_ne hlow (Ne.symm hne), ?_, hat⟩, hcolon, hbracket⟩
  simp only [endsAuthority, Bool.or_eq_false_iff, beq_eq_false_iff_ne]
  exact ⟨⟨⟨hslash, hback⟩, hquestion⟩, hhash⟩

/-- What stands in a place ends no authority and is no at sign. -/
theorem WellFormed.inside (h : d.WellFormed) {c : Char} (hc : c ∈ d.text) : Inside c := by
  rcases List.mem_append.1 hc with hc | hc
  · -- an address brings its brackets, a name holds nothing that is forbidden
    rcases h.host with ⟨address, hhost, haddress⟩ | ⟨-, hhost⟩
    · rw [hhost, List.cons_append, List.mem_cons, List.mem_append, List.mem_singleton] at hc
      rcases hc with rfl | hc | rfl
      · apply inside_of_toNat <;> decide
      · have hn := toNat_of_isAddressChar (haddress c hc)
        apply inside_of_toNat <;> omega
      · apply inside_of_toNat <;> decide
    · exact (inside_of_forbidden (hhost c hc)).1
  · cases hport : d.port with
    | none => simp [hport] at hc
    | some digits =>
      rw [hport, List.mem_cons] at hc
      rcases hc with rfl | hc
      · apply inside_of_toNat <;> decide
      · exact inside_of_isDigit ((h.port digits hport).2 c hc)

/-- The part of an authority in which a colon belongs to the host. -/
def bracketed (cs : List Char) : List Char :=
  if cs.head? = some '[' then cs.takeWhile (· != ']') else []

theorem splitPort_eq (cs : List Char) :
    Url.splitPort cs =
      match (cs.drop (bracketed cs).length).dropWhile (· != ':') with
      | _ :: digits =>
        (bracketed cs ++ (cs.drop (bracketed cs).length).takeWhile (· != ':'), some digits)
      | [] => (cs, none) := by
  cases cs with
  | nil => rfl
  | cons c cs =>
    -- only a bracket in front makes colons part of the host
    by_cases hc : c = '['
    · subst hc
      rfl
    · have hbracketed : bracketed (c :: cs) = [] := if_neg (by simpa using hc)
      rw [hbracketed]
      unfold Url.splitPort
      split
      · next heq => exact absurd (List.cons.inj heq).1 hc
      · rfl

/-- A host that ends before the first colon that is looked at is split from its port. -/
theorem splitPort_of_bracketed {inside before : List Char} (hinside : bracketed d.text = inside)
    (hhost : d.host = inside ++ before) (hbefore : ∀ c ∈ before, c ≠ ':') :
    Url.splitPort d.text = (d.host, d.port) := by
  have hdrop : d.text.drop inside.length = before ++ match d.port with
      | some digits => ':' :: digits
      | none => [] := by
    rw [text, hhost, List.append_assoc, List.drop_left]
  have hcolon : ∀ c ∈ before, (c != ':') = true := fun c hc => bne_iff_ne.2 (hbefore c hc)
  -- the colon that splits is the first one behind the brackets
  rw [splitPort_eq, hinside, hdrop]
  cases hport : d.port with
  | none =>
    simp only [List.append_nil]
    rw [List.dropWhile_eq_nil_iff.2 hcolon]
    simp [text, hport]
  | some digits =>
    simp only
    rw [dropWhile_of_stop hcolon (by simp), takeWhile_of_stop hcolon (by simp), ← hhost]

/-- A place is split into its host and its port. -/
theorem WellFormed.splitPort (h : d.WellFormed) : Url.splitPort d.text = (d.host, d.port) := by
  rcases h.host with ⟨address, hhost, haddress⟩ | ⟨hne, hname⟩
  · -- all colons of an address stand before its closing bracket
    have hstays : ∀ c ∈ '[' :: address, (c != ']') = true := by
      intro c hc
      rw [bne_iff_ne]
      rintro rfl
      rcases List.mem_cons.1 hc with heq | hc
      · exact absurd heq (by decide)
      · have hn := toNat_of_isAddressChar (haddress _ hc)
        exact absurd hn (by decide)
    have hbracketed : bracketed d.text = '[' :: address := by
      have hhead : d.text.head? = some '[' := by simp [text, hhost]
      rw [bracketed, if_pos hhead, text, hhost, List.append_assoc]
      exact takeWhile_of_stop hstays (by simp)
    exact splitPort_of_bracketed hbracketed hhost (by simp)
  · -- a name holds neither brackets nor colons
    have hbracketed : bracketed d.text = [] := by
      obtain ⟨c, cs, hcs⟩ := List.exists_cons_of_ne_nil hne
      have hc := (inside_of_forbidden (hname c (by simp [hcs]))).2.2
      rw [bracketed, text, hcs, List.cons_append, List.head?_cons]
      exact if_neg (by simpa using hc)
    exact splitPort_of_bracketed hbracketed (List.nil_append d.host).symm
      fun c hc => (inside_of_forbidden (hname c hc)).2.1

/-- Bytes without a percent sign stand for themselves. -/
theorem percentDecode_eq_self {b : Bytes} (h : 0x25 ∉ b) : percentDecode b = b := by
  induction b with
  | nil => rfl
  | cons x rest ih =>
    have hx : x ≠ 0x25 := fun hx => h (by simp [hx])
    have hrest : 0x25 ∉ rest := fun hrest => h (List.mem_cons_of_mem x hrest)
    -- the first byte begins no escape, so it is taken alone
    rw [percentDecode]
    · rw [ih hrest]
    · rintro a b rest' rfl
      exact absurd rfl hx

theorem forbidden_toLower {c : Char} (h : forbidden c = false) : forbidden c.toLower = false := by
  by_cases hlarge : 65 ≤ c.toNat ∧ c.toNat ≤ 90
  · -- no small letter is forbidden, and other characters stay as they are
    have hletters : ∀ i < 26, forbidden (Char.ofNat (97 + i)) = false := by decide
    have hlower : c.toLower = Char.ofNat (97 + (c.toNat - 65)) := by
      rw [← Char.ofNat_toNat c.toLower, Ascii.toNat_toLower, if_pos hlarge]
      congr 1
      omega
    rw [hlower]
    exact hletters _ (by omega)
  · have hlower : c.toLower = c := by
      rw [← Char.toNat_inj, Ascii.toNat_toLower, if_neg hlarge]
    rw [hlower]
    exact h

/-- A name is the host that it names, in small letters, unless it writes an IPv4 address. -/
theorem host?_of_name {cs : List Char} (hne : cs ≠ []) (hname : ∀ c ∈ cs, forbidden c = false) :
    host? cs =
      if endsInNumber (cs.map Char.toLower) then (ipv4? (cs.map Char.toLower)).map .v4
      else some (.name (Ascii.lower (String.ofList cs))) := by
  -- what is not forbidden is ASCII, and is no percent sign
  have hascii : ∀ c ∈ (String.ofList cs).toList, c.toNat < 0x80 := by
    intro c hc
    have hcontrol := hname c (by simpa using hc)
    simp only [forbidden, isControl, Bool.or_eq_false_iff, decide_eq_false_iff_not] at hcontrol
    omega
  have hpercent : 0x25 ∉ Bytes.ofText (String.ofList cs) := by
    rw [Bytes.ofText_of_ascii hascii]
    intro hmem
    obtain ⟨c, hc, hbyte⟩ := List.mem_map.1 hmem
    have hnumber := congrArg UInt8.toNat hbyte
    rw [UInt8.toNat_ofNat', Nat.mod_eq_of_lt ((hascii c hc).trans (by decide))] at hnumber
    obtain rfl : c = '%' := Char.toNat_inj.1 hnumber
    exact absurd (hname '%' (by simpa using hc)) (by decide)
  have hlower : (Ascii.lower (String.ofList cs)).toList = cs.map Char.toLower := by simp
  have hforbidden : (cs.map Char.toLower).any forbidden = false := by
    rw [List.any_eq_false]
    intro c hc
    obtain ⟨c', hc', rfl⟩ := List.mem_map.1 hc
    rw [forbidden_toLower (hname c' hc')]
    decide
  unfold host?
  split
  · exact absurd (hname '[' (by simp)) (by decide)
  · rw [percentDecode_eq_self hpercent, Bytes.text?_ofText, Option.bind_eq_bind, Option.bind_some,
      hlower]
    simp only [hforbidden, Bool.or_false, List.isEmpty_iff, List.map_eq_nil_iff, if_neg hne]
    rw [← hlower, String.ofList_toList]

theorem WellFormed.text_ne_nil (h : d.WellFormed) : d.text ≠ [] := by
  rcases h.host with ⟨address, hhost, -⟩ | ⟨hne, -⟩
  · simp [text, hhost]
  · simp [text, hne]

/-- A port that can be contacted is the one that the place has under the scheme. -/
theorem WellFormed.port_eq (h : d.WellFormed) {secure : Bool} {port : Option Nat}
    (hport : port? secure (d.port.getD []) = some port) :
    d.portFor secure = some (port.getD (defaultPort secure)) := by
  unfold port? at hport
  cases hd : d.port with
  | none =>
    rw [hd] at hport
    cases hport
    simp [portFor, hd]
  | some digits =>
    obtain ⟨hne, -⟩ := h.port digits hd
    rw [hd, Option.getD_some, if_neg (by simpa using hne), Option.bind_eq_bind,
      Option.bind_eq_some_iff] at hport
    obtain ⟨n, hn, hport⟩ := hport
    simp only [portFor, hd, hn]
    -- the port of the scheme is left out of what is read
    split at hport
    · cases hport
    · split at hport
      · next hdefault =>
        cases hport
        rw [Option.getD_none, hdefault]
      · cases hport
        rfl

end Place

end ReplayProxy.Url
