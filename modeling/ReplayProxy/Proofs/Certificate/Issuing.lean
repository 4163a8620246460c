import ReplayProxy.Certificate.Root
import ReplayProxy.Proofs.Fallible

/-!
# Issuing a leaf

A leaf is issued in one way only: a number is drawn for it, what it states is put together, and
the root signs that. So every leaf states the host that it was asked for, is valid from the second
in which it was issued, and was paid for with draws from the entropy
(`Root.issuedFor_of_issue`, `Root.drawn_lt_issue`).

The ends of times are checked in three places, which differ in their bounds. Of a clock that
stands after 1970 only the end of the validity can overflow (`Root.latest_lt_of_overflow`).
-/

namespace ReplayProxy

/-! ### Draws -/

namespace Entropy

variable {α β : Type}

/-- A computation takes no draw back. -/
def Forward (m : StateM Entropy α) : Prop := ∀ e : Entropy, e.drawn ≤ (m e).2.drawn

theorem Forward.pure (a : α) : Forward (Pure.pure a) := fun _ => Nat.le_refl _

theorem Forward.bind {m : StateM Entropy α} {f : α → StateM Entropy β} (h : Forward m)
    (hf : ∀ a, Forward (f a)) : Forward (m >>= f) := fun e =>
  Nat.le_trans (h e) (hf (m e).1 (m e).2)

theorem drawn_draw (blocks : Nat) (e : Entropy) :
    (draw blocks e).2.drawn = e.drawn + blocks := by
  induction blocks generalizing e with
  | zero => rfl
  | succ blocks ih =>
    change (draw blocks { e with drawn := e.drawn + 1 }).2.drawn = e.drawn + (blocks + 1)
    rw [ih]
    exact Nat.add_right_comm e.drawn 1 blocks

theorem drawn_take (count : Nat) (e : Entropy) :
    (take count e).2.drawn = e.drawn + (count + 31) / 32 := drawn_draw _ e

theorem forward_take (count : Nat) : Forward (take count) := fun e => by
  rw [drawn_take]
  exact Nat.le_add_right _ _

end Entropy

namespace PrivateKey

theorem forward_ecdsaSign (secret : Nat) (message : Bytes) (tries : Nat) :
    Entropy.Forward (ecdsaSign secret message tries) := by
  induction tries with
  | zero => exact .pure none
  | succ tries ih =>
    -- a try that fails is followed by another, which draws more
    refine (Entropy.forward_take 32).bind fun b => ?_
    cases ecdsaWith? secret (Bytes.toNat b) message with
    | none => exact ih
    | some signature => exact .pure _

theorem forward_sign (k : PrivateKey) (message : Bytes) : Entropy.Forward (k.sign message) := by
  cases k with
  | rsa => exact .pure _
  | ecdsa secret point => exact forward_ecdsaSign secret message 64

end PrivateKey

theorem Certificate.forward_signed (c : Certificate) (key : PrivateKey) :
    Entropy.Forward (c.signed key) := by
  unfold signed
  split
  · exact .pure _
  · refine (key.forward_sign _).bind fun signature? => ?_
    cases signature? <;> exact .pure _

/-! ### Times -/

/-- Days from 1970 on lie in years that can be written. -/
theorem Date.year_ofDay_nonneg {day : Int} (h : 0 ≤ day) : 0 ≤ (Date.ofDay day).year := by
  have hite : ∀ (p : Prop) [Decidable p] (year : Int), 0 ≤ year →
      0 ≤ if p then year else year + 1 := fun p _ year hyear => by split <;> omega
  simp only [Date.ofDay, Date.epoch, Date.eraDays]
  -- the era is not before that of the year 0, and the year in it is none before its first
  refine hite _ _ ?_
  omega

namespace Validity

theorem isWritable_of_nonneg {time : Second} (h : 0 ≤ time) : isWritable time = true := by
  have hday : 0 ≤ time / daySeconds := Int.ediv_nonneg h (by decide)
  exact decide_eq_true (Date.year_ofDay_nonneg hday)

/-- A day at least is some time. -/
theorem lt_add_days {days : Int} (h : 1 ≤ days) (now : Second) : now < now + days * daySeconds :=
  Int.lt_add_of_pos_right now (Int.mul_pos (Int.lt_of_lt_of_le Int.zero_lt_one h) (by decide))

/-- A span is that of at least one day. -/
theorem span_eq_ok {days n : Int} (h : span days = .ok n) : 1 ≤ days ∧ n = days * daySeconds := by
  unfold span at h
  split at h
  · cases h
  · split at h
    · cases h
    · cases h
      exact ⟨by omega, rfl⟩

theorem span_overflow {days : Int} (h : span days = .error .overflow) :
    greatestSpan < days * daySeconds := by
  unfold span at h
  split at h
  · cases h
  · split at h
    · assumption
    · cases h

theorem nameable_eq_ok {time t : Second} (h : nameable time = .ok t) : t = time := by
  unfold nameable at h
  split at h <;> cases h
  rfl

theorem nameable_ne_overflow (time : Second) : nameable time ≠ .error .overflow := by
  unfold nameable
  split <;> simp

theorem since_eq_ok {now : Second} {n : Int} {v : Validity} (h : since now n = .ok v) :
    v = ⟨now, now + n⟩ := by
  obtain ⟨last, hlater, h⟩ := bind_eq_ok_iff.1 h
  obtain ⟨first, hfirst, h⟩ := bind_eq_ok_iff.1 h
  obtain ⟨last', hlast, h⟩ := bind_eq_ok_iff.1 h
  cases h
  unfold later at hlater
  split at hlater <;> cases hlater
  rw [nameable_eq_ok hfirst, nameable_eq_ok hlast]

theorem since_overflow {now : Second} {n : Int} (h : since now n = .error .overflow) :
    now + n < earliest ∨ latest < now + n := by
  rcases bind_eq_error_iff.1 h with hlater | ⟨last, -, h⟩
  · unfold later at hlater
    split at hlater
    · next hrange => simpa using hrange
    · cases hlater
  · -- the times were computed, and to name them does not overflow
    rcases bind_eq_error_iff.1 h with hfirst | ⟨first, -, h⟩
    · exact absurd hfirst (nameable_ne_overflow now)
    · rcases bind_eq_error_iff.1 h with hlast | ⟨last', -, h⟩
      · exact absurd hlast (nameable_ne_overflow last)
      · cases h

end Validity

/-- What can be written can be signed. -/
theorem Certificate.signed_ne_overflow {c : Certificate} (hbefore : 0 ≤ c.validity.notBefore)
    (hafter : 0 ≤ c.validity.notAfter) (key : PrivateKey) (e : Entropy) :
    (c.signed key e).1 ≠ .error .overflow := by
  have hwritable : (!Validity.isWritable c.validity.notBefore ||
      !Validity.isWritable c.validity.notAfter) = false := by
    rw [Validity.isWritable_of_nonneg hbefore, Validity.isWritable_of_nonneg hafter]
    rfl
  simp only [signed, hwritable]
  rw [if_neg (by decide), bind_apply]
  -- the key may fail to sign, but that is no overflow
  cases (key.sign (c.body key.signatureKind) e).1 with
  | none => simp [pure_apply]
  | some signature => simp [pure_apply]

/-! ### Leaves -/

/-- A leaf that was issued by a root for a host, for so many days. -/
structure Leaf.IssuedFor (root : Root) (days : Int) (given : String) (l : Leaf) : Prop where
  /-- It names the host, without the blanks around it and without its port, and nothing else. -/
  names : ∃ name, Root.alternativeName (Root.hostOf (Blank.trim given)) = .ok name ∧
    l.certificate.alternatives = [name]
  subject : l.certificate.subject.ofKind Attribute.commonName =
    [.ofText Attribute.commonName (Root.hostOf (Blank.trim given))]
  issuer : l.certificate.issuer = root.issuer
  publicInfo : l.certificate.publicInfo = root.key.publicInfo
  validity : l.certificate.validity.notAfter =
    l.certificate.validity.notBefore + days * daySeconds
  /-- The root has signed it, and is shown with it. -/
  signed : ∃ e bytes, (l.certificate.signed root.key e).1 = .ok bytes ∧
    l.chain = [bytes, root.bytes]
  /-- Its key is handed on as the root keeps it. -/
  key : l.key = root.keyBytes

namespace Root

variable {r : Root} {given : String} {days : Int} {now : Second} {serial : Bytes}

/-- What the leaf for a host by some name states. -/
def leafNaming (r : Root) (host : String) (name : AlternativeName) (validity : Validity)
    (serial : Bytes) : Certificate where
  serial
  issuer := r.issuer
  validity
  subject := DistinguishedName.ofAttributes <|
    Attribute.ofText Attribute.commonName host ::
      if r.organization.isEmpty then [] else [.ofText Attribute.organization r.organization]
  publicInfo := r.key.publicInfo
  issuerKey := some r.keyId
  alternatives := [name]
  keyUses := [.digitalSignature, .keyEncipherment]
  purposes := [Certificate.serverAuthentication]

/-- Its only common name is the host; the organization is of another kind. -/
theorem leafNaming_commonName (r : Root) (host : String) (name : AlternativeName)
    (validity : Validity) (serial : Bytes) :
    (r.leafNaming host name validity serial).subject.ofKind Attribute.commonName =
      [.ofText Attribute.commonName host] := by
  have hkinds : Attribute.organization ≠ Attribute.commonName := by decide
  by_cases horganization : r.organization.isEmpty = true <;>
    simp [leafNaming, DistinguishedName.ofKind, DistinguishedName.attributes,
      DistinguishedName.ofAttributes, Attribute.ofText, horganization, hkinds]

/-- A leaf is stated in four steps, and each may be the one that fails. -/
theorem leafFor_eq (r : Root) (given : String) (days : Int) (now : Second) (serial : Bytes) :
    r.leafFor given days now serial =
      Validity.span days >>= fun n =>
        if (hostOf (Blank.trim given)).isEmpty then .error (.generation "empty hostname")
        else alternativeName (hostOf (Blank.trim given)) >>= fun name =>
          Validity.since now n >>= fun validity =>
            .ok (r.leafNaming (hostOf (Blank.trim given)) name validity serial) := by
  unfold leafFor
  refine congrArg (Validity.span days >>= ·) (funext fun n => ?_)
  by_cases hempty : (hostOf (Blank.trim given)).isEmpty = true
  · simp only [hempty, if_true]
    rfl
  · simp only [hempty]
    rfl

/-- A leaf that is stated names its host, from now on for so many days. -/
theorem leafFor_eq_ok {c : Certificate} (h : r.leafFor given days now serial = .ok c) :
    1 ≤ days ∧ ∃ name, alternativeName (hostOf (Blank.trim given)) = .ok name ∧
      c = r.leafNaming (hostOf (Blank.trim given)) name ⟨now, now + days * daySeconds⟩ serial := by
  rw [leafFor_eq] at h
  obtain ⟨n, hspan, h⟩ := bind_eq_ok_iff.1 h
  obtain ⟨hdays, rfl⟩ := Validity.span_eq_ok hspan
  refine ⟨hdays, ?_⟩
  -- a host of which nothing is left has no leaf
  split at h
  · cases h
  · obtain ⟨name, hname, h⟩ := bind_eq_ok_iff.1 h
    obtain ⟨validity, hsince, h⟩ := bind_eq_ok_iff.1 h
    rw [Validity.since_eq_ok hsince] at h
    exact ⟨name, hname, (Except.ok.inj h).symm⟩

/-- What names a host fails with a reason. -/
theorem alternativeName_ne_overflow (host : String) :
    alternativeName host ≠ .error .overflow := by
  unfold alternativeName
  split
  · simp
  · split <;> simp

/-- A host that leaves can name: an address, or nothing but characters of names. -/
def Nameable (host : String) : Prop :=
  (IpAddress.parse? host).isSome = true ∨ ∀ c ∈ host.toList, isNameChar c = true

instance : DecidablePred Nameable := fun host =>
  have := List.decidableBAll (fun c => isNameChar c = true) host.toList
  inferInstanceAs (Decidable (_ ∨ _))

/-- How a leaf names such a host. -/
def nameOf (host : String) : AlternativeName :=
  match IpAddress.parse? host with
  | some a => .address a.bytes
  | none => .dns host

theorem alternativeName_eq (host : String) :
    alternativeName host =
      if Nameable host then .ok (nameOf host)
      else .error (.generation ("invalid hostname: " ++ host)) := by
  unfold alternativeName nameOf
  cases hparse : IpAddress.parse? host with
  | some a =>
    have hname : Nameable host := .inl (by rw [hparse]; rfl)
    rw [if_pos hname]
  -- what is no address is a name by its characters alone
  | none =>
    have hname : Nameable host ↔ host.toList.all isNameChar = true := by
      simp [Nameable, hparse]
    by_cases hchars : host.toList.all isNameChar = true
    · rw [if_pos (hname.2 hchars)]
      exact if_pos hchars
    · rw [if_neg (mt hname.1 hchars)]
      exact if_neg hchars

/-- With a clock that stands after 1970, only the end of a leaf's validity can overflow. -/
theorem latest_lt_of_leafFor_overflow (hnow : 0 ≤ now)
    (h : r.leafFor given days now serial = .error .overflow) :
    Validity.latest < now + days * daySeconds := by
  rw [leafFor_eq] at h
  rcases bind_eq_error_iff.1 h with hspan | ⟨n, hspan, h⟩
  · -- a span that cannot be computed with is longer than all of time
    have hgreatest := Validity.span_overflow hspan
    have hlatest : Validity.latest ≤ Validity.greatestSpan := by decide
    calc Validity.latest ≤ Validity.greatestSpan := hlatest
      _ < days * daySeconds := hgreatest
      _ ≤ now + days * daySeconds := Int.le_add_of_nonneg_left hnow
  · obtain ⟨hdays, rfl⟩ := Validity.span_eq_ok hspan
    split at h
    · cases h
    · rcases bind_eq_error_iff.1 h with hname | ⟨name, -, h⟩
      · exact absurd hname (alternativeName_ne_overflow _)
      · rcases bind_eq_error_iff.1 h with hsince | ⟨validity, -, h⟩
        · -- the end lies after now, so it cannot be too early
          rcases Validity.since_overflow hsince with hearly | hlate
          · have hend := Int.lt_of_le_of_lt hnow (Validity.lt_add_days hdays now)
            exact absurd (Int.lt_trans hend hearly) (by decide)
          · exact hlate
        · cases h

/-- The ways in which issuing a leaf ends. -/
inductive Issuing (r : Root) (given : String) (days : Int) (now : Second) (e : Entropy) :
    Except CertificateError Leaf × Entropy → Prop
  | unstated {serial : Bytes} {e' : Entropy} {err : CertificateError}
    (hdraw : drawSerial e = (serial, e')) (hstate : r.leafFor given days now serial = .error err) :
    Issuing r given days now e (.error err, e')
  | unsigned {serial : Bytes} {e' e'' : Entropy} {c : Certificate} {err : CertificateError}
    (hdraw : drawSerial e = (serial, e')) (hstate : r.leafFor given days now serial = .ok c)
    (hsign : c.signed r.key e' = (.error err, e'')) : Issuing r given days now e (.error err, e'')
  | issued {serial bytes : Bytes} {e' e'' : Entropy} {c : Certificate}
    (hdraw : drawSerial e = (serial, e')) (hstate : r.leafFor given days now serial = .ok c)
    (hsign : c.signed r.key e' = (.ok bytes, e'')) :
    Issuing r given days now e (.ok ⟨c, [bytes, r.bytes], r.keyBytes⟩, e'')

theorem issue_issuing (r : Root) (given : String) (days : Int) (now : Second) (e : Entropy) :
    Issuing r given days now e (r.issue given days now e) := by
  simp only [issue, bind_apply]
  cases hdraw : drawSerial e with
  | mk serial e' =>
    -- the number has been drawn by then, whatever comes of the statement
    cases hstate : r.leafFor given days now serial with
    | error err => exact .unstated hdraw hstate
    | ok c =>
      simp only [bind_apply]
      cases hsign : c.signed r.key e' with
      | mk result e'' =>
        cases result with
        | error err => exact .unsigned hdraw hstate hsign
        | ok bytes => exact .issued hdraw hstate hsign

/-- Whatever comes of it, something is drawn for a leaf. -/
theorem drawn_lt_issue (r : Root) (given : String) (days : Int) (now : Second) (e : Entropy) :
    e.drawn < (r.issue given days now e).2.drawn := by
  have hnumber : ∀ {serial : Bytes} {e' : Entropy}, drawSerial e = (serial, e') →
      e.drawn < e'.drawn := by
    intro serial e' hdraw
    have hdrawn : (drawSerial e).2.drawn = e.drawn + 1 := Entropy.drawn_take 16 e
    rw [hdraw] at hdrawn
    exact Nat.lt_of_lt_of_eq (Nat.lt_succ_self _) hdrawn.symm
  have hsigned : ∀ {c : Certificate} {e' : Entropy}
      {signed : Except CertificateError Bytes × Entropy},
      c.signed r.key e' = signed → e'.drawn ≤ signed.2.drawn := by
    rintro c e' _ rfl
    exact c.forward_signed r.key e'
  -- the number is drawn before anything can fail, and signing only draws more
  have hissuing := issue_issuing r given days now e
  generalize r.issue given days now e = result at hissuing ⊢
  cases hissuing with
  | unstated hdraw => exact hnumber hdraw
  | unsigned hdraw _ hsign | issued hdraw _ hsign =>
    exact Nat.lt_of_lt_of_le (hnumber hdraw) (hsigned hsign)

/-- **Issuing.** A leaf that is issued is one for the host, from now on for so many days. -/
theorem issuedFor_of_issue {e e' : Entropy} {l : Leaf}
    (h : r.issue given days now e = (.ok l, e')) :
    l.IssuedFor r days given ∧ l.certificate.validity.notBefore = now ∧ now < l.notAfter := by
  have hissuing := issue_issuing r given days now e
  rw [h] at hissuing
  cases hissuing with
  -- a leaf comes of one way only: a serial number, what is stated, and a signature
  | issued hdraw hstate hsign =>
    obtain ⟨hdays, name, hname, rfl⟩ := leafFor_eq_ok hstate
    refine ⟨?_, rfl, Validity.lt_add_days hdays now⟩
    exact
      { names := ⟨name, hname, rfl⟩
        subject := leafNaming_commonName r _ name _ _
        issuer := rfl
        publicInfo := rfl
        validity := rfl
        signed := ⟨_, _, congrArg Prod.fst hsign, rfl⟩
        key := rfl }

/-- With a clock that stands after 1970, only the end of a leaf's validity can overflow. -/
theorem latest_lt_of_overflow (hnow : 0 ≤ now) {e e' : Entropy}
    (h : r.issue given days now e = (.error .overflow, e')) :
    Validity.latest < now + days * daySeconds := by
  have hissuing := issue_issuing r given days now e
  rw [h] at hissuing
  cases hissuing with
  | unstated hdraw hstate => exact latest_lt_of_leafFor_overflow hnow hstate
  | unsigned hdraw hstate hsign =>
    obtain ⟨hdays, name, -, rfl⟩ := leafFor_eq_ok hstate
    have hafter : 0 ≤ now + days * daySeconds :=
      Int.le_of_lt (Int.lt_of_le_of_lt hnow (Validity.lt_add_days hdays now))
    exact absurd (congrArg Prod.fst hsign) (Certificate.signed_ne_overflow hnow hafter r.key _)

end Root

end ReplayProxy
