import ReplayProxy.Certificate.Root
import ReplayProxy.Proofs.Certificate.Reading
import ReplayProxy.Proofs.Fallible

/-!
# Making a root

What there is to be said of a root that is made, and not read, is `Root.Made`: its
certificate is about its own key, it is written as what it states with some signature, and
its text is that. `Root.made_of_new` finds it so, whatever is drawn.

A root that is made also has a size that its encoding can express. The numbers in a key that
is made have few enough bits, a signature is as long as its key, and all else is of a fixed
length but for the two names. The bounds are generous: an element takes at most twice the
length of its content, whatever that is.

A property of what is drawn is carried from the draws to the root by `Entropy.Gives`.
-/

namespace ReplayProxy

/-! ### What is drawn -/

namespace Entropy

variable {α β : Type} {P Q : α → Prop} {R : β → Prop}

/-- What a computation gives has a property, whatever is drawn. -/
def Gives (P : α → Prop) (m : StateM Entropy α) : Prop := ∀ e : Entropy, P (m e).1

theorem Gives.pure {a : α} (h : P a) : Gives P (Pure.pure a) := fun _ => h

theorem Gives.bind {m : StateM Entropy α} {f : α → StateM Entropy β} (h : Gives P m)
    (hf : ∀ a, P a → Gives R (f a)) : Gives R (m >>= f) := fun e => hf _ (h e) (m e).2

/-- Where nothing is known of what is drawn. -/
theorem Gives.bind' {m : StateM Entropy α} {f : α → StateM Entropy β}
    (hf : ∀ a, Gives R (f a)) : Gives R (m >>= f) := fun e => hf _ (m e).2

theorem gives_take (count : Nat) : Gives (fun b => b.length ≤ count) (take count) := fun e => by
  change (List.take count _).length ≤ count
  simp

end Entropy

/-! ### Lengths of elements -/

namespace Der

theorem length_lengthBytes_le (n : Nat) : (lengthBytes n).length ≤ n + 2 := by
  have hlog : n.log2 ≤ n := Nat.log2_le_self n
  unfold lengthBytes
  split
  · simp
  · simp only [List.length_cons, length_number]
    omega

theorem length_element_le (tag : UInt8) (content : Bytes) :
    (element tag content).length ≤ 2 * content.length + 3 := by
  have := length_lengthBytes_le content.length
  simp only [element, List.length_append, List.length_cons]
  omega

theorem length_sequence_le (parts : List Bytes) :
    (sequence parts).length ≤ 2 * parts.flatten.length + 3 := length_element_le 0x30 _

theorem length_pair_le (a b : Bytes) :
    (sequence [a, b]).length ≤ 2 * (a.length + b.length) + 3 := by
  simpa using length_sequence_le [a, b]

theorem length_triple_le (a b c : Bytes) :
    (sequence [a, b, c]).length ≤ 2 * (a.length + b.length + c.length) + 3 := by
  simpa [Nat.add_assoc] using length_sequence_le [a, b, c]

theorem length_octets_le (b : Bytes) : (octets b).length ≤ 2 * b.length + 3 :=
  length_element_le 0x04 b

theorem length_bits_le (b : Bytes) : (bits b).length ≤ 2 * b.length + 5 := by
  have helement := length_element_le 0x03 (0x00 :: b)
  rw [List.length_cons] at helement
  rw [bits]
  omega

/-- More bits than a number in a key has. -/
def keyBits : Nat := 4096

/-- A number that may be in a key. -/
def Small (n : Nat) : Prop := n < 2 ^ keyBits

theorem small_of_lt {n k : Nat} (hk : k ≤ keyBits) (h : n < 2 ^ k) : Small n :=
  Nat.lt_of_lt_of_le h (Nat.pow_le_pow_right (by decide) hk)

theorem small_of_le {m n : Nat} (hn : Small n) (h : m ≤ n) : Small m := Nat.lt_of_le_of_lt h hn

theorem log2_lt_keyBits {n : Nat} (h : Small n) : n.log2 < keyBits := by
  by_cases hn : n = 0
  · subst hn
    decide
  · exact (Nat.log2_lt hn).2 h

theorem length_integer_le {n : Nat} (h : Small n) : (integer n).length ≤ 1100 := by
  have hlog : n.log2 < 4096 := log2_lt_keyBits h
  have hbytes : (integerBytes n).length ≤ (number n).length + 1 := by
    unfold integerBytes
    split
    · next heq => split <;> simp [heq]
    · simp
  have helement := length_element_le 0x02 (integerBytes n)
  rw [length_number] at hbytes
  rw [integer]
  omega

theorem length_integers_le {ns : List Nat} (h : ∀ n ∈ ns, Small n) :
    (ns.map integer).flatten.length ≤ 1100 * ns.length := by
  induction ns with
  | nil => simp
  | cons n ns ih =>
    rw [List.forall_mem_cons] at h
    have hn := length_integer_le h.1
    have hns := ih h.2
    simp only [List.map_cons, List.flatten_cons, List.length_append, List.length_cons]
    omega

end Der

namespace PrivateKey

open Der (Small length_element_le)

variable {k : PrivateKey}

/-! ### Keys -/

/-- The numbers that are written of a key are small. -/
def Moderate : PrivateKey → Prop
  | .rsa n e d p q =>
    Small n ∧ Small e ∧ Small d ∧ Small p ∧ Small q ∧ Small ((Modular.inverse? q p).getD 0)
  | .ecdsa .. => True

theorem length_kindBytes_le (k : PrivateKey) : k.kindBytes.length ≤ 100 := by
  cases k with
  | rsa =>
    change (Der.sequence [Der.identifier rsaId, Der.null]).length ≤ 100
    decide
  | ecdsa =>
    change (Der.sequence [Der.identifier curveId, Der.identifier p256Id]).length ≤ 100
    decide

theorem length_signatureKind_le (k : PrivateKey) : k.signatureKind.length ≤ 100 := by
  cases k with
  | rsa =>
    change (Der.sequence [Der.identifier rsaSignatureId, Der.null]).length ≤ 100
    decide
  | ecdsa =>
    change (Der.sequence [Der.identifier ecdsaSignatureId]).length ≤ 100
    decide

theorem length_pointBytes (p : Curve.Point) : (pointBytes p).length = 65 := by
  simp [pointBytes]

/-- What is public, and the key itself, in the form of their kind. -/
theorem length_publicInfo_le (h : k.Moderate) : k.publicInfo.length ≤ 10 ^ 5 := by
  have hkind := k.length_kindBytes_le
  -- a row of two in either case: the kind of the key, and its numbers or its point
  cases k with
  | rsa n e d p q =>
    obtain ⟨hn, he, -⟩ := h
    have hn := Der.length_integer_le hn
    have he := Der.length_integer_le he
    have hinner := Der.length_pair_le (Der.integer n) (Der.integer e)
    have hbits := Der.length_bits_le (Der.sequence [Der.integer n, Der.integer e])
    refine Nat.le_trans (Der.length_pair_le _ _) ?_
    dsimp only
    omega
  | ecdsa secret p =>
    have hpoint := length_pointBytes p
    have hbits := Der.length_bits_le (pointBytes p)
    refine Nat.le_trans (Der.length_pair_le _ _) ?_
    dsimp only
    omega

theorem length_bytes_le (h : k.Moderate) : k.bytes.length ≤ 10 ^ 6 := by
  have hkind := k.length_kindBytes_le
  -- what is inside is shorter, and the form of PKCS #8 adds little
  have houter : ∀ inner : Bytes, inner.length ≤ 10 ^ 5 →
      (Der.sequence [Der.integer 0, k.kindBytes, Der.octets inner]).length ≤ 10 ^ 6 := by
    intro inner hinner
    have hzero : (Der.integer 0).length ≤ 3 := by decide
    have hoctets := Der.length_octets_le inner
    have hall := Der.length_triple_le (Der.integer 0) k.kindBytes (Der.octets inner)
    omega
  cases k with
  | rsa n e d p q =>
    obtain ⟨hn, he, hd, hp, hq, hi⟩ := h
    refine houter _ ?_
    -- the nine numbers of the key are moderate, those that are computed from others too
    have hsmall : ∀ m ∈ [0, n, e, d, p, q, d % (p - 1), d % (q - 1),
        (Modular.inverse? q p).getD 0], Small m := by
      simp only [List.forall_mem_cons]
      exact ⟨Der.small_of_le hn (Nat.zero_le n), hn, he, hd, hp, hq,
        Der.small_of_le hd (Nat.mod_le ..), Der.small_of_le hd (Nat.mod_le ..), hi, by simp⟩
    have hnumbers := Der.length_integers_le hsmall
    have hinner := Der.length_sequence_le ([0, n, e, d, p, q, d % (p - 1), d % (q - 1),
      (Modular.inverse? q p).getD 0].map Der.integer)
    simp only [List.length_cons, List.length_nil] at hnumbers
    dsimp only
    omega
  | ecdsa secret p =>
    refine houter _ ?_
    have hone : (Der.integer 1).length ≤ 3 := by decide
    have hpoint := length_pointBytes p
    have hsecret := Der.length_octets_le (Bytes.bigEndian 32 secret)
    have hbits := Der.length_bits_le (pointBytes p)
    have hexplicit : (Der.explicit 1 (Der.bits (pointBytes p))).length ≤ _ :=
      length_element_le 0xA1 _
    rw [Bytes.length_bigEndian] at hsecret
    refine Nat.le_trans (Der.length_triple_le _ _ _) ?_
    omega

/-! ### Making keys -/

/-- The bits of a prime that is drawn. -/
def primeBits : Nat := 1024

/-- A number that is drawn with its highest bits set. -/
theorem gives_newPrime (tries : Nat) :
    Entropy.Gives (fun n? => ∀ n ∈ n?, 2 ≤ n ∧ n < 2 ^ primeBits) (newPrime tries) := by
  have hshift : ∀ i < primeBits, 1 <<< i < 2 ^ primeBits := fun i hi => by
    rw [Nat.one_shiftLeft]
    exact Nat.pow_lt_pow_right (by decide) hi
  -- a number that is given up is not looked at again, so only the last one counts
  induction tries with
  | zero => exact .pure (by simp)
  | succ tries ih =>
    refine Entropy.Gives.bind' fun b => ?_
    dsimp only
    split
    · refine .pure fun n hn => ?_
      cases hn
      constructor
      · have htwo : 2 ≤ 1 <<< 1023 := by decide
        exact htwo.trans (Nat.right_le_or.trans (Nat.left_le_or.trans Nat.left_le_or))
      · have hlow : Bytes.toNat b % (1 <<< 1022) < 2 ^ primeBits :=
          Nat.lt_trans (Nat.mod_lt _ (by decide)) (hshift 1022 (by decide))
        exact Nat.or_lt_two_pow (Nat.or_lt_two_pow (Nat.or_lt_two_pow hlow
          (hshift 1023 (by decide))) (hshift 1022 (by decide))) (Nat.one_lt_two_pow (by decide))
    · exact ih

theorem inverse?_lt {a m d : Nat} (hm : 0 < m) (h : Modular.inverse? a m = some d) : d < m := by
  unfold Modular.inverse? at h
  dsimp only at h
  split at h
  · cases h
    have hlt := Int.emod_lt_of_pos
      (Modular.euclid (2 * (m.log2 + 2)) (a % m) m 1 0).2 (Int.natCast_pos.2 hm)
    omega
  · cases h

theorem moderate_rsa {p q d : Nat} (hp : 2 ≤ p ∧ p < 2 ^ primeBits)
    (hq : 2 ≤ q ∧ q < 2 ^ primeBits)
    (hd : Modular.inverse? 65537 ((p - 1) * (q - 1)) = some d) :
    (rsa (p * q) 65537 d p q).Moderate := by
  have hsmall : ∀ {n : Nat}, n < 2 ^ primeBits → Small n := Der.small_of_lt (by decide)
  have hproduct : Small (p * q) := by
    refine Der.small_of_lt (k := primeBits + primeBits) (by decide) ?_
    rw [Nat.pow_add]
    exact Nat.mul_lt_mul'' hp.2 hq.2
  -- the private exponent is a remainder by a number that is no greater than the product
  have hphi : 0 < (p - 1) * (q - 1) := Nat.mul_pos (by omega) (by omega)
  have hle : (p - 1) * (q - 1) ≤ p * q := Nat.mul_le_mul (Nat.sub_le ..) (Nat.sub_le ..)
  refine ⟨hproduct, hsmall ?_, ?_, hsmall hp.2, hsmall hq.2, ?_⟩
  · exact Nat.lt_of_lt_of_le (by decide : 65537 < 2 ^ 17)
      (Nat.pow_le_pow_right (by decide) (by decide))
  · exact Der.small_of_le hproduct ((inverse?_lt hphi hd).le.trans hle)
  · rcases hinverse : Modular.inverse? q p with _ | i
    · exact Der.small_of_le hproduct (Nat.zero_le _)
    · exact hsmall ((inverse?_lt (by omega) hinverse).trans hp.2)

theorem moderate_newRsa : Entropy.Gives (fun k? => ∀ k ∈ k?, k.Moderate) newRsa := by
  refine (gives_newPrime 20000).bind fun p? hp => ?_
  cases p? with
  | none => exact .pure (by simp)
  | some p =>
    refine (gives_newPrime 20000).bind fun q? hq => ?_
    cases q? with
    | none => exact .pure (by simp)
    | some q =>
      dsimp only
      -- one prime drawn twice makes no key, nor do primes that do not go with the exponent
      split
      · next d heq =>
        refine .pure fun k hk => ?_
        cases hk
        split at heq
        · cases heq
        · exact moderate_rsa (hp p rfl) (hq q rfl) heq
      · exact .pure (by simp)

theorem moderate_newEcdsa (tries : Nat) :
    Entropy.Gives (fun k? => ∀ k ∈ k?, k.Moderate) (newEcdsa tries) := by
  induction tries with
  | zero => exact .pure (by simp)
  | succ tries ih =>
    refine Entropy.Gives.bind' fun b => ?_
    dsimp only
    split
    · exact .pure (by simp [Moderate])
    · exact ih

theorem moderate_new (a : KeyAlgorithm) :
    Entropy.Gives (fun k? => ∀ k ∈ k?, k.Moderate) (PrivateKey.new a) := by
  cases a with
  | ecdsaP256 => exact moderate_newEcdsa 64
  | rsa2048 =>
    refine moderate_newRsa.bind fun k? h => ?_
    cases k? with
    | some k => exact .pure h
    | none => exact moderate_newEcdsa 64

/-! ### Signatures -/

theorem length_ecdsaWith?_le {secret i : Nat} {message signature : Bytes}
    (h : ecdsaWith? secret i message = some signature) : signature.length ≤ 10 ^ 4 := by
  have hsmall : ∀ m, Small (m % Curve.order) := fun m =>
    Der.small_of_lt (k := 256) (by decide)
      (Nat.lt_trans (Nat.mod_lt m (by decide)) (by decide : Curve.order < 2 ^ 256))
  -- both numbers of a signature are remainders of the order, which has 256 bits
  unfold ecdsaWith? at h
  obtain ⟨point, -, h⟩ := Option.bind_eq_some_iff.1 h
  dsimp only at h
  split at h
  · cases h
  · cases h
    have hr := Der.length_integer_le (hsmall point.x)
    have hs := Der.length_integer_le (hsmall (Modular.inverse i Curve.order *
      (Bytes.toNat (Sha256.digest message) + point.x % Curve.order * secret)))
    refine Nat.le_trans (Der.length_pair_le _ _) ?_
    omega

theorem gives_ecdsaSign (secret : Nat) (message : Bytes) (tries : Nat) :
    Entropy.Gives (fun s? => ∀ s ∈ s?, s.length ≤ 10 ^ 4) (ecdsaSign secret message tries) := by
  induction tries with
  | zero => exact .pure (by simp)
  | succ tries ih =>
    refine Entropy.Gives.bind' fun b => ?_
    split
    · next signature heq =>
      refine .pure fun s hs => ?_
      cases hs
      exact length_ecdsaWith?_le heq
    · exact ih

theorem gives_sign (h : k.Moderate) (message : Bytes) :
    Entropy.Gives (fun s? => ∀ s ∈ s?, s.length ≤ 10 ^ 4) (k.sign message) := by
  cases k with
  | rsa n e d p q =>
    refine .pure fun s hs => ?_
    cases hs
    have hlog : n.log2 < 4096 := Der.log2_lt_keyBits h.1
    rw [Bytes.length_bigEndian]
    omega
  | ecdsa secret point => exact gives_ecdsaSign secret message 64

end PrivateKey

namespace Validity

theorem length_digits (width : Nat) (n : Int) : (digits width n).length = width := by
  induction width generalizing n with
  | zero => rfl
  | succ width ih => simp [digits, ih]

theorem length_timeBytes_le (time : Second) : (timeBytes time).length ≤ 33 := by
  unfold timeBytes
  dsimp only
  split
  · refine Nat.le_trans (Der.length_element_le _ _) ?_
    simp [length_digits]
  · refine Nat.le_trans (Der.length_element_le _ _) ?_
    simp [length_digits]

theorem length_bytes_le (v : Validity) : v.bytes.length ≤ 135 := by
  have hbefore := length_timeBytes_le v.notBefore
  have hafter := length_timeBytes_le v.notAfter
  refine Nat.le_trans (Der.length_pair_le _ _) ?_
  omega

end Validity

namespace Root

variable {commonName organization : String} {key : PrivateKey} {validity : Validity}
  {serial : Bytes}

/-! ### Certificates -/

theorem length_attribute_le (kind : Bytes) (hkind : kind.length = 3) (s : String) :
    (Attribute.ofText kind s).bytes.length ≤ 4 * (Bytes.ofText s).length + 31 := by
  have hid : (Der.identifier kind).length ≤ _ := Der.length_element_le 0x06 kind
  have hvalue := Der.length_element_le StringType.utf8.tag (Bytes.ofText s)
  refine Nat.le_trans (Der.length_pair_le _ _) ?_
  simp only [Attribute.ofText]
  omega

/-- The name of a root. -/
theorem length_name_le (commonName organization : String) :
    (DistinguishedName.ofAttributes [.ofText Attribute.commonName commonName,
      .ofText Attribute.organization organization]).bytes.length ≤
      16 * ((Bytes.ofText commonName).length + (Bytes.ofText organization).length) + 1000 := by
  have hcommon := length_attribute_le Attribute.commonName rfl commonName
  have horganization := length_attribute_le Attribute.organization rfl organization
  have hset := Der.length_element_le 0x31
    (Attribute.ofText Attribute.commonName commonName).bytes
  have hset' := Der.length_element_le 0x31
    (Attribute.ofText Attribute.organization organization).bytes
  refine Nat.le_trans (Der.length_sequence_le _) ?_
  simp only [DistinguishedName.ofAttributes, List.map_cons, List.map_nil, Der.set,
    List.flatten_cons, List.flatten_nil, List.length_append, List.append_nil]
  omega

/-- What a root states besides its names and its key. -/
theorem length_extensions_le :
    (Der.sequence (statementFor commonName organization key validity serial).extensions).length ≤
      1000 := by
  have hid : (identifier key.publicInfo).length ≤ 20 := by
    rw [identifier, List.length_take]
    exact Nat.min_le_left ..
  -- all extensions but the one with the identifier of the key are always the same
  have huses : (Certificate.extension Certificate.keyUsesId true
      (Certificate.useBytes
        [.digitalSignature, .keyEncipherment, .certificateSign])).length ≤ 20 := by
    decide
  have hpurposes : (Certificate.extension Certificate.purposesId false
      (Der.sequence [Der.identifier Certificate.serverAuthentication])).length ≤ 30 := by
    decide
  have hauthority : (Certificate.extension Certificate.authorityId true
      (Der.sequence [Der.truth])).length ≤ 20 := by
    decide
  have hsubject : (Certificate.extension Certificate.subjectKeyId false
      (Der.octets (identifier key.publicInfo))).length ≤ 300 := by
    have hvalue := Der.length_octets_le (identifier key.publicInfo)
    have hoctets := Der.length_octets_le (Der.octets (identifier key.publicInfo))
    have hname : (Der.identifier Certificate.subjectKeyId).length = 5 := by decide
    refine Nat.le_trans (Der.length_sequence_le _) ?_
    simp only [List.flatten_cons, List.flatten_nil, List.length_append, List.append_nil,
      List.cons_append, List.nil_append, Bool.false_eq_true, if_false]
    omega
  -- the four are written one after the other, so their lengths are added
  have hall : (statementFor commonName organization key validity serial).extensions =
      [Certificate.extension Certificate.keyUsesId true
        (Certificate.useBytes [.digitalSignature, .keyEncipherment, .certificateSign]),
       Certificate.extension Certificate.purposesId false
        (Der.sequence [Der.identifier Certificate.serverAuthentication]),
       Certificate.extension Certificate.subjectKeyId false
        (Der.octets (identifier key.publicInfo)),
       Certificate.extension Certificate.authorityId true (Der.sequence [Der.truth])] := rfl
  rw [hall]
  refine Nat.le_trans (Der.length_sequence_le _) ?_
  simp only [List.flatten_cons, List.flatten_nil, List.length_append, List.length_nil]
  omega

/-- A certificate of a root is not much longer than its names. -/
theorem length_bytesWith_le {c : Certificate}
    (hc : c = statementFor commonName organization key validity serial) (hkey : key.Moderate)
    (hserial : serial.length ≤ 16) {signature : Bytes} (hsignature : signature.length ≤ 10 ^ 4) :
    (c.bytesWith key signature).length ≤
      10 ^ 3 * ((Bytes.ofText commonName).length + (Bytes.ofText organization).length) +
        10 ^ 7 := by
  have hkind := key.length_signatureKind_le
  have hbody : (c.body key.signatureKind).length ≤
      10 ^ 2 * ((Bytes.ofText commonName).length + (Bytes.ofText organization).length) +
        10 ^ 6 := by
    have hissuer : c.issuer.bytes.length ≤ 16 *
        ((Bytes.ofText commonName).length + (Bytes.ofText organization).length) + 1000 := by
      rw [hc]
      exact length_name_le commonName organization
    have hsubject : c.subject.bytes = c.issuer.bytes := by
      rw [hc]
      rfl
    have hvalidity := c.validity.length_bytes_le
    have hinfo : c.publicInfo.length ≤ 10 ^ 5 := by
      rw [hc]
      exact PrivateKey.length_publicInfo_le hkey
    have hextensions : (Der.sequence c.extensions).length ≤ 1000 := by
      rw [hc]
      exact length_extensions_le
    have hnumber : (Der.element 0x02 c.serial).length ≤ 2 * serial.length + 3 := by
      rw [hc]
      exact Der.length_element_le 0x02 serial
    have hversion : (Der.explicit 0 (Der.integer 2)).length = 5 := by decide
    have hthird : (Der.explicit 3 (Der.sequence c.extensions)).length ≤ _ :=
      Der.length_element_le 0xA3 _
    -- the names stand in it twice, for the issuer and for the subject
    refine Nat.le_trans (Der.length_sequence_le _) ?_
    simp only [List.flatten_cons, List.flatten_nil, List.length_append, List.length_nil, hsubject]
    omega
  -- the kind of the signature and its bits are added to the body
  have hbits := Der.length_bits_le signature
  refine Nat.le_trans (Der.length_triple_le _ _ _) ?_
  omega

/-! ### Roots -/

/-- The certificate of a root is about its key. -/
def Matched (r : Root) : Prop := r.certificate.publicInfo = r.key.publicInfo

instance (r : Root) : Decidable r.Matched := inferInstanceAs (Decidable (_ = _))

/-- What holds of a root that was made. -/
structure Made (r : Root) : Prop where
  matched : r.Matched
  bytes : ∃ signature, r.bytes = r.certificate.bytesWith r.key signature
  pem : r.pem = Pem.write Pem.certificateLabel r.bytes
  length_bytes : r.bytes.length < 2 ^ 128
  /-- Its key is written in the form of PKCS #8. -/
  keyBytes : r.keyBytes = r.key.bytes
  length_key : r.key.bytes.length < 2 ^ 128

theorem gives_drawSerial : Entropy.Gives (fun b => b.length ≤ 16) drawSerial := by
  refine (Entropy.gives_take 16).bind fun b hb => .pure ?_
  cases b with
  | nil => decide
  | cons x b => exact hb

/-- What is signed is written with its signature. -/
theorem gives_signed {c : Certificate} (hkey : key.Moderate) :
    Entropy.Gives (fun result => ∀ bytes, result = .ok bytes →
      ∃ signature, bytes = c.bytesWith key signature ∧ signature.length ≤ 10 ^ 4)
      (c.signed key) := by
  unfold Certificate.signed
  split
  · exact .pure (by simp)
  · refine (PrivateKey.gives_sign hkey _).bind fun signature? h => ?_
    cases signature? with
    | none => exact .pure (by simp)
    | some signature =>
      refine .pure fun bytes hbytes => ?_
      cases hbytes
      exact ⟨signature, rfl, h signature rfl⟩

/-- **A root that is made.** Its names may be as long as anything that fits into a memory. -/
theorem made_of_new (days : Int) (algorithm : KeyAlgorithm) (now : Second)
    (hcommon : (Bytes.ofText commonName).length < 2 ^ 64)
    (horganization : (Bytes.ofText organization).length < 2 ^ 64) :
    Entropy.Gives (fun result => ∀ root, result = .ok root → Made root)
      (new commonName organization days algorithm now) := by
  -- whatever fails on the way, no root comes of it
  unfold new
  split
  · exact .pure (by simp)
  · refine (PrivateKey.moderate_new algorithm).bind fun key? hkey => ?_
    cases key? with
    | none => exact .pure (by simp)
    | some key =>
      refine gives_drawSerial.bind fun serial hserial => ?_
      split
      · exact .pure (by simp)
      · next validity _ =>
        refine (gives_signed (hkey key rfl)).bind fun result h => ?_
        cases result with
        | error e => exact .pure (by simp)
        | ok bytes =>
          refine .pure fun root hroot => ?_
          cases hroot
          -- what was signed is short enough to be read back, and so is the key
          obtain ⟨signature, rfl, hsignature⟩ := h bytes rfl
          have hbytes := length_bytesWith_le (c := statementFor commonName organization key validity
            serial) rfl (hkey key rfl) hserial hsignature
          have hlength := PrivateKey.length_bytes_le (hkey key rfl)
          exact
            { matched := rfl
              bytes := ⟨signature, rfl⟩
              pem := rfl
              length_bytes := Nat.lt_of_le_of_lt hbytes (by omega)
              keyBytes := rfl
              length_key := Nat.lt_of_le_of_lt hlength (by decide) }

end Root

end ReplayProxy
