import ReplayProxy.Certificate.RootStore
import ReplayProxy.Proofs.Certificate.Blocks
import ReplayProxy.Proofs.Certificate.Making
import ReplayProxy.Proofs.Storage.Places

/-!
# The root on disk is one pair

A root is kept in two files, which are written one after the other, and what is read from
them is not compared. Whether a root that is read is one pair is therefore a question about
all that was done to the two files before.

A call may renew the root and fail at several points. The one that matters lies between the
two files: a certificate that was written beside a key that stays *tears* the pair
(`RootStore.tears`). A pair is *settled* as long as that has not happened since it was made,
and `RootStore.History` keeps account of it.

Main statement:

* `RootStore.matched_of_history`: at any time every root that is made, and every root that
  is read from a settled pair, has the certificate of its own key; and a pair that is no
  longer settled has the certificate of a root that was made and the key of an older one.
-/

namespace ReplayProxy

namespace Root

variable {certificate key : String} {made r : Root}

/-! ### Reading what was made -/

/-- What a root is made of that is read. -/
theorem of_ofPem (h : ofPem certificate key = .ok r) :
    keyOfPem key = .ok (r.key, r.keyBytes) ∧
      ∃ b, Pem.certificate certificate = .ok b ∧ Certificate.ofBytes? b = some r.certificate := by
  obtain ⟨⟨k, kb⟩, hkey, h⟩ := bind_eq_ok_iff.1 h
  obtain ⟨b, hblock, h⟩ := bind_eq_ok_iff.1 h
  -- the certificate decides whether the parts make a root; the key is not looked at
  unfold ofParts at h
  split at h
  · cases h
  · next c hbytes =>
    split at h
    · cases h
    · cases h
      exact ⟨hkey, b, hblock, hbytes⟩

/-- The certificate of a root that was made reads back as one about the same key. -/
theorem Made.publicInfo_certificate (h : made.Made) (hread : ofPem made.pem key = .ok r) :
    r.certificate.publicInfo = made.certificate.publicInfo := by
  -- the text gives back the bytes, and they state the same public part, whatever signed them
  obtain ⟨signature, hbytes⟩ := h.bytes
  obtain ⟨-, b, hblock, hread⟩ := of_ofPem hread
  rw [h.pem, Pem.certificate_write] at hblock
  cases hblock
  rw [hbytes] at hread
  exact Certificate.publicInfo_of_ofBytes? h.matched (hbytes ▸ h.length_bytes) hread

/-- The key of a root that was made reads back with the same public part. -/
theorem Made.publicInfo_key (h : made.Made) (hread : ofPem certificate made.keyPem = .ok r) :
    r.key.publicInfo = made.key.publicInfo := by
  -- the bytes between the marks are those of the key that was made
  have hkey := (of_ofPem hread).1
  rw [keyOfPem, keyPem, Pem.block?_write (by decide) (by decide), h.keyBytes] at hkey
  obtain ⟨k, hk, hpair⟩ := except_map_eq_ok_iff.1 hkey
  obtain ⟨rfl, -⟩ := Prod.mk.inj hpair
  exact PrivateKey.publicInfo_of_ofBytes h.length_key hk

theorem Made.matched_of_ofPem (h : made.Made) (hread : ofPem made.pem made.keyPem = .ok r) :
    r.Matched :=
  calc r.certificate.publicInfo = made.certificate.publicInfo := h.publicInfo_certificate hread
    _ = made.key.publicInfo := h.matched
    _ = r.key.publicInfo := (h.publicInfo_key hread).symm

end Root

namespace RootStore

variable {s : RootStore} {files files' : FileTree} {root : Root}

/-! ### The two texts -/

/-- The text of the certificate, if its file is one with a text. -/
def certificateText (s : RootStore) (files : FileTree) : Option String :=
  files.textAt (FileTree.placeOf s.certificatePath)

/-- The text of the key. -/
def keyText (s : RootStore) (files : FileTree) : Option String :=
  files.textAt (FileTree.placeOf s.keyPath)

theorem places_ne (s : RootStore) :
    FileTree.placeOf s.certificatePath ≠ FileTree.placeOf s.keyPath :=
  FileTree.placeOf_join_ne ⟨by decide, by decide, by decide, by decide⟩
    ⟨by decide, by decide, by decide, by decide⟩ (by decide) s.directory

theorem textAt_of_readText {path text : String} (h : readText files path = .ok text) :
    files.textAt (FileTree.placeOf path) = some text := by
  unfold readText at h
  cases hread : files.readText path with
  | error e =>
    rw [hread] at h
    cases h
  | ok text' =>
    rw [hread] at h
    cases h
    exact FileTree.textAt_of_readText hread

/-- A root that is read is read from the two texts. -/
theorem texts_of_load (h : s.load files = .ok root) :
    ∃ certificate key, s.certificateText files = some certificate ∧ s.keyText files = some key ∧
      Root.ofPem certificate key = .ok root := by
  obtain ⟨certificate, hcertificate, h⟩ := bind_eq_ok_iff.1 h
  obtain ⟨key, hkey, h⟩ := bind_eq_ok_iff.1 h
  exact ⟨certificate, key, textAt_of_readText hcertificate, textAt_of_readText hkey, h⟩

/-- The texts are those of one pair, if they are those of a root at all. -/
def Paired (s : RootStore) (files : FileTree) : Prop :=
  ∀ certificate key root, s.certificateText files = some certificate →
    s.keyText files = some key → Root.ofPem certificate key = .ok root → root.Matched

theorem Paired.load (h : s.Paired files) (hload : s.load files = .ok root) : root.Matched := by
  obtain ⟨certificate, key, hcertificate, hkey, hread⟩ := texts_of_load hload
  exact h certificate key root hcertificate hkey hread

/-- The texts of a root that was made are those of one pair. -/
theorem paired_of_made {made : Root} (hmade : made.Made)
    (hcertificate : s.certificateText files = some made.pem)
    (hkey : s.keyText files = some made.keyPem) : s.Paired files := by
  intro certificate key root hc hk hread
  have heq : certificate = made.pem := Option.some.inj (hc.symm.trans hcertificate)
  have heq' : key = made.keyPem := Option.some.inj (hk.symm.trans hkey)
  rw [heq, heq'] at hread
  exact hmade.matched_of_ofPem hread

/-- Two texts that are what two others were, or of which no root is read. -/
structure Leaves (s : RootStore) (files files' : FileTree) : Prop where
  certificate : ∀ text, s.certificateText files' = some text →
    s.certificateText files = some text ∨ ∀ key root, Root.ofPem text key ≠ .ok root
  key : ∀ text, s.keyText files' = some text →
    s.keyText files = some text ∨ ∀ certificate root, Root.ofPem certificate text ≠ .ok root

theorem Leaves.of_eq (hcertificate : s.certificateText files' = s.certificateText files)
    (hkey : s.keyText files' = s.keyText files) : s.Leaves files files' :=
  ⟨fun _ h => .inl (hcertificate ▸ h), fun _ h => .inl (hkey ▸ h)⟩

/-- Such texts are those of one pair still. -/
theorem Paired.of_leaves (h : s.Paired files) (hleaves : s.Leaves files files') :
    s.Paired files' := by
  intro certificate key root hc hk hread
  -- a text that was spoiled gives no root, so both texts are those of before
  rcases hleaves.certificate _ hc with hc | hspoiled
  · rcases hleaves.key _ hk with hk | hspoiled
    · exact h certificate key root hc hk hread
    · exact absurd hread (hspoiled certificate root)
  · exact absurd hread (hspoiled key root)

/-! ### Making a root and writing it -/

/-- How a renewal may end. -/
inductive Renewed (s : RootStore) (files : FileTree) :
    Except CertificateError Root → FileTree → Prop
  /-- It fails before a file is written. -/
  | kept {e : CertificateError} {files' : FileTree}
      (hcertificate : s.certificateText files' = s.certificateText files)
      (hkey : s.keyText files' = s.keyText files) : Renewed s files (.error e) files'
  /-- It fails between the two files. -/
  | halved {made : Root} {message : String} {files' : FileTree} (hmade : made.Made)
      (hcertificate : s.certificateText files' = some made.pem)
      (hkey : s.keyText files' = s.keyText files) : Renewed s files (.error (.write message)) files'
  | written {made : Root} {files' : FileTree} (hmade : made.Made)
      (hcertificate : s.certificateText files' = some made.pem)
      (hkey : s.keyText files' = some made.keyPem) : Renewed s files (.ok made) files'

/-- Only the texts matter of what was there before. -/
theorem Renewed.of_texts {files₁ : FileTree} {result : Except CertificateError Root}
    (h : s.Renewed files₁ result files')
    (hcertificate : s.certificateText files₁ = s.certificateText files)
    (hkey : s.keyText files₁ = s.keyText files) : s.Renewed files result files' := by
  cases h with
  | kept hc hk => exact .kept (hc.trans hcertificate) (hk.trans hkey)
  | halved hmade hc hk => exact .halved hmade hc (hk.trans hkey)
  | written hmade hc hk => exact .written hmade hc hk

theorem renewed_of_write (hmade : root.Made) (files : FileTree) :
    s.Renewed files (s.write root files).1 (s.write root files).2 := by
  unfold write
  -- the certificate is written first, and the key only behind it
  split
  · exact .kept rfl rfl
  · next files₁ hcertificate =>
    obtain ⟨htext, hothers⟩ := FileTree.textAt_of_write hcertificate
    have hkey := hothers _ s.places_ne.symm
    rw [Bytes.text?_ofText] at htext
    split
    · exact .halved hmade htext hkey
    · next files₂ hwrite =>
      obtain ⟨htext', hothers'⟩ := FileTree.textAt_of_write hwrite
      rw [Bytes.text?_ofText] at htext'
      exact .written hmade ((hothers' _ s.places_ne).trans htext) htext'

/-- The names of a root fit into a memory. -/
structure Sized (s : RootStore) : Prop where
  commonName : (Bytes.ofText s.commonName).length < 2 ^ 64
  organization : (Bytes.ofText s.organization).length < 2 ^ 64

theorem renewed_of_renew (hs : s.Sized) (now : Second) (files : FileTree) (e : Entropy) :
    s.Renewed files (s.renew now files e).1.1 (s.renew now files e).1.2 := by
  unfold renew
  cases hdirectory : files.makeDirectory s.directory with
  | error err => exact .kept rfl rfl
  | ok files₁ =>
    -- directories hold no text, so making one leaves what was there before
    have htexts := FileTree.textAt_of_makeDirectory hdirectory
    have hmade := Root.made_of_new s.days s.algorithm now
      hs.commonName hs.organization e
    simp only [bind_apply]
    rcases hnew : (Root.new s.commonName s.organization s.days s.algorithm now e).1 with err | root
    · exact .kept (htexts _) (htexts _)
    · exact (renewed_of_write (hmade root hnew) files₁).of_texts (htexts _) (htexts _)

/-! ### Calls, and what they do to the pair -/

/-- A call on the store. -/
inductive Call where
  | load
  | ensure (now : Second)
  | renew (now : Second)

variable {c : Call} {e : Entropy} {result : Except CertificateError Root}

/-- What a call gives and the files that it leaves. -/
def call (s : RootStore) (files : FileTree) :
    Call → StateM Entropy (Except CertificateError Root × FileTree)
  | .load => pure (s.load files, files)
  | .ensure now => s.ensure now files
  | .renew now => s.renew now files

/-- Whether a call makes a root and does not read one. -/
def makes (s : RootStore) (files : FileTree) : Call → Bool
  | .load => false
  | .ensure _ => !s.isPresent files
  | .renew _ => true

/-- A call that does not make a root reads one and leaves the files alone. -/
theorem call_of_not_makes (h : s.makes files c = false)
    (hcall : (s.call files c e).1 = (result, files')) : result = s.load files ∧ files' = files := by
  cases c with
  | load =>
    cases hcall
    exact ⟨rfl, rfl⟩
  | ensure now =>
    -- with both files there, to ensure a root is to load it
    have hpresent : s.isPresent files = true := by simpa [makes] using h
    rw [call, ensure, if_pos hpresent] at hcall
    cases hcall
    exact ⟨rfl, rfl⟩
  | renew now => cases h

theorem renewed_of_makes (hs : s.Sized) (h : s.makes files c = true)
    (hcall : (s.call files c e).1 = (result, files')) : s.Renewed files result files' := by
  have hrenew : ∀ now, (s.renew now files e).1 = (result, files') →
      s.Renewed files result files' := by
    intro now heq
    have hrenewed := renewed_of_renew hs now files e
    rwa [heq] at hrenewed
  cases c with
  | load => cases h
  | ensure now =>
    -- and with one of them missing, it is to renew it
    have hpresent : ¬s.isPresent files = true := by simpa [makes] using h
    rw [call, ensure, if_neg hpresent] at hcall
    exact hrenew now hcall
  | renew now => exact hrenew now hcall

/-- A call tears the pair: it fails, having put another certificate beside the key that is
there. -/
def tears (s : RootStore) (files : FileTree) (result : Except CertificateError Root)
    (files' : FileTree) : Bool :=
  match result with
  | .ok _ => false
  | .error _ =>
    decide (s.certificateText files' ≠ s.certificateText files) && (s.keyText files').isSome

/-- Whether the pair is settled after a call: it is after one that made a root, and it stays
so as long as no call tears it. -/
def settledAfter (s : RootStore) (settled : Bool) (files : FileTree) (c : Call)
    (result : Except CertificateError Root) (files' : FileTree) : Bool :=
  (s.makes files c && result.isOk) || (settled && !s.tears files result files')

/-- A way from some files to others, by calls and by what others do meanwhile, and whether
the pair is settled at its end. -/
inductive History (s : RootStore) : FileTree → Bool → Prop
  /-- It may begin with any files, of which nothing is known. -/
  | start (files : FileTree) : History s files false
  /-- It may begin with files that hold one pair, or none. -/
  | paired {files : FileTree} (h : s.Paired files) : History s files true
  | call {files files' : FileTree} {settled : Bool} {c : Call} {e : Entropy}
      {result : Except CertificateError Root} (h : History s files settled)
      (hcall : (s.call files c e).1 = (result, files')) :
      History s files' (s.settledAfter settled files c result files')
  /-- Others leave each of the two texts, take it away or spoil it. -/
  | outside {files files' : FileTree} {settled : Bool} (h : History s files settled)
      (hleaves : s.Leaves files files') : History s files' settled

/-- A call that fails without tearing the pair leaves one pair. -/
theorem Paired.of_not_tears (h : s.Paired files) {error : CertificateError}
    (hkey : s.keyText files' = s.keyText files)
    (htears : s.tears files (.error error) files' = false) : s.Paired files' := by
  by_cases hcertificate : s.certificateText files' = s.certificateText files
  · exact h.of_leaves (.of_eq hcertificate hkey)
  · -- another certificate was written, so there is no key beside it
    have hnone : s.keyText files' = none := by simpa [tears, hcertificate] using htears
    intro certificate key root _ hk
    rw [hnone] at hk
    cases hk

/-- What one call keeps. -/
theorem paired_of_call (hs : s.Sized) {settled : Bool} (hpaired : settled = true → s.Paired files)
    (hcall : (s.call files c e).1 = (result, files'))
    (hsettled : s.settledAfter settled files c result files' = true) : s.Paired files' := by
  -- a call that fails has left a settled pair, and has not torn it
  have hfailed : ∀ {error : CertificateError}, result = .error error →
      s.keyText files' = s.keyText files → s.Paired files' := by
    intro error heq hkey
    subst heq
    simp only [settledAfter, Except.isOk, Except.toBool, Bool.and_false, Bool.false_or,
      Bool.and_eq_true, Bool.not_eq_true'] at hsettled
    exact (hpaired hsettled.1).of_not_tears hkey hsettled.2
  rcases hmakes : s.makes files c with _ | _
  · obtain ⟨-, rfl⟩ := call_of_not_makes hmakes hcall
    rw [settledAfter, hmakes, Bool.false_and, Bool.false_or, Bool.and_eq_true] at hsettled
    exact hpaired hsettled.1
  · cases renewed_of_makes hs hmakes hcall with
    | kept hcertificate hkey => exact hfailed rfl hkey
    | halved hmade hcertificate hkey => exact hfailed rfl hkey
    | written hmade hcertificate hkey => exact paired_of_made hmade hcertificate hkey

/-- A settled pair is one pair. -/
theorem History.paired_of_settled (hs : s.Sized) {settled : Bool}
    (h : s.History files settled) (hsettled : settled = true) : s.Paired files := by
  -- the invariant of the history is `paired_of_call`; others can only spoil what is there
  induction h with
  | start => cases hsettled
  | paired h => exact h
  | call h hcall ih => exact paired_of_call hs ih hcall hsettled
  | outside h hleaves ih => exact (ih hsettled).of_leaves hleaves

/-- A torn pair is the certificate of a root that was made and the key of before. -/
theorem torn_of_tears (hs : s.Sized) (hcall : (s.call files c e).1 = (result, files'))
    (h : s.tears files result files' = true) :
    ∃ (made : Root) (message : String), made.Made ∧ result = .error (.write message) ∧
      s.certificateText files' = some made.pem ∧ s.keyText files' = s.keyText files := by
  rcases hmakes : s.makes files c with _ | _
  · obtain ⟨-, rfl⟩ := call_of_not_makes hmakes hcall
    cases result <;> simp [tears] at h
  · cases renewed_of_makes hs hmakes hcall with
    -- of the three ends, only the one between the files leaves another certificate and fails
    | kept hcertificate hkey => simp [tears, hcertificate] at h
    | halved hmade hcertificate hkey => exact ⟨_, _, hmade, rfl, hcertificate, hkey⟩
    | written hmade hcertificate hkey => cases h

/-- **Pairs on disk.** However the files came about, a root that is made has the certificate
of its own key, and so has a root that is read from a settled pair. A pair is settled until a
call fails between its two files: that call says so, and what is read afterwards has the
certificate of the root that was being written and the key of the one before. -/
theorem matched_of_history (hs : s.Sized) {settled : Bool} (h : s.History files settled)
    (hcall : (s.call files c e).1 = (result, files')) :
    (∀ root, result = .ok root → settled = true ∨ s.makes files c = true → root.Matched) ∧
    (settled = true → s.settledAfter settled files c result files' = false →
      ∃ (made : Root) (message : String), made.Made ∧ result = .error (.write message) ∧
        ∀ root, s.load files' = .ok root →
          root.certificate.publicInfo = made.key.publicInfo ∧
          ∃ key, s.keyText files = some key ∧
            Root.keyOfPem key = .ok (root.key, root.keyBytes)) := by
  constructor
  · intro root hroot hone
    subst hroot
    -- a root that is not made is read, and then its pair has to be settled
    rcases hmakes : s.makes files c with _ | _
    · rw [hmakes, or_iff_left Bool.false_ne_true] at hone
      obtain ⟨hload, -⟩ := call_of_not_makes hmakes hcall
      exact (h.paired_of_settled hs hone).load hload.symm
    · cases renewed_of_makes hs hmakes hcall with
      | written hmade _ _ => exact hmade.matched
  · intro hsettled hafter
    -- it is this very call that tears the pair
    have htears : s.tears files result files' = true := by
      simpa [settledAfter, hsettled] using (Bool.or_eq_false_iff.1 hafter).2
    obtain ⟨made, message, hmade, hresult, hcertificate, hkey⟩ := torn_of_tears hs hcall htears
    refine ⟨made, message, hmade, hresult, fun root hload => ?_⟩
    obtain ⟨certificate, key, hc, hk, hread⟩ := texts_of_load hload
    -- the certificate is the new one, and the key is the text that the call left alone
    rw [Option.some.inj (hc.symm.trans hcertificate)] at hread
    exact ⟨(hmade.publicInfo_certificate hread).trans hmade.matched, key, hkey ▸ hk,
      (Root.of_ofPem hread).1⟩

/-! ### A store in the directory of relative paths -/

/-- The key of the secret one. -/
def oneKey : PrivateKey := .ecdsa 1 Curve.base

/-- A root of that key that states little else. -/
def oneRoot : Root :=
  let certificate : Certificate :=
    { serial := [1], issuer := ⟨[]⟩, validity := ⟨0, 0⟩, subject := ⟨[]⟩
      publicInfo := oneKey.publicInfo }
  let bytes := certificate.bytesWith oneKey []
  { key := oneKey, certificate, bytes, pem := Pem.write Pem.certificateLabel bytes
    organization := "", issuer := ⟨[]⟩, keyId := [] }

theorem made_oneRoot : oneRoot.Made where
  matched := rfl
  bytes := ⟨[], rfl⟩
  pem := rfl
  length_bytes := by decide +kernel
  keyBytes := rfl
  length_key := by decide +kernel

/-- The key of this root reads, and with it any certificate that does. -/
theorem exists_ofPem_oneRoot {pem : String} {bytes : Bytes} (hpem : Pem.certificate pem = .ok bytes)
    (hbytes : ((Certificate.ofBytes? bytes).bind fun c => c.subject.issuing?).isSome = true) :
    ∃ root, Root.ofPem pem oneRoot.keyPem = .ok root := by
  have hkey : (PrivateKey.ofBytes oneKey.bytes).toOption.isSome = true := by decide +kernel
  obtain ⟨key, hkey⟩ := Option.isSome_iff_exists.1 hkey
  obtain ⟨issuer, hissuer⟩ := Option.isSome_iff_exists.1 hbytes
  obtain ⟨certificate, hread, hissuing⟩ := Option.bind_eq_some_iff.1 hissuer
  have hblock : Root.keyOfPem oneRoot.keyPem = .ok (key, oneKey.bytes) := by
    rw [Root.keyOfPem, Root.keyPem, Pem.block?_write (by decide) (by decide)]
    exact except_map_eq_ok_iff.2 ⟨key, eq_ok_of_toOption hkey, rfl⟩
  simp only [Root.ofPem, hblock, hpem, ok_bind, Root.ofParts, hread, hissuing]
  exact ⟨_, rfl⟩

/-- Files that hold this root, and a key that is not to be written over. -/
def oneFiles : FileTree :=
  (FileTree.put {} [".", "understudy-ca.crt"] (.file (Bytes.ofText oneRoot.pem) true)).put
    [".", "understudy-ca.key"] (.file (Bytes.ofText oneRoot.keyPem) false)

/-- A store in the directory of relative paths, with roots for so many days. -/
def here (days : Int) : RootStore :=
  { directory := "", commonName := "", organization := "", algorithm := .ecdsaP256, days }

variable {certificate key : String} {writable writable' : Bool}

theorem sized_here (days : Int) : (here days).Sized :=
  ⟨(by decide : (Bytes.ofText "").length < 2 ^ 64), (by decide : (Bytes.ofText "").length < 2 ^ 64)⟩

theorem certificatePath_here (days : Int) : (here days).certificatePath = "understudy-ca.crt" := by
  simp [certificatePath, here, FileTree.join]

theorem keyPath_here (days : Int) : (here days).keyPath = "understudy-ca.key" := by
  simp [keyPath, here, FileTree.join]

theorem isName_certificate : FileTree.IsName "understudy-ca.crt" :=
  ⟨by decide, by decide, by decide, by decide⟩

theorem isName_key : FileTree.IsName "understudy-ca.key" :=
  ⟨by decide, by decide, by decide, by decide⟩

/-- A root is read from its two files. -/
theorem ensure_here (days : Int) (hcertificate : files.node? [".", "understudy-ca.crt"] =
      some (.file (Bytes.ofText certificate) writable))
    (hkey : files.node? [".", "understudy-ca.key"] = some (.file (Bytes.ofText key) writable'))
    (hread : Root.ofPem certificate key = .ok root) (now : Second) (e : Entropy) :
    ((here days).call files (.ensure now) e).1 = (.ok root, files) := by
  have hpresent : (here days).isPresent files = true := by
    simp [isPresent, certificatePath_here, keyPath_here, FileTree.contains, FileTree.find,
      FileTree.resolve_name isName_certificate, FileTree.resolve_name isName_key, hcertificate,
      hkey]
  have hload : (here days).load files = .ok root := by
    have htext := FileTree.readText_name isName_certificate hcertificate
    have htext' := FileTree.readText_name isName_key hkey
    rw [load, certificatePath_here, keyPath_here, readText, htext, readText, htext',
      Except.mapError, Except.mapError, ok_bind, ok_bind, hread]
  rw [call, ensure, if_pos hpresent, hload]
  rfl

theorem node?_certificate :
    oneFiles.node? [".", "understudy-ca.crt"] = some (.file (Bytes.ofText oneRoot.pem) true) := by
  rw [oneFiles, FileTree.node?_put_of_ne (by decide), FileTree.node?_put_self]
  simp [FileTree.node?]

theorem node?_key :
    oneFiles.node? [".", "understudy-ca.key"] =
      some (.file (Bytes.ofText oneRoot.keyPem) false) := by
  rw [oneFiles, FileTree.node?_put_self]
  rw [FileTree.node?_put_of_ne (by decide)]
  simp [FileTree.node?]

theorem ofPem_oneRoot : ∃ root, Root.ofPem oneRoot.pem oneRoot.keyPem = .ok root :=
  exists_ofPem_oneRoot (Pem.certificate_write oneRoot.bytes) (by decide +kernel)

theorem paired_oneFiles (days : Int) : (here days).Paired oneFiles := by
  refine paired_of_made made_oneRoot ?_ ?_
  · rw [certificateText, certificatePath_here,
      ← FileTree.eq_placeOf_of_resolve (FileTree.resolve_name isName_certificate oneFiles),
      FileTree.textAt, node?_certificate, Option.bind_some, FileTree.textOf, Bytes.text?_ofText]
  · rw [keyText, keyPath_here,
      ← FileTree.eq_placeOf_of_resolve (FileTree.resolve_name isName_key oneFiles),
      FileTree.textAt, node?_key, Option.bind_some, FileTree.textOf, Bytes.text?_ofText]

/-- The directory of relative paths need not be made. -/
theorem renew_here (days : Int) (now : Second) (e : Entropy) :
    ((here days).renew now files e).1 =
      match (Root.new "" "" days .ecdsaP256 now e).1 with
      | .error err => (.error err, files)
      | .ok root => (here days).write root files := by
  have hcomponents : FileTree.components "" = [] := by decide +kernel
  have hdirectory : files.makeDirectory (here days).directory = .ok files := by
    rw [FileTree.makeDirectory, here, hcomponents]
    rfl
  rw [renew, hdirectory]
  simp only [bind_apply, here]
  cases (Root.new "" "" days .ecdsaP256 now e).1 <;> rfl

/-- A renewal that makes no root leaves the pair as it is, and it is read again. -/
theorem matched_of_history_here : ∃ root,
    ((here 0).call oneFiles (.ensure 0) ⟨[], 0⟩).1 = (.ok root, oneFiles) ∧ root.Matched := by
  obtain ⟨root, hread⟩ := ofPem_oneRoot
  have hcall := ensure_here 0 node?_certificate node?_key hread 0 ⟨[], 0⟩
  -- a root for no days is refused before a file is touched, so the history stays settled
  obtain ⟨reason, hnew⟩ : ∃ reason,
      (Root.new "" "" 0 .ecdsaP256 0 ⟨[], 0⟩).1 = .error (.generation reason) := ⟨_, rfl⟩
  have hrenew : ((here 0).call oneFiles (.renew 0) ⟨[], 0⟩).1 =
      (.error (.generation reason), oneFiles) := by
    rw [call, renew_here, hnew]
  have hhistory := (History.paired (paired_oneFiles 0)).call hrenew
  have hsettled : (here 0).settledAfter true oneFiles (.renew 0) (.error (.generation reason))
      oneFiles = true := by
    simp [settledAfter, tears]
  exact ⟨root, hcall, (matched_of_history (sized_here 0) hhistory hcall).1 root rfl (.inl hsettled)⟩

/-- A root that is made of these draws, and not of the key of above. -/
theorem new_here : ∃ made, (Root.new "" "" 1 .ecdsaP256 1000000 ⟨[], 0⟩).1 = .ok made ∧
    ((Certificate.ofBytes? made.bytes).bind fun c => c.subject.issuing?).isSome = true ∧
    made.key.publicInfo ≠ oneKey.publicInfo := by
  have hmade : (Root.new "" "" 1 .ecdsaP256 1000000 ⟨[], 0⟩).1.toOption.map (fun made =>
      ((Certificate.ofBytes? made.bytes).bind fun c => c.subject.issuing?).isSome &&
        decide (made.key.publicInfo ≠ oneKey.publicInfo)) = some true := by
    decide +kernel
  obtain ⟨made, hnew, hparts⟩ := exists_of_map_toOption hmade
  rw [Bool.and_eq_true] at hparts
  exact ⟨made, hnew, hparts.1, of_decide_eq_true hparts.2⟩

/-- A root is read. Renewing it fails at the key, and what is read then is no pair. -/
theorem torn_pair_read : ∃ old files' root,
    ((here 1).call oneFiles (.ensure 1000000) ⟨[], 0⟩).1 = (.ok old, oneFiles) ∧ old.Matched ∧
    ((here 1).call oneFiles (.renew 1000000) ⟨[], 0⟩).1 =
      (.error (.write "permission denied"), files') ∧
    ((here 1).call files' (.ensure 1000000) ⟨[], 0⟩).1 = (.ok root, files') ∧ ¬root.Matched := by
  obtain ⟨old, hold⟩ := ofPem_oneRoot
  obtain ⟨made, hnew, hparts, hne⟩ := new_here
  have hmade := Root.made_of_new 1 .ecdsaP256 1000000
    (sized_here 1).commonName (sized_here 1).organization ⟨[], 0⟩ made hnew
  -- the certificate is written, and the key is not
  let files' := oneFiles.put [".", "understudy-ca.crt"] (.file (Bytes.ofText made.pem) true)
  have hcertificate : files'.node? [".", "understudy-ca.crt"] =
      some (.file (Bytes.ofText made.pem) true) :=
    FileTree.node?_put_self (by simp [node?_certificate])
  have hkey : files'.node? [".", "understudy-ca.key"] =
      some (.file (Bytes.ofText oneRoot.keyPem) false) := by
    rw [FileTree.node?_put_of_ne (by decide), node?_key]
  have hwrite : (here 1).write made oneFiles = (.error (.write "permission denied"), files') := by
    have hfirst := FileTree.write_name isName_certificate node?_certificate (Bytes.ofText made.pem)
    have hsecond := FileTree.write_name isName_key hkey (Bytes.ofText made.keyPem)
    rw [if_pos rfl] at hfirst
    rw [if_neg (by decide)] at hsecond
    rw [write, certificatePath_here, keyPath_here, hfirst]
    simp only [files'] at hsecond ⊢
    rw [hsecond]
    rfl
  have hpem : Pem.certificate made.pem = .ok made.bytes := by
    rw [hmade.pem, Pem.certificate_write]
  obtain ⟨root, hread⟩ := exists_ofPem_oneRoot hpem hparts
  refine ⟨old, files', root, ensure_here 1 node?_certificate node?_key hold _ _,
    made_oneRoot.matched_of_ofPem hold, ?_, ensure_here 1 hcertificate hkey hread _ _, ?_⟩
  · rw [call, renew_here, hnew]
    exact hwrite
  · -- the two public parts that are read are those of two different keys
    intro hmatched
    refine hne ?_
    calc made.key.publicInfo = made.certificate.publicInfo := hmade.matched.symm
      _ = root.certificate.publicInfo := (hmade.publicInfo_certificate hread).symm
      _ = root.key.publicInfo := hmatched
      _ = oneRoot.key.publicInfo := made_oneRoot.publicInfo_key hread

end RootStore

end ReplayProxy
