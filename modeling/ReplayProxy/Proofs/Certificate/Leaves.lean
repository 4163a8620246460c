import ReplayProxy.Certificate.Issuance
import ReplayProxy.Proofs.Certificate.Issuing
import ReplayProxy.Proofs.Text.Letters

/-!
# The leaves that are kept

An issuance is called for one host after the other, and keeps what it issues. A run of calls
(`Issuance.Run`) comes with its history: which hosts were asked for, when, what came of it, and
whether something was drawn for it, which a new leaf needs and a kept one does not. Nothing is
assumed about the hosts, the times or the days, nor about what the library that secures
connections takes and what it refuses.

The invariant (`Issuance.Faithful`) ties what is kept to the history: under a host there is the
leaf that was issued last for it, in whatever spelling, and there is one exactly if some call for
it succeeded. Each call preserves it (`Issuance.Faithful.serve`), by the ways in which a call ends
(`Issuance.Serving`).

Main statements:

* `Issuance.serves_of_run`: what a call does after any run.
* `Issuance.leaves_of_refused`: a root whose key the library does not take, such as one that was
  read in another form than that of PKCS #8, never has a leaf.
-/

namespace ReplayProxy

namespace Issuance

/-! ### The ways in which a call ends -/

section Calls

variable {i : Issuance} {host : String} {now : Second} {e e' : Entropy} {leaf : Leaf}

/-- The ways in which a call ends. -/
inductive Serving (i : Issuance) (host : String) (now : Second) (e : Entropy) :
    (Except CertificateError Securing × Issuance) × Entropy → Prop
  /-- A leaf that is kept and has not expired is shown, and nothing else happens. -/
  | current {s : Securing} (hcurrent : i.current? (Ascii.lower host) now = some s) :
    Serving i host now e ((.ok s, i), e)
  /-- Otherwise one is issued, which may fail, -/
  | unissued {err : CertificateError} {e' : Entropy}
    (hcurrent : i.current? (Ascii.lower host) now = none)
    (hissue : i.root.issue (Ascii.lower host) i.days now e = (.error err, e')) :
    Serving i host now e ((.error err, i), e')
  /-- and which may not be taken, -/
  | refused {leaf : Leaf} {reason : String} {e' : Entropy}
    (hcurrent : i.current? (Ascii.lower host) now = none)
    (hissue : i.root.issue (Ascii.lower host) i.days now e = (.ok leaf, e'))
    (haccept : i.tls.accept leaf.chain leaf.key = .error reason) :
    Serving i host now e ((.error (.tls reason), i), e')
  /-- and is shown and kept if it is. -/
  | issued {leaf : Leaf} {e' : Entropy}
    (hcurrent : i.current? (Ascii.lower host) now = none)
    (hissue : i.root.issue (Ascii.lower host) i.days now e = (.ok leaf, e'))
    (haccept : i.tls.accept leaf.chain leaf.key = .ok ()) :
    Serving i host now e
      ((.ok (.withLeaf leaf),
        { i with leaves := i.leaves.insert (Ascii.lower host) ⟨.withLeaf leaf, leaf.notAfter⟩ }),
        e')

theorem ofLeaf_of_accept {tls : Tls} (h : tls.accept leaf.chain leaf.key = .ok ()) :
    Securing.ofLeaf tls leaf = .ok (.withLeaf leaf) := by
  simp only [Securing.ofLeaf, h]

theorem ofLeaf_of_refuse {tls : Tls} {reason : String}
    (h : tls.accept leaf.chain leaf.key = .error reason) :
    Securing.ofLeaf tls leaf = .error (.tls reason) := by
  simp only [Securing.ofLeaf, h]

theorem serve_serving (i : Issuance) (host : String) (now : Second) (e : Entropy) :
    Serving i host now e (i.serve host now e) := by
  simp only [serve]
  cases hcurrent : i.current? (Ascii.lower host) now with
  | some s => exact .current hcurrent
  | none =>
    simp only [bind_apply]
    -- nothing is kept, so a leaf is issued and then shown to the library
    cases hissue : i.root.issue (Ascii.lower host) i.days now e with
    | mk result e' =>
      cases result with
      | error err => exact .unissued hcurrent hissue
      | ok leaf =>
        cases haccept : i.tls.accept leaf.chain leaf.key with
        | error reason =>
          simp only [ofLeaf_of_refuse haccept]
          exact .refused hcurrent hissue haccept
        | ok u =>
          simp only [ofLeaf_of_accept haccept]
          exact .issued hcurrent hissue haccept

theorem serve_of_current {s : Securing} (h : i.current? (Ascii.lower host) now = some s) :
    i.serve host now e = ((.ok s, i), e) := by
  simp only [serve, h]
  rfl

/-- Where no leaf is kept, what is shown is what is issued, if it is taken. -/
theorem serve_of_none (h : i.current? (Ascii.lower host) now = none) :
    (i.serve host now e).1.1 =
        ((i.root.issue (Ascii.lower host) i.days now e).1 >>= Securing.ofLeaf i.tls) ∧
      (i.serve host now e).2 = (i.root.issue (Ascii.lower host) i.days now e).2 := by
  have hserving := serve_serving i host now e
  generalize i.serve host now e = result at hserving ⊢
  -- no leaf is kept, so one of the other three ways is taken
  cases hserving with
  | current hcurrent => cases h.symm.trans hcurrent
  | unissued _ hissue =>
    rw [hissue]
    exact ⟨rfl, rfl⟩
  | refused _ hissue haccept =>
    rw [hissue]
    exact ⟨(ofLeaf_of_refuse haccept).symm, rfl⟩
  | issued _ hissue haccept =>
    rw [hissue]
    exact ⟨(ofLeaf_of_accept haccept).symm, rfl⟩

/-- A call that fails changes nothing that is kept. -/
theorem leaves_of_serve_error {err : CertificateError} (h : (i.serve host now e).1.1 = .error err) :
    (i.serve host now e).1.2 = i := by
  have hserving := serve_serving i host now e
  generalize i.serve host now e = result at hserving h ⊢
  -- only a leaf that is shown is kept
  cases hserving with
  | current => cases h
  | unissued | refused => rfl
  | issued => cases h

/-- What the library refuses has not overflowed. -/
theorem ofLeaf_ne_overflow (tls : Tls) (leaf : Leaf) :
    Securing.ofLeaf tls leaf ≠ .error .overflow := by
  unfold Securing.ofLeaf
  split
  · nofun
  · nofun

/-- So only to issue a leaf does. -/
theorem serve_of_overflow (h : (i.serve host now e).1.1 = .error .overflow) :
    (i.root.issue (Ascii.lower host) i.days now e).1 = .error .overflow := by
  cases hcurrent : i.current? (Ascii.lower host) now with
  | some s =>
    rw [serve_of_current hcurrent] at h
    cases h
  | none =>
    rw [(serve_of_none hcurrent).1] at h
    -- the leaf is issued first and shown to the library afterwards
    rcases bind_eq_error_iff.1 h with hissue | ⟨leaf, -, hrefuse⟩
    · exact hissue
    · exact absurd hrefuse (ofLeaf_ne_overflow _ _)

/-- A call that fails is answered by refusing, unless something overflowed. -/
theorem serveOrRefuse_of_error {err : CertificateError}
    (h : (i.serve host now e).1.1 = .error err) :
    i.serveOrRefuse host now e =
      ((if err = .overflow then .error .overflow else .ok .refusing, i),
        (i.serve host now e).2) := by
  have hsame := leaves_of_serve_error h
  simp only [serveOrRefuse, bind_apply]
  -- only the outcome of the call and what it left matter from here on
  generalize i.serve host now e = result at h hsame ⊢
  obtain ⟨⟨outcome, i'⟩, e'⟩ := result
  cases h
  cases hsame
  cases err <;> rfl

end Calls

/-! ### Runs -/

/-- A call for a host, and what came of it. -/
structure Served where
  host : String
  now : Second
  outcome : Except CertificateError Securing
  /-- Whether something was drawn for it. -/
  drew : Bool

/-- What a call comes to. -/
def call (i : Issuance) (e : Entropy) (host : String) (now : Second) : Served :=
  let result := i.serve host now e
  { host, now, outcome := result.1.1, drew := decide (e.drawn < result.2.drawn) }

/-- The leaf that a call issued for a host, in any spelling. -/
def Served.issued? (s : Served) (host : String) : Option IssuedLeaf :=
  if Ascii.lower s.host = Ascii.lower host ∧ s.drew = true then
    match s.outcome with
    | .ok securing => securing.leaf.map fun leaf => ⟨securing, leaf.notAfter⟩
    | .error _ => none
  else none

/-- The leaf that was issued last for a host. -/
def lastIssued? (history : List Served) (host : String) : Option IssuedLeaf :=
  history.findSome? (·.issued? host)

/-- A run of calls, from an issuance that has issued nothing. The last call comes first. -/
inductive Run (root : Root) (days : Int) (tls : Tls) : List Served → Issuance → Entropy → Prop
  | start (e : Entropy) : Run root days tls [] { root, days, tls } e
  | serve {history : List Served} {i : Issuance} {e : Entropy} (h : Run root days tls history i e)
    (host : String) (now : Second) :
    Run root days tls (i.call e host now :: history) (i.serve host now e).1.2
      (i.serve host now e).2

/-- A leaf that may be shown for a host: one that the root issued for it, and that the library
takes. -/
def Showable (root : Root) (days : Int) (tls : Tls) (host : String) (leaf : Leaf) : Prop :=
  leaf.IssuedFor root days host ∧ tls.accept leaf.chain leaf.key = .ok ()

/-- What is kept is what was issued, by what is known of all calls. -/
structure Faithful (root : Root) (days : Int) (tls : Tls) (history : List Served)
    (i : Issuance) : Prop where
  ofRoot : i.root = root
  forDays : i.days = days
  byTls : i.tls = tls
  /-- Under a host is the leaf that was issued last for it. -/
  last : ∀ host, i.leaves[Ascii.lower host]? = lastIssued? history host
  /-- There is one exactly if a call for the host succeeded. -/
  hosts : ∀ key, key ∈ i.leaves ↔ ∃ s ∈ history, Ascii.lower s.host = key ∧ s.outcome.isOk = true
  /-- What is kept is shown with its leaf, and that is one for the host. -/
  genuine : ∀ key l, i.leaves[key]? = some l →
    ∃ leaf : Leaf, l = ⟨.withLeaf leaf, leaf.notAfter⟩ ∧ Showable root days tls key leaf

namespace Faithful

variable {root : Root} {days : Int} {tls : Tls} {history : List Served} {i : Issuance}

theorem start (root : Root) (days : Int) (tls : Tls) :
    Faithful root days tls [] { root, days, tls } where
  ofRoot := rfl
  forDays := rfl
  byTls := rfl
  last host := by simp [lastIssued?]
  hosts key := by simp
  genuine key l h := by simp at h

/-- What is shown again is what was issued last for the host and has not expired. -/
theorem current?_eq (h : Faithful root days tls history i) (host : String) (now : Second) :
    i.current? (Ascii.lower host) now =
      (lastIssued? history host).bind fun l =>
        if now < l.expires then some l.securing else none := by
  rw [Issuance.current?, h.last]
  cases lastIssued? history host <;> rfl

/-- After a call that issues nothing, a host was issued the same leaf last. -/
theorem lastIssued?_cons_of_none {s : Served} {host : String} (h : s.issued? host = none)
    (history : List Served) : lastIssued? (s :: history) host = lastIssued? history host := by
  rw [lastIssued?, List.findSome?_cons, h]
  rfl

/-- A call that issues nothing, and succeeds only for a host that has a leaf, changes nothing. -/
theorem unissued (h : Faithful root days tls history i) {s : Served}
    (hnone : ∀ host, s.issued? host = none)
    (hkept : s.outcome.isOk = true → Ascii.lower s.host ∈ i.leaves) :
    Faithful root days tls (s :: history) i := by
  -- the root, the days and the library are those of the run
  refine { h with last := fun host => ?_, hosts := fun key => ?_ }
  · rw [lastIssued?_cons_of_none (hnone host), h.last]
  · simp only [List.mem_cons, exists_eq_or_imp, ← h.hosts]
    exact ⟨.inr, fun hkey => hkey.elim (fun hkey => hkey.1 ▸ hkept hkey.2) id⟩

/-- A call that fails issues nothing. -/
theorem failed (h : Faithful root days tls history i) (host : String) (now : Second)
    (err : CertificateError) (drew : Bool) :
    Faithful root days tls (⟨host, now, .error err, drew⟩ :: history) i :=
  h.unissued (fun _ => ite_self none) fun hok => absurd hok Bool.false_ne_true

/-- A leaf that is issued takes the place of the host's. -/
theorem issued (h : Faithful root days tls history i) {host : String} {leaf : Leaf}
    (hleaf : Showable root days tls (Ascii.lower host) leaf) (now : Second) :
    Faithful root days tls (⟨host, now, .ok (.withLeaf leaf), true⟩ :: history)
      { i with
        leaves := i.leaves.insert (Ascii.lower host) ⟨.withLeaf leaf, leaf.notAfter⟩ } where
  ofRoot := h.ofRoot
  forDays := h.forDays
  byTls := h.byTls
  last host' := by
    show (i.leaves.insert (Ascii.lower host) _)[Ascii.lower host']? = _
    simp only [Std.ExtTreeMap.getElem?_insert, Std.compare_eq_iff_eq, h.last]
    -- under the host of the call its leaf is the last one, under others nothing has changed
    by_cases hsame : Ascii.lower host = Ascii.lower host'
    · rw [if_pos hsame, lastIssued?, List.findSome?_cons, Served.issued?, if_pos ⟨hsame, rfl⟩]
      rfl
    · rw [if_neg hsame, lastIssued?_cons_of_none (if_neg fun hdrew => hsame hdrew.1)]
  hosts key := by
    show key ∈ i.leaves.insert (Ascii.lower host) _ ↔ _
    simp only [Std.ExtTreeMap.mem_insert, Std.compare_eq_iff_eq, List.mem_cons, exists_eq_or_imp,
      ← h.hosts]
    exact or_congr_left ⟨fun hkey => ⟨hkey, rfl⟩, And.left⟩
  genuine key l hl := by
    change (i.leaves.insert (Ascii.lower host) _)[key]? = some l at hl
    simp only [Std.ExtTreeMap.getElem?_insert, Std.compare_eq_iff_eq] at hl
    split at hl
    · next hkey =>
      obtain rfl := hkey
      exact ⟨leaf, (Option.some.inj hl).symm, hleaf⟩
    · exact h.genuine key l hl

/-- What an issuance issues is what its root issues for its days. -/
theorem showable (h : Faithful root days tls history i) {host : String} {now : Second}
    {e e' : Entropy} {leaf : Leaf} (hissue : i.root.issue host i.days now e = (.ok leaf, e'))
    (haccept : i.tls.accept leaf.chain leaf.key = .ok ()) :
    Showable root days tls host leaf ∧ now < leaf.notAfter := by
  rw [h.ofRoot, h.forDays] at hissue
  rw [h.byTls] at haccept
  obtain ⟨hleaf, -, hunexpired⟩ := Root.issuedFor_of_issue hissue
  exact ⟨⟨hleaf, haccept⟩, hunexpired⟩

/-- **One call.** What is kept stays faithful to the history. -/
theorem serve (h : Faithful root days tls history i) (host : String) (now : Second) (e : Entropy) :
    Faithful root days tls (i.call e host now :: history) (i.serve host now e).1.2 := by
  have hserving := serve_serving i host now e
  unfold call
  generalize i.serve host now e = result at hserving ⊢
  cases hserving with
  | current hcurrent =>
    -- nothing is drawn, so nothing was issued; and the host had a leaf before
    refine h.unissued (fun _ => if_neg fun hdrew => ?_) fun _ => ?_
    · exact absurd (of_decide_eq_true hdrew.2) (Nat.lt_irrefl _)
    · show Ascii.lower host ∈ i.leaves
      rw [Std.ExtTreeMap.mem_iff_isSome_getElem?]
      cases hleaf : i.leaves[Ascii.lower host]? with
      | some l => rfl
      | none => simp [Issuance.current?, hleaf] at hcurrent
  | unissued | refused => exact h.failed host now _ _
  | issued _ hissue haccept =>
    -- something was drawn, so the leaf is one that this call issued
    have hdrawn := i.root.drawn_lt_issue (Ascii.lower host) i.days now e
    rw [hissue] at hdrawn
    simp only [decide_eq_true hdrawn]
    exact h.issued (h.showable hissue haccept).1 now

end Faithful

variable {root : Root} {days : Int} {tls : Tls} {history : List Served} {i : Issuance}
  {e : Entropy}

/-- What is kept after a run is faithful to its history. -/
theorem Run.faithful (h : Run root days tls history i e) : Faithful root days tls history i := by
  induction h with
  | start e => exact .start root days tls
  | serve _ host now ih => exact ih.serve host now _

/-! ### What a call does -/

/-- What a call for a host may do after a run with a history. -/
structure Serves (root : Root) (days : Int) (tls : Tls) (history : List Served) (i : Issuance)
    (e : Entropy) (host : String) (now : Second) : Prop where
  /-- The hosts with a leaf are those, in small letters, for which a call succeeded. -/
  hosts : ∀ key, key ∈ i.leaves ↔ ∃ s ∈ history, Ascii.lower s.host = key ∧ s.outcome.isOk = true
  /-- Until it expires, the leaf that was issued last for the host is shown again. Nothing is
  drawn for it, and nothing changes. -/
  reused : ∀ l, lastIssued? history host = some l → now < l.expires →
    i.serve host now e = ((.ok l.securing, i), e)
  /-- Otherwise the root issues a leaf, which is drawn for, and which is shown and kept if the
  library takes it. -/
  renewed : (∀ l, lastIssued? history host = some l → l.expires ≤ now) →
    e.drawn < (i.serve host now e).2.drawn ∧
      (i.serve host now e).1.1 =
        ((root.issue (Ascii.lower host) days now e).1 >>= Securing.ofLeaf tls) ∧
      ∀ leaf, (root.issue (Ascii.lower host) days now e).1 = .ok leaf →
        tls.accept leaf.chain leaf.key = .ok () →
        (i.serve host now e).1.2 =
          { i with leaves := i.leaves.insert (Ascii.lower host) ⟨.withLeaf leaf, leaf.notAfter⟩ }
  /-- What is shown is a leaf that was issued for the host, that the library takes, and that has
  not expired. -/
  shown : ∀ s, (i.serve host now e).1.1 = .ok s →
    ∃ leaf : Leaf, s = .withLeaf leaf ∧ Showable root days tls (Ascii.lower host) leaf ∧
      now < leaf.notAfter
  /-- A call that fails changes nothing that is kept, and the connection is refused unless
  something overflowed. -/
  failed : ∀ err, (i.serve host now e).1.1 = .error err →
    (i.serve host now e).1.2 = i ∧
      (i.serveOrRefuse host now e).1 =
        (if err = .overflow then .error .overflow else .ok .refusing, i)
  /-- With a clock that stands after 1970, nothing overflows but the end of the validity. -/
  bounded : 0 ≤ now → (i.serve host now e).1.1 = .error .overflow →
    Validity.latest < now + days * daySeconds

/-- What is shown has been kept or has just been issued. -/
theorem Faithful.shown (h : Faithful root days tls history i) {host : String} {now : Second}
    {s : Securing} (hs : (i.serve host now e).1.1 = .ok s) :
    ∃ leaf : Leaf, s = .withLeaf leaf ∧ Showable root days tls (Ascii.lower host) leaf ∧
      now < leaf.notAfter := by
  have hserving := serve_serving i host now e
  generalize i.serve host now e = result at hserving hs
  cases hserving with
  | current hcurrent =>
    -- a leaf that is kept was issued for the host, and its time has just been compared
    obtain rfl := Except.ok.inj hs
    rw [h.current?_eq, Option.bind_eq_some_iff] at hcurrent
    obtain ⟨l, hl, hnow⟩ := hcurrent
    obtain ⟨leaf, rfl, hleaf⟩ := h.genuine _ l ((h.last host).trans hl)
    split at hnow
    · next hunexpired => exact ⟨leaf, (Option.some.inj hnow).symm, hleaf, hunexpired⟩
    · cases hnow
  | unissued | refused => cases hs
  | issued _ hissue haccept =>
    obtain ⟨hleaf, hunexpired⟩ := h.showable hissue haccept
    exact ⟨_, (Except.ok.inj hs).symm, hleaf, hunexpired⟩

/-- What is issued and taken is kept under its host. -/
theorem leaves_of_issue {host : String} {now : Second}
    (hcurrent : i.current? (Ascii.lower host) now = none) {leaf : Leaf}
    (hissue : (i.root.issue (Ascii.lower host) i.days now e).1 = .ok leaf)
    (haccept : i.tls.accept leaf.chain leaf.key = .ok ()) :
    (i.serve host now e).1.2 =
      { i with leaves := i.leaves.insert (Ascii.lower host) ⟨.withLeaf leaf, leaf.notAfter⟩ } := by
  have hserving := serve_serving i host now e
  generalize i.serve host now e = result at hserving ⊢
  -- the other three ends have another look-up, issue or acceptance
  cases hserving with
  | current hcurrent' => cases hcurrent.symm.trans hcurrent'
  | unissued _ hissue' =>
    rw [hissue'] at hissue
    cases hissue
  | refused _ hissue' hrefuse =>
    rw [hissue'] at hissue
    cases hissue
    cases haccept.symm.trans hrefuse
  | issued _ hissue' _ =>
    rw [hissue'] at hissue
    cases hissue
    rfl

/-- **The leaves that are kept.** After any run of calls, for any hosts and at any times, a call
shows the leaf that was issued last for the host, in any spelling, until it expires, and has
another one issued then. -/
theorem serves_of_run (h : Run root days tls history i e) (host : String) (now : Second) :
    Serves root days tls history i e host now := by
  have hfaithful := h.faithful
  have hcurrent := hfaithful.current?_eq host now
  refine
    { hosts := hfaithful.hosts
      reused := fun l hl hnow => ?_
      renewed := fun hexpired => ?_
      shown := fun s hs => hfaithful.shown hs
      failed := fun err herr => ?_
      bounded := fun hnow hover => ?_ }
  · rw [hl, Option.bind_some, if_pos hnow] at hcurrent
    exact serve_of_current hcurrent
  · -- the leaf that is kept, if there is one, is of no use any more
    have hnone : i.current? (Ascii.lower host) now = none := by
      rw [hcurrent, Option.bind_eq_none_iff]
      exact fun l hl => if_neg (Int.not_lt.2 (hexpired l hl))
    obtain ⟨hresult, hentropy⟩ := serve_of_none (e := e) hnone
    rw [hentropy, hresult, ← hfaithful.ofRoot, ← hfaithful.forDays, ← hfaithful.byTls]
    exact ⟨i.root.drawn_lt_issue _ _ now e, rfl, fun leaf => leaves_of_issue hnone⟩
  · rw [serveOrRefuse_of_error herr]
    exact ⟨leaves_of_serve_error herr, rfl⟩
  · -- only issuing can overflow; the library has no error of this kind
    have hissue := serve_of_overflow hover
    rw [hfaithful.ofRoot, hfaithful.forDays] at hissue
    exact Root.latest_lt_of_overflow hnow (Prod.ext hissue rfl)

/-- Where the library does not take the key of a root, nothing is ever kept. -/
theorem leaves_of_refused (h : Run root days tls history i e)
    (hrefuse : ∀ chain, tls.accept chain root.keyBytes ≠ .ok ()) : i.leaves = ∅ := by
  refine Std.ExtTreeMap.ext_getElem? fun key => ?_
  cases hl : i.leaves[key]? with
  | none => simp
  | some l =>
    -- a leaf that is kept was taken, and its key is that of the root
    obtain ⟨leaf, -, hleaf, haccept⟩ := h.faithful.genuine key l hl
    rw [hleaf.key] at haccept
    exact absurd haccept (hrefuse leaf.chain)

/-- The key with the two greatest primes below `2 ^ 1024`. -/
def greatKey : PrivateKey :=
  let p := Nat.pow 2 1024 - 105
  let q := Nat.pow 2 1024 - 179
  .rsa (p * q) 65537 ((54058 * ((p - 1) * (q - 1)) + 1) / 65537) p q

/-- A root of that key that states little else. -/
def greatRoot : Root where
  key := greatKey
  certificate :=
    { serial := [1], issuer := ⟨[]⟩, validity := ⟨0, 86400⟩, subject := ⟨[]⟩, publicInfo := [] }
  bytes := []
  pem := ""
  organization := ""
  issuer := ⟨[]⟩
  keyId := []

/-- A leaf that was issued for `a` at the beginning, for one day, is shown for `A` in the last
second of that day. -/
theorem serves_of_run_spelled :
    let i : Issuance := { root := greatRoot, days := 1 }
    let first := i.serve "a" 0 ⟨[], 0⟩
    let history := [i.call ⟨[], 0⟩ "a" 0]
    Run greatRoot 1 .readingKeys history first.1.2 first.2 ∧
      Serves greatRoot 1 .readingKeys history first.1.2 first.2 "A" 86399 ∧
      ∃ s, first.1.2.serve "A" 86399 first.2 = ((.ok s, first.1.2), first.2) := by
  intro i first history
  have hrun : Run greatRoot 1 .readingKeys history first.1.2 first.2 :=
    .serve (.start ⟨[], 0⟩) "a" 0
  have hserves := serves_of_run hrun "A" 86399
  -- the two spellings share the leaf, which expires when the day is over
  have hlast : (lastIssued? history "A").map IssuedLeaf.expires = some 86400 := by
    decide +kernel
  obtain ⟨l, hl, hexpires⟩ := Option.map_eq_some_iff.1 hlast
  exact ⟨hrun, hserves, l.securing, hserves.reused l hl (by rw [hexpires]; decide)⟩

/-- With the greatest number of days there is an overflow, which is not answered by refusing. -/
theorem overflow_not_refused :
    let i : Issuance := { root := greatRoot, days := 9223372036854775807 }
    Run greatRoot i.days .readingKeys [] i ⟨[], 0⟩ ∧ 1 ≤ i.days ∧
      (i.serve "a.test" 0 ⟨[], 0⟩).1.1 = .error .overflow ∧
      (i.serveOrRefuse "a.test" 0 ⟨[], 0⟩).1.1 ≠ .ok .refusing := by
  intro i
  -- the days alone are more than a span of time can be
  have hspan : Validity.span i.days = .error .overflow := by
    unfold Validity.span
    rw [if_neg (by decide), if_pos (by decide)]
  have hissue : (greatRoot.issue (Ascii.lower "a.test") i.days 0 ⟨[], 0⟩).1 =
      .error .overflow := by
    simp only [Root.issue, bind_apply, Root.leafFor_eq, hspan, error_bind]
    rfl
  have hserve : (i.serve "a.test" 0 ⟨[], 0⟩).1.1 = .error .overflow := by
    rw [(serve_of_none rfl).1]
    simp only [i, hissue, error_bind]
  refine ⟨.start _, by decide, hserve, ?_⟩
  rw [serveOrRefuse_of_error hserve, if_pos rfl]
  exact fun h => by cases h

end Issuance

end ReplayProxy
