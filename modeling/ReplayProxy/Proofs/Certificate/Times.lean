import ReplayProxy.Certificate.Issuance
import ReplayProxy.Proofs.Certificate.Leaves

/-!
# The times of certificates

Days pass through four ranges before they end up in a certificate: that of spans
(`Validity.greatestSpan`), that of times that are computed with (from `Validity.earliest` to
`Validity.latest`), that of times that certificates can name (from `Validity.firstNameable` to
`Validity.lastNameable`) and that of times that can be written (from `Validity.firstWritable` on).
Only the third is checked for; to leave one of the others is an overflow.

A clock that stands between 1970 and the year 9999 is in all of these ranges. From there, spans
leave them in a fixed order, so each of the two ways to compute a validity comes down to a few
comparisons (`Validity.since_eq`, `Validity.around_eq`), and what is stated about a leaf to a few
more (`Root.leafFor_eq_ite`).

Main statement: `Validity.bounds_of_days`.
-/

namespace ReplayProxy

namespace Date

/-- The year within an era, which has 400 of them, by the day within it. The last year begins with
the day 145731. -/
theorem yearInEra_bounds {day : Int} (h : 0 ≤ day) (h' : day < 146097) :
    0 ≤ (day - day / 1460 + day / 36524 - day / 146096) / 365 ∧
      (day - day / 1460 + day / 36524 - day / 146096) / 365 ≤ 399 ∧
      (399 ≤ (day - day / 1460 + day / 36524 - day / 146096) / 365 ↔ 145731 ≤ day) := by
  omega

/-- In the last year of an era, January begins with the day 146037. -/
theorem month_lt_iff {day year : Int} (h : year = 399) :
    (5 * (day - (365 * year + year / 4 - year / 100)) + 2) / 153 < 10 ↔ day < 146037 := by
  subst h
  omega

/-- The years from the year 0 on begin with the first of January, which still lies in the last year
of the era before. -/
theorem year_ofDay_nonneg_iff {day : Int} : 0 ≤ (ofDay day).year ↔ -719528 ≤ day := by
  have hite : ∀ (p : Prop) [Decidable p] (year : Int), (p → (0 ≤ year ↔ -719528 ≤ day)) →
      (¬p → (0 ≤ year + 1 ↔ -719528 ≤ day)) →
      ((0 ≤ if p then year else year + 1) ↔ -719528 ≤ day) := by
    intro p _ year hthen helse
    split
    · next hp => exact hthen hp
    · next hp => exact helse hp
  -- the era of the day, and the day within it
  have hday : day + 719468 = (day + 719468) / 146097 * 146097 + (day + 719468) % 146097 := by omega
  have hera : 0 ≤ (day + 719468) % 146097 ∧ (day + 719468) % 146097 < 146097 := by omega
  have hyear := yearInEra_bounds hera.1 hera.2
  have hmonth := fun year => @month_lt_iff ((day + 719468) % 146097) year
  simp only [ofDay, epoch, eraDays]
  refine hite _ _ (fun h => ?_) (fun h => ?_)
  · have hbefore := fun hlast => (hmonth _ hlast).1 h
    clear h hmonth hite
    omega
  · have hfrom := fun hlast => mt (hmonth _ hlast).2 h
    clear h hmonth hite
    omega

end Date

namespace Validity

variable {days now time n : Int}

/-- The first second of the year 0. -/
def firstWritable : Second := -62167219200

/-- What is said of a time that certificates cannot name. -/
def unnameable : CertificateError := .generation "timestamp was not in range"

/-- What is said of less than a day. -/
def tooShort (days : Int) : CertificateError :=
  .generation ("validity must be at least one day, got " ++ toString days)

theorem isWritable_iff : isWritable time = true ↔ firstWritable ≤ time := by
  have hseconds : -719528 ≤ time / daySeconds ↔ -719528 * daySeconds ≤ time :=
    Int.le_ediv_iff_mul_le (by decide)
  rw [isWritable, decide_eq_true_eq, Date.year_ofDay_nonneg_iff, hseconds]
  rfl

/-! ### Steps -/

theorem span_of_lt (h : days < 1) : span days = .error (tooShort days) := if_pos h

theorem span_of_one_le (h : 1 ≤ days) :
    span days =
      if greatestSpan < days * daySeconds then .error .overflow else .ok (days * daySeconds) :=
  if_neg (Int.not_lt.2 h)

theorem later_of_mem (h : earliest ≤ time + n) (h' : time + n ≤ latest) :
    later time n = .ok (time + n) := by
  refine if_neg ?_
  rw [Bool.or_eq_true, decide_eq_true_eq, decide_eq_true_eq, not_or]
  exact ⟨Int.not_lt.2 h, Int.not_lt.2 h'⟩

theorem later_of_not_mem (h : time + n < earliest ∨ latest < time + n) :
    later time n = .error .overflow := by
  refine if_pos ?_
  rw [Bool.or_eq_true, decide_eq_true_eq, decide_eq_true_eq]
  exact h

theorem nameable_of_mem (h : firstNameable ≤ time) (h' : time ≤ lastNameable) :
    nameable time = .ok time := by
  refine if_neg ?_
  rw [Bool.or_eq_true, decide_eq_true_eq, decide_eq_true_eq, not_or]
  exact ⟨Int.not_lt.2 h, Int.not_lt.2 h'⟩

theorem nameable_of_not_mem (h : time < firstNameable ∨ lastNameable < time) :
    nameable time = .error unnameable := by
  refine if_pos ?_
  rw [Bool.or_eq_true, decide_eq_true_eq, decide_eq_true_eq]
  exact h

/-! ### The two ways to compute a validity -/

/-- From a time that can be named on, the end is what counts: the further it lies, the sooner it is
found not to fit. -/
theorem since_eq (hfirst : firstNameable ≤ now) (hlast : now ≤ lastNameable) (hn : 0 ≤ n) :
    since now n =
      if latest < now + n then .error .overflow
      else if lastNameable < now + n then .error unnameable
      else .ok ⟨now, now + n⟩ := by
  have hbegin : firstNameable ≤ now + n := Int.le_trans hfirst (Int.le_add_of_nonneg_right hn)
  have hearliest : earliest ≤ now + n := Int.le_trans (by decide) hbegin
  -- the end is computed first, and only an end that there is can lack a name
  unfold since
  by_cases hlatest : latest < now + n
  · rw [if_pos hlatest, later_of_not_mem (.inr hlatest)]
    rfl
  · rw [if_neg hlatest, later_of_mem hearliest (Int.not_lt.1 hlatest), ok_bind,
      nameable_of_mem hfirst hlast, ok_bind]
    by_cases hend : lastNameable < now + n
    · rw [if_pos hend, nameable_of_not_mem (.inr hend)]
      rfl
    · rw [if_neg hend, nameable_of_mem hbegin (Int.not_lt.1 hend)]
      rfl

/-- Around a time, the beginning is looked at first. Where it can be named, the span is too short
for the end to overflow. -/
theorem around_eq (hnow : 0 ≤ now) (hlast : now ≤ lastNameable) (hn : 0 ≤ n) :
    around now n =
      if now - n < earliest then .error .overflow
      else if now - n < firstNameable ∨ lastNameable < now + n then .error unnameable
      else .ok ⟨now - n, now + n⟩ := by
  have hbefore : now + -n ≤ lastNameable := Int.le_trans (Int.sub_le_self now hn) hlast
  have hbefore' : now + -n ≤ latest := Int.le_trans hbefore (by decide)
  have hafter : 0 ≤ now + n := Int.add_nonneg hnow hn
  rw [Int.sub_eq_add_neg]
  unfold around
  -- the beginning is computed and named before the end, and may fail in both
  by_cases hearlier : now + -n < earliest
  · rw [if_pos hearlier, later_of_not_mem (.inl hearlier)]
    rfl
  · rw [if_neg hearlier, later_of_mem (Int.not_lt.1 hearlier) hbefore', ok_bind]
    by_cases hbegin : now + -n < firstNameable
    · rw [if_pos (.inl hbegin), nameable_of_not_mem (.inl hbegin)]
      rfl
    · -- the end is no further from the time than the beginning, which can be named
      have hlatest : now + n ≤ latest := calc now + n
        _ = now + now - (now + -n) := by omega
        _ ≤ lastNameable + lastNameable - firstNameable := by omega
        _ ≤ latest := by decide
      rw [nameable_of_mem (Int.not_lt.1 hbegin) hbefore, ok_bind,
        later_of_mem (Int.le_trans (by decide) hafter) hlatest, ok_bind]
      by_cases hend : lastNameable < now + n
      · rw [if_pos (.inr hend), nameable_of_not_mem (.inr hend)]
        rfl
      · rw [if_neg (not_or.2 ⟨hbegin, hend⟩),
          nameable_of_mem (Int.le_trans (by decide) hafter) (Int.not_lt.1 hend)]
        rfl

end Validity

/-- What is signed is what can be written. -/
theorem Certificate.signed_eq_overflow_iff {c : Certificate} {key : PrivateKey} {e : Entropy} :
    (c.signed key e).1 = .error .overflow ↔
      Validity.isWritable c.validity.notBefore = false ∨
        Validity.isWritable c.validity.notAfter = false := by
  -- times are written before the key is asked, and a key that fails gives another error
  unfold signed
  split
  · next hnot =>
    refine iff_of_true rfl ?_
    simpa using hnot
  · next hwritable =>
    refine iff_of_false ?_ ?_
    · rw [bind_apply]
      cases (key.sign (c.body key.signatureKind) e).1 with
      | none => simp [pure_apply]
      | some signature => simp [pure_apply]
    · simpa using hwritable

namespace Root

open Validity

variable {r : Root} {commonName organization given : String} {days now n : Int}
  {algorithm : KeyAlgorithm} {e : Entropy} {err : CertificateError}

/-! ### Leaves -/

/-- The end of the validity of a leaf cannot be computed with. For a host that cannot be named, this
is found out only if it holds of the days alone. -/
def LeafOverflows (given : String) (days now : Int) : Prop :=
  greatestSpan < days * daySeconds ∨
    (hostOf (Blank.trim given)).isEmpty = false ∧ Nameable (hostOf (Blank.trim given)) ∧
      latest < now + days * daySeconds

/-- What a leaf states, by all that may be in its way. -/
theorem leafFor_eq_ite (hdays : 1 ≤ days) (hfirst : firstNameable ≤ now)
    (hlast : now ≤ lastNameable) (serial : Bytes) :
    r.leafFor given days now serial =
      if greatestSpan < days * daySeconds then .error .overflow
      else if (hostOf (Blank.trim given)).isEmpty then .error (.generation "empty hostname")
      else if ¬Nameable (hostOf (Blank.trim given)) then
        .error (.generation ("invalid hostname: " ++ hostOf (Blank.trim given)))
      else if latest < now + days * daySeconds then .error .overflow
      else if lastNameable < now + days * daySeconds then .error unnameable
      else .ok (r.leafNaming (hostOf (Blank.trim given)) (nameOf (hostOf (Blank.trim given)))
        ⟨now, now + days * daySeconds⟩ serial) := by
  have hspan : 0 ≤ days * daySeconds := Int.mul_nonneg (by omega) (by decide)
  rw [leafFor_eq, span_of_one_le hdays]
  -- the span, the host, its name and the two ends are looked at in this order
  split
  · rfl
  · rw [ok_bind]
    split
    · rfl
    · rw [alternativeName_eq, ite_not]
      split
      · rw [ok_bind, since_eq hfirst hlast hspan]
        split
        · rfl
        · split <;> rfl
      · rfl

/-- Where the end can be named, it only matters whether the host can. -/
theorem leafFor_of_le_lastNameable (hdays : 1 ≤ days) (hfirst : firstNameable ≤ now)
    (hend : now + days * daySeconds ≤ lastNameable)
    (hempty : (hostOf (Blank.trim given)).isEmpty = false) (serial : Bytes) :
    r.leafFor given days now serial =
      if Nameable (hostOf (Blank.trim given)) then
        .ok (r.leafNaming (hostOf (Blank.trim given)) (nameOf (hostOf (Blank.trim given)))
          ⟨now, now + days * daySeconds⟩ serial)
      else .error (.generation ("invalid hostname: " ++ hostOf (Blank.trim given))) := by
  have hspan : 0 ≤ days * daySeconds := Int.mul_nonneg (by omega) (by decide)
  have hlast : now ≤ lastNameable := Int.le_trans (Int.le_add_of_nonneg_right hspan) hend
  -- an end with a name is so near that no step before it can overflow
  have hgreatest : days * daySeconds ≤ greatestSpan := calc days * daySeconds
    _ = now + days * daySeconds - now := by omega
    _ ≤ lastNameable - firstNameable := Int.sub_le_sub hend hfirst
    _ ≤ greatestSpan := by decide
  have hlatest : now + days * daySeconds ≤ latest := Int.le_trans hend (by decide)
  rw [leafFor_eq_ite hdays hfirst hlast, if_neg (Int.not_lt.2 hgreatest), hempty,
    if_neg Bool.false_ne_true, if_neg (Int.not_lt.2 hlatest), if_neg (Int.not_lt.2 hend), ite_not]

theorem leafFor_of_lt (hdays : days < 1) (serial : Bytes) :
    r.leafFor given days now serial = .error (tooShort days) := by
  rw [leafFor_eq, span_of_lt hdays, error_bind]

theorem leafFor_eq_overflow_iff (hnow : 0 ≤ now) (hlast : now ≤ lastNameable) (serial : Bytes) :
    r.leafFor given days now serial = .error .overflow ↔ LeafOverflows given days now := by
  by_cases hdays : 1 ≤ days
  · have hfirst : firstNameable ≤ now := Int.le_trans (by decide) hnow
    rw [leafFor_eq_ite hdays hfirst hlast, LeafOverflows]
    -- only the span and the end can overflow, and the host is looked at in between
    by_cases hspan : greatestSpan < days * daySeconds
    · simp [hspan]
    by_cases hempty : (hostOf (Blank.trim given)).isEmpty = true
    · simp [hspan, hempty]
    by_cases hname : Nameable (hostOf (Blank.trim given))
    · by_cases hlatest : latest < now + days * daySeconds
      · simp [hspan, hempty, hname, hlatest]
      · by_cases hend : lastNameable < now + days * daySeconds
        · simp [hspan, hempty, hname, hlatest, hend, unnameable]
        · simp [hspan, hempty, hname, hlatest, hend]
    · simp [hspan, hempty, hname]
  · -- less than a day is refused, and it would not overflow
    have hspan : days * daySeconds ≤ 0 := Int.mul_nonpos_of_nonpos_of_nonneg (by omega) (by decide)
    have hgreatest : ¬greatestSpan < days * daySeconds :=
      Int.not_lt.2 (Int.le_trans hspan (by decide))
    have hend : ¬latest < now + days * daySeconds := by
      refine Int.not_lt.2 ?_
      calc now + days * daySeconds ≤ now := by omega
        _ ≤ lastNameable := hlast
        _ ≤ latest := by decide
    rw [leafFor_of_lt (by omega)]
    refine iff_of_false (by simp [tooShort]) ?_
    rintro (h | ⟨-, -, h⟩)
    · exact hgreatest h
    · exact hend h

theorem issue_of_leafFor_error
    (h : r.leafFor given days now (drawSerial e).1 = .error err) :
    (r.issue given days now e).1 = .error err := by
  simp only [issue, bind_apply, h]
  rfl

/-- Once the leaf is stated, only its signature is missing. -/
theorem issue_of_leafFor_ok {c : Certificate}
    (h : r.leafFor given days now (drawSerial e).1 = .ok c) :
    (r.issue given days now e).1 =
      (c.signed r.key (drawSerial e).2).1.map fun bytes => ⟨c, [bytes, r.bytes], r.keyBytes⟩ := by
  simp only [issue, bind_apply, h]
  cases (c.signed r.key (drawSerial e).2).1 <;> rfl

theorem issue_eq_overflow_iff (hnow : 0 ≤ now) (hlast : now ≤ lastNameable) :
    (r.issue given days now e).1 = .error .overflow ↔ LeafOverflows given days now := by
  rw [← leafFor_eq_overflow_iff hnow hlast (drawSerial e).1 (r := r)]
  cases hleaf : r.leafFor given days now (drawSerial e).1 with
  | error err => rw [issue_of_leafFor_error hleaf, Except.error.injEq, Except.error.injEq]
  | ok c =>
    -- its times are not before 1970, so they can be written
    obtain ⟨hdays, name, -, rfl⟩ := leafFor_eq_ok hleaf
    have hend : 0 ≤ now + days * daySeconds :=
      Int.le_of_lt (Int.lt_of_le_of_lt hnow (lt_add_days hdays now))
    have hsigned : (Certificate.signed (r.leafNaming (hostOf (Blank.trim given)) name
        ⟨now, now + days * daySeconds⟩ (drawSerial e).1) r.key (drawSerial e).2).1 ≠
          .error .overflow := Certificate.signed_ne_overflow hnow hend r.key _
    rw [issue_of_leafFor_ok hleaf, except_map_eq_error_iff]
    exact iff_of_false hsigned nofun

/-- An end that can be computed with but not named is refused. -/
theorem issue_of_unnameable (hnow : 0 ≤ now) (hlast : now ≤ lastNameable) (hdays : 1 ≤ days)
    (hend : lastNameable < now + days * daySeconds) (hlatest : now + days * daySeconds ≤ latest)
    (hempty : (hostOf (Blank.trim given)).isEmpty = false)
    (hname : Nameable (hostOf (Blank.trim given))) :
    (r.issue given days now e).1 = .error unnameable := by
  have hfirst : firstNameable ≤ now := Int.le_trans (by decide) hnow
  have hgreatest : days * daySeconds ≤ greatestSpan := calc days * daySeconds
    _ ≤ now + days * daySeconds := Int.le_add_of_nonneg_left hnow
    _ ≤ latest := hlatest
    _ ≤ greatestSpan := by decide
  refine issue_of_leafFor_error ?_
  rw [leafFor_eq_ite hdays hfirst hlast, if_neg (Int.not_lt.2 hgreatest), hempty,
    if_neg Bool.false_ne_true, if_neg (fun h => h hname), if_neg (Int.not_lt.2 hlatest),
    if_pos hend]

/-! ### Roots -/

/-- The times of a root overflow on the days alone, or on their beginning: it cannot be computed
with, or it can be named but not written. -/
def RootOverflows (days now : Int) : Prop :=
  now - days * daySeconds < earliest ∨
    firstNameable ≤ now - days * daySeconds ∧ now - days * daySeconds < firstWritable ∧
      now + days * daySeconds ≤ lastNameable

/-- Before a key is made for a root, the days alone are looked at. -/
theorem new_of_span_error (h : span days = .error err) :
    (new commonName organization days algorithm now e).1 = .error err := by
  simp only [new, h]
  rfl

theorem new_of_no_key (h : span days = .ok n) (hkey : (PrivateKey.new algorithm e).1 = none) :
    (new commonName organization days algorithm now e).1 =
      .error (.generation "no key could be made") := by
  simp only [new, h, bind_apply, hkey]
  rfl

theorem new_of_around_error {key : PrivateKey} (h : span days = .ok n)
    (hkey : (PrivateKey.new algorithm e).1 = some key) (haround : around now n = .error err) :
    (new commonName organization days algorithm now e).1 = .error err := by
  simp only [new, h, bind_apply, hkey, haround]
  rfl

/-- Once the times of a root are known, only its signature can fail. -/
theorem new_of_around_ok {key : PrivateKey} {v : Validity} (h : span days = .ok n)
    (hkey : (PrivateKey.new algorithm e).1 = some key) (haround : around now n = .ok v) :
    (new commonName organization days algorithm now e).1 = .error err ↔
      ((statementFor commonName organization key v
        (drawSerial (PrivateKey.new algorithm e).2).1).signed key
          (drawSerial (PrivateKey.new algorithm e).2).2).1 = .error err := by
  simp only [new, h, bind_apply, hkey, haround]
  cases ((statementFor commonName organization key v
    (drawSerial (PrivateKey.new algorithm e).2).1).signed key
      (drawSerial (PrivateKey.new algorithm e).2).2).1 with
  | error err' => simp [pure_apply]
  | ok bytes => simp [pure_apply]

theorem new_eq_overflow_iff (hnow : 0 ≤ now) (hlast : now ≤ lastNameable) (hdays : 1 ≤ days) :
    (new commonName organization days algorithm now e).1 = .error .overflow ↔
      greatestSpan < days * daySeconds ∨
        (PrivateKey.new algorithm e).1.isSome = true ∧ RootOverflows days now := by
  have hspan : 0 ≤ days * daySeconds := Int.mul_nonneg (by omega) (by decide)
  have hspan' := span_of_one_le hdays
  by_cases hgreatest : greatestSpan < days * daySeconds
  · rw [if_pos hgreatest] at hspan'
    exact iff_of_true (new_of_span_error hspan') (.inl hgreatest)
  rw [if_neg hgreatest] at hspan'
  have haround := around_eq hnow hlast hspan
  -- without a key the times are not looked at
  cases hkey : (PrivateKey.new algorithm e).1 with
  | none =>
    rw [new_of_no_key hspan' hkey]
    exact iff_of_false nofun (by simp [hgreatest])
  | some key =>
    by_cases hearlier : now - days * daySeconds < earliest
    · rw [if_pos hearlier] at haround
      exact iff_of_true (new_of_around_error hspan' hkey haround) (.inr ⟨rfl, .inl hearlier⟩)
    rw [if_neg hearlier] at haround
    by_cases hnameable : now - days * daySeconds < firstNameable ∨
        lastNameable < now + days * daySeconds
    · rw [if_pos hnameable] at haround
      rw [new_of_around_error hspan' hkey haround]
      refine iff_of_false nofun ?_
      rintro (h | ⟨-, h | ⟨hfirst, -, hend⟩⟩)
      · exact hgreatest h
      · exact hearlier h
      · exact hnameable.elim (Int.not_lt.2 hfirst) (Int.not_lt.2 hend)
    · rw [if_neg hnameable] at haround
      rw [not_or, Int.not_lt, Int.not_lt] at hnameable
      -- the end can be written, and it depends on the beginning
      have hend : isWritable (now + days * daySeconds) = true :=
        isWritable_of_nonneg (Int.add_nonneg hnow hspan)
      rw [new_of_around_ok hspan' hkey haround, Certificate.signed_eq_overflow_iff]
      show isWritable (now - days * daySeconds) = false ∨
        isWritable (now + days * daySeconds) = false ↔ _
      rw [hend, ← Bool.not_eq_true, isWritable_iff, Int.not_le]
      simp [hgreatest, hearlier, RootOverflows, hnameable]

/-- So are times of a root of which one cannot be named. -/
theorem new_of_unnameable (hnow : 0 ≤ now) (hlast : now ≤ lastNameable) (hdays : 1 ≤ days)
    (hearliest : earliest ≤ now - days * daySeconds)
    (hnameable : now - days * daySeconds < firstNameable ∨
      lastNameable < now + days * daySeconds)
    (hkey : (PrivateKey.new algorithm e).1.isSome = true) :
    (new commonName organization days algorithm now e).1 = .error unnameable := by
  obtain ⟨key, hkey⟩ := Option.isSome_iff_exists.1 hkey
  have hspan : 0 ≤ days * daySeconds := Int.mul_nonneg (by omega) (by decide)
  -- the beginning can be computed with, so the days can
  have hgreatest : days * daySeconds ≤ greatestSpan := calc days * daySeconds
    _ = now - (now - days * daySeconds) := by omega
    _ ≤ lastNameable - earliest := Int.sub_le_sub hlast hearliest
    _ ≤ greatestSpan := by decide
  have hspan' := span_of_one_le hdays
  rw [if_neg (Int.not_lt.2 hgreatest)] at hspan'
  have haround := around_eq hnow hlast hspan
  rw [if_neg (Int.not_lt.2 hearliest), if_pos hnameable] at haround
  exact new_of_around_error hspan' hkey haround

end Root

/-! ### What comes of days -/

/-- A leaf that is kept does not overflow. -/
theorem Issuance.serve_eq_overflow_iff {i : Issuance} {host : String} {now : Int} {e : Entropy}
    (hnow : 0 ≤ now) (hlast : now ≤ Validity.lastNameable) :
    (i.serve host now e).1.1 = .error .overflow ↔
      i.current? (Ascii.lower host) now = none ∧
        Root.LeafOverflows (Ascii.lower host) i.days now := by
  cases hcurrent : i.current? (Ascii.lower host) now with
  | some s =>
    rw [serve_of_current hcurrent]
    exact iff_of_false nofun (fun h => by cases h.1)
  | none =>
    -- what cannot be shown may have been refused, but that is no overflow
    rw [(serve_of_none hcurrent).1, bind_eq_error_iff, Root.issue_eq_overflow_iff hnow hlast,
      or_iff_left fun ⟨leaf, _, hrefuse⟩ => ofLeaf_ne_overflow _ leaf hrefuse]
    exact (and_iff_right rfl).symm

namespace Validity

open Root

variable {days now : Int}

/-- What comes of a number of days by a clock. -/
structure Bounds (days now : Int) : Prop where
  /-- Less than a day is refused, for roots and for leaves. -/
  short : days < 1 →
    (∀ commonName organization algorithm e,
      (Root.new commonName organization days algorithm now e).1 = .error (tooShort days)) ∧
    ∀ (r : Root) given e, (r.issue given days now e).1 = .error (tooShort days)
  /-- To make a root overflows exactly if the days alone do, or if there is a key and the time from
  which the root is valid cannot be computed with or written. -/
  root : 1 ≤ days → ∀ commonName organization algorithm e,
    ((Root.new commonName organization days algorithm now e).1 = .error .overflow ↔
      greatestSpan < days * daySeconds ∨
        (PrivateKey.new algorithm e).1.isSome = true ∧ RootOverflows days now)
  /-- It is refused if there is a key and one of its times cannot be named. -/
  rootUnnameable : 1 ≤ days → earliest ≤ now - days * daySeconds →
    now - days * daySeconds < firstNameable ∨ lastNameable < now + days * daySeconds →
    ∀ commonName organization algorithm e, (PrivateKey.new algorithm e).1.isSome = true →
      (Root.new commonName organization days algorithm now e).1 = .error unnameable
  /-- To issue a leaf overflows exactly if the days alone do, or if the host can be named and the
  end of the validity cannot be computed with. -/
  leaf : ∀ (r : Root) given e,
    (r.issue given days now e).1 = .error .overflow ↔ LeafOverflows given days now
  /-- It is refused if the host can be named and the end cannot. -/
  leafUnnameable : 1 ≤ days → lastNameable < now + days * daySeconds →
    now + days * daySeconds ≤ latest → ∀ (r : Root) given e,
      (hostOf (Blank.trim given)).isEmpty = false → Nameable (hostOf (Blank.trim given)) →
      (r.issue given days now e).1 = .error unnameable
  /-- To show a leaf comes to the same as to issue it, unless one is kept or the library that
  secures connections refuses it. -/
  served : ∀ (i : Issuance) host e, i.days = days →
    i.current? (Ascii.lower host) now = none →
      (i.serve host now e).1.1 =
        ((i.root.issue (Ascii.lower host) days now e).1 >>= Securing.ofLeaf i.tls)
  /-- So it overflows exactly if none is kept and to issue one overflows. -/
  servedOverflow : ∀ (i : Issuance) host e, i.days = days →
    ((i.serve host now e).1.1 = .error .overflow ↔
      i.current? (Ascii.lower host) now = none ∧ LeafOverflows (Ascii.lower host) days now)

/-- **The days of validity.** By a clock that stands between 1970 and the year 9999, less than a day
is refused, as are the days that lead to times that cannot be named. Days that lead further are not:
they overflow. -/
theorem bounds_of_days (hnow : 0 ≤ now) (hlast : now ≤ lastNameable) : Bounds days now := by
  refine
    { short := fun hdays => ⟨?_, ?_⟩
      root := fun hdays commonName organization algorithm e =>
        new_eq_overflow_iff hnow hlast hdays
      rootUnnameable := fun hdays hearliest hnameable commonName organization algorithm e hkey =>
        new_of_unnameable hnow hlast hdays hearliest hnameable hkey
      leaf := fun r given e => issue_eq_overflow_iff hnow hlast
      leafUnnameable := fun hdays hend hlatest r given e hempty hname =>
        issue_of_unnameable hnow hlast hdays hend hlatest hempty hname
      served := ?_
      servedOverflow := ?_ }
  · -- what is refused for its days is refused before anything is drawn
    intro commonName organization algorithm e
    exact new_of_span_error (span_of_lt hdays)
  · intro r given e
    exact issue_of_leafFor_error (leafFor_of_lt hdays _)
  · rintro i host e rfl hnone
    exact (Issuance.serve_of_none hnone).1
  · rintro i host e rfl
    exact Issuance.serve_eq_overflow_iff hnow hlast

/-- At the beginning of 1970, this is the greatest number of days that is refused for a leaf. -/
theorem bounds_of_days_refused :
    (0 : Int) ≤ 0 ∧ (0 : Int) ≤ lastNameable ∧ Bounds 95026236 0 ∧
      (Issuance.greatRoot.issue "a.test" 95026236 0 ⟨[], 0⟩).1 = .error unnameable := by
  have hbounds : Bounds 95026236 0 := bounds_of_days (by decide) (by decide)
  have hname : hostOf (Blank.trim "a.test") = "a.test" := by decide +kernel
  refine ⟨by decide, by decide, hbounds, ?_⟩
  refine hbounds.leafUnnameable (by decide) (by decide) (by decide) _ _ _ ?_ ?_
  · rw [hname]
    rfl
  · rw [hname]
    decide +kernel

/-- With the greatest number of days neither a root nor a leaf comes about, nor is it refused. -/
theorem greatest_days_overflow :
    let days : Int := 9223372036854775807
    let i : Issuance := { root := Issuance.greatRoot, days }
    (Root.new "" "" days .ecdsaP256 0 ⟨[], 0⟩).1 = .error .overflow ∧
      (Issuance.greatRoot.issue "a.test" days 0 ⟨[], 0⟩).1 = .error .overflow ∧
      (i.serve "a.test" 0 ⟨[], 0⟩).1.1 = .error .overflow := by
  intro days i
  -- the span of these days overflows, and all three begin with it
  have hspan : span days = .error .overflow := by
    rw [span_of_one_le (by decide)]
    exact if_pos (by decide)
  have hissue : ∀ given, (Issuance.greatRoot.issue given days 0 ⟨[], 0⟩).1 = .error .overflow := by
    intro given
    refine issue_of_leafFor_error ?_
    rw [leafFor_eq, hspan, error_bind]
  refine ⟨new_of_span_error hspan, hissue _, ?_⟩
  have hnone : i.current? (Ascii.lower "a.test") 0 = none := rfl
  rw [(Issuance.serve_of_none hnone).1, hissue, error_bind]

end Validity

end ReplayProxy
