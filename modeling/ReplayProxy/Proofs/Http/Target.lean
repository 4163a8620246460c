import Mathlib.Data.List.TakeWhile
import ReplayProxy.Http.Uri
import ReplayProxy.Proofs.Text.Letters

/-!
# What a target holds

A target that was read holds nothing that would be read otherwise: its scheme no colon, its
authority nothing that ends one, its path no question mark. And behind an authority the path begins
with a slash, if there is one. All this is `Http.Uri.WellFormed`, and
`Http.Uri.wellFormed_of_parse?` is the main statement.
-/

namespace ReplayProxy.Http.Uri

/-- A character of a scheme. -/
def isSchemeChar (c : Char) : Bool :=
  Ascii.isAlphanumeric c || c == '+' || c == '-' || c == '.'

/-- What holds of every target that was read. -/
structure WellFormed (u : Uri) : Prop where
  scheme : ∀ s ∈ u.scheme, ∀ c ∈ s.toList, isSchemeChar c = true
  authority : ∀ a ∈ u.authority, a ≠ "" ∧
    ∀ c ∈ a.toList, (inAuthority c = true ∨ c = '%') ∧ endsAuthority c = false
  path : ∀ c ∈ u.writtenPath.toList, inPath c = true ∧ c ≠ '?' ∧ c ≠ '#'
  query : ∀ q ∈ u.query, ∀ c ∈ q.toList, inQuery c = true ∧ c ≠ '#'
  /-- Behind an authority, a path begins with a slash. -/
  slash : u.authority.isSome = true → ∀ c ∈ u.writtenPath.toList.head?, c = '/'
  /-- An authority without a scheme stands alone. -/
  alone : u.scheme = none → u.authority.isSome = true → u.writtenPath = "" ∧ u.query = none

/-! ### Authorities -/

theorem Scan.inAuthority_of_step {s t : Scan} {c : Char} (h : s.step c = some t) :
    inAuthority c = true ∨ c = '%' := by
  have hmarks : ∀ k ∈ [':', '[', ']', '@'], inAuthority k = true :=
    Ascii.forall_mem_of_all (by decide)
  unfold step at h
  -- four marks are in the table, the percent sign is not, and all others are looked up
  by_cases hcolon : c = ':'
  · exact .inl (hmarks c (by simp [hcolon]))
  by_cases hopen : c = '['
  · exact .inl (hmarks c (by simp [hopen]))
  by_cases hclose : c = ']'
  · exact .inl (hmarks c (by simp [hclose]))
  by_cases hat : c = '@'
  · exact .inl (hmarks c (by simp [hat]))
  by_cases hpercent : c = '%'
  · exact .inr hpercent
  · simp only [if_neg hcolon, if_neg hopen, if_neg hclose, if_neg hat, if_neg hpercent] at h
    split at h
    · next hc => exact .inl hc
    · cases h

theorem inAuthority_of_foldlM {cs : List Char} {s t : Scan}
    (h : cs.foldlM Scan.step s = some t) : ∀ c ∈ cs, inAuthority c = true ∨ c = '%' := by
  induction cs generalizing s with
  | nil => exact fun c hc => absurd hc List.not_mem_nil
  | cons c cs ih =>
    rw [List.foldlM_cons, Option.bind_eq_bind, Option.bind_eq_some_iff] at h
    obtain ⟨s', hstep, h⟩ := h
    exact List.forall_mem_cons.2 ⟨Scan.inAuthority_of_step hstep, ih h⟩

theorem authority?_eq_some {s a : String} (h : authority? s = some a) :
    a ≠ "" ∧ ∀ c ∈ a.toList, (inAuthority c = true ∨ c = '%') ∧ endsAuthority c = false := by
  unfold authority? at h
  split at h
  · cases h
  · next hread =>
    cases h
    simp only [Bool.or_eq_true, not_or, Bool.not_eq_true, Bool.not_eq_true',
      Bool.not_eq_false] at hread
    obtain ⟨⟨hempty, hends⟩, hauthority⟩ := hread
    -- the scan has gone over every character
    have hchars : ∀ c ∈ s.toList, inAuthority c = true ∨ c = '%' := by
      unfold isAuthority at hauthority
      split at hauthority
      · next hfold => exact inAuthority_of_foldlM hfold
      · cases hauthority
    refine ⟨?_, fun c hc => ⟨hchars c hc, ?_⟩⟩
    · rintro rfl
      cases hempty
    · exact Bool.eq_false_iff.2 (List.any_eq_false.1 hends c hc)

/-! ### Paths and queries -/

/-- What does not end a path. -/
def staysInPath (c : Char) : Bool := c != '?' && c != '#'

theorem pathAndQuery?_eq_some {cs : List Char} {path : String} {query : Option String}
    (h : pathAndQuery? cs = some (path, query)) :
    path.toList = cs.takeWhile staysInPath ∧
      (∀ c ∈ path.toList, inPath c = true ∧ c ≠ '?' ∧ c ≠ '#') ∧
      ∀ q ∈ query, ∀ c ∈ q.toList, inQuery c = true ∧ c ≠ '#' := by
  have hpath : (cs.takeWhile staysInPath).all inPath = true →
      ∀ c ∈ cs.takeWhile staysInPath, inPath c = true ∧ c ≠ '?' ∧ c ≠ '#' := by
    intro hall c hc
    have hstays := List.mem_takeWhile_imp hc
    rw [staysInPath, Bool.and_eq_true, bne_iff_ne, bne_iff_ne] at hstays
    exact ⟨List.all_eq_true.1 hall c hc, hstays⟩
  simp only [pathAndQuery?] at h
  split at h
  · split at h
    · next hread =>
      rw [Bool.and_eq_true] at hread
      obtain ⟨rfl, rfl⟩ := Prod.mk.inj (Option.some.inj h)
      rw [String.toList_ofList]
      refine ⟨rfl, hpath hread.1, fun q hq c hc => ?_⟩
      -- a query ends at the first number sign
      obtain rfl := Option.some.inj (Option.mem_def.1 hq)
      rw [String.toList_ofList] at hc
      have hstays := List.mem_takeWhile_imp hc
      exact ⟨List.all_eq_true.1 hread.2 c hc, bne_iff_ne.1 hstays⟩
    · cases h
  · split at h
    · next hread =>
      rw [Bool.and_eq_true] at hread
      obtain ⟨rfl, rfl⟩ := Prod.mk.inj (Option.some.inj h)
      rw [String.toList_ofList]
      exact ⟨rfl, hpath hread.1, nofun⟩
    · cases h

/-- Behind an authority, a path begins with what has ended the authority. -/
theorem head?_path {cs : List Char} {c : Char}
    (hc : c ∈ ((cs.dropWhile fun c => !endsAuthority c).takeWhile staysInPath).head?) :
    c = '/' := by
  cases hrest : cs.dropWhile fun c => !endsAuthority c with
  | nil =>
    rw [hrest] at hc
    cases hc
  | cons k rest =>
    have hends := List.head?_dropWhile_not (fun c => !endsAuthority c) cs
    rw [hrest] at hends hc
    -- it was not cut off behind the path, so it is neither of the marks that end one
    have hk : staysInPath k = true := by
      by_contra hk
      rw [List.takeWhile_cons_of_neg hk] at hc
      cases hc
    rw [List.takeWhile_cons_of_pos hk] at hc
    cases hc
    rw [staysInPath, Bool.and_eq_true, bne_iff_ne, bne_iff_ne] at hk
    simpa [endsAuthority, hk.1, hk.2] using hends

/-! ### Whole targets -/

theorem scheme?_eq_some {cs rest : List Char} {s : String} (h : scheme? cs = some (some s, rest)) :
    ∀ c ∈ s.toList, isSchemeChar c = true := by
  have hname : ∀ c ∈ (String.ofList (cs.takeWhile isSchemeChar)).toList, isSchemeChar c = true := by
    intro c hc
    rw [String.toList_ofList] at hc
    exact List.mem_takeWhile_imp hc
  have hhttp : ∀ c ∈ "http".toList, isSchemeChar c = true := Ascii.forall_mem_of_all (by decide)
  have hhttps : ∀ c ∈ "https".toList, isSchemeChar c = true := Ascii.forall_mem_of_all (by decide)
  -- the two schemes that are known are written small, and any other one is taken as it is
  simp only [scheme?] at h
  split at h
  · split at h
    · next hsmall =>
      cases h
      rw [Bool.or_eq_true, decide_eq_true_eq, decide_eq_true_eq] at hsmall
      rcases hsmall with hsmall | hsmall
      · exact hsmall ▸ hhttp
      · exact hsmall ▸ hhttps
    · split at h
      · cases h
      · split at h
        · cases h
        · cases h
          exact hname
  · cases h

/-- **What a target holds.** -/
theorem wellFormed_of_parse? {s : String} {u : Uri} (h : parse? s = some u) : u.WellFormed := by
  have hstar : WellFormed ⟨none, none, "*", none⟩ :=
    ⟨nofun, nofun, Ascii.forall_mem_of_all (by decide), nofun, nofun, nofun⟩
  simp only [parse?] at h
  split at h
  · cases h
  split at h
  · cases h
    exact hstar
  split at h
  · cases h
  · -- a path with a query
    obtain ⟨⟨path, query⟩, hread, rfl⟩ := Option.map_eq_some_iff.1 h
    obtain ⟨-, hpath, hquery⟩ := pathAndQuery?_eq_some hread
    exact ⟨nofun, nofun, hpath, hquery, nofun, nofun⟩
  · split at h
    · cases h
    · -- an authority alone
      obtain ⟨a, ha, rfl⟩ := Option.map_eq_some_iff.1 h
      exact
        { scheme := nofun
          authority := fun a' ha' => Option.some.inj ha' ▸ authority?_eq_some ha
          path := fun c hc => absurd hc (by simp)
          query := nofun
          slash := fun _ c hc => absurd hc (by simp)
          alone := fun _ _ => ⟨rfl, rfl⟩ }
    · -- a scheme, an authority, a path and a query
      next scheme rest hscheme =>
      rw [Option.bind_eq_bind, Option.bind_eq_some_iff] at h
      obtain ⟨a, ha, h⟩ := h
      rw [Option.bind_eq_bind, Option.bind_eq_some_iff] at h
      obtain ⟨⟨path, query⟩, hread, h⟩ := h
      cases h
      obtain ⟨htaken, hpath, hquery⟩ := pathAndQuery?_eq_some hread
      exact
        { scheme := fun s' hs' => Option.some.inj hs' ▸ scheme?_eq_some hscheme
          authority := fun a' ha' => Option.some.inj ha' ▸ authority?_eq_some ha
          path := hpath
          query := hquery
          slash := fun _ c hc => head?_path (htaken ▸ hc)
          alone := nofun }

end ReplayProxy.Http.Uri
