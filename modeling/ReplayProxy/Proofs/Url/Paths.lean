import ReplayProxy.Url

/-!
# Paths that stay as they are

The path of a URL is not asked for as it is written: backslashes become slashes, dots are resolved,
and what cannot stand in a path is written with percent signs. `Url.resolvedPath_eq_iff` says
which paths stay as they are: the *plain* ones (`Url.PlainPath`). For queries it is enough that
nothing is written otherwise (`Url.encode_eq_self_iff`).

Both directions rest on what a resolved path is made of. It holds only characters that can be
written, and segments that are no dots; so a path that stays as it is holds nothing else.
-/

namespace ReplayProxy.Url

/-! ### Percent-encoding -/

/-- None of the characters with which bytes are written: percent signs and digits. -/
def SparesBytes (p : Char → Bool) : Prop :=
  p '%' = false ∧ ∀ n < 16, p (Nat.digitChar n).toUpper = false

instance (p : Char → Bool) : Decidable (SparesBytes p) :=
  inferInstanceAs (Decidable (_ ∧ ∀ n < 16, _))

theorem sparesBytes_inPath : SparesBytes inPath := by decide

theorem sparesBytes_inQuery : SparesBytes inQuery := by decide

variable {p reserved : Char → Bool}

theorem SparesBytes.eq_false_of_mem (h : SparesBytes p) {b : UInt8} {c : Char}
    (hc : c ∈ percentByte b) : p c = false := by
  have hb := b.toNat_lt
  simp only [percentByte, List.mem_cons, List.not_mem_nil, or_false] at hc
  rcases hc with rfl | rfl | rfl
  · exact h.1
  · exact h.2 _ (by omega)
  · exact h.2 _ (by omega)

/-- What holds of no character of a text that is written as it is holds of none that is written. -/
theorem SparesBytes.eq_false_of_mem_encode (h : SparesBytes p) {cs : List Char}
    (hcs : ∀ c ∈ cs, reserved c = false → p c = false) {c : Char} (hc : c ∈ encode reserved cs) :
    p c = false := by
  obtain ⟨k, hk, hc⟩ := List.mem_flatMap.1 hc
  split at hc
  · -- what is not written as it is is written with percent signs and digits
    obtain ⟨b, -, hc⟩ := List.mem_flatMap.1 hc
    exact h.eq_false_of_mem hc
  · next hreserved =>
    rw [List.mem_singleton.1 hc]
    exact hcs k hk (Bool.eq_false_iff.2 hreserved)

theorem encode_eq_self {cs : List Char} (h : ∀ c ∈ cs, reserved c = false) :
    encode reserved cs = cs := by
  induction cs with
  | nil => rfl
  | cons c cs ih =>
    rw [List.forall_mem_cons] at h
    rw [encode, List.flatMap_cons, if_neg (by simp [h.1]), List.singleton_append]
    exact congrArg (c :: ·) (ih h.2)

/-- A text is written as it is exactly if nothing in it is to be written otherwise. -/
theorem encode_eq_self_iff (h : SparesBytes reserved) {cs : List Char} :
    encode reserved cs = cs ↔ ∀ c ∈ cs, reserved c = false := by
  refine ⟨fun heq c hc => ?_, encode_eq_self⟩
  rw [← heq] at hc
  exact h.eq_false_of_mem_encode (fun _ _ => id) hc

/-! ### Segments -/

/-- What lies between two marks holds no mark. -/
theorem mem_of_mem_splitOn {k : Char} {cs s : List Char} (hs : s ∈ cs.splitOn k) :
    ∀ c ∈ s, c ∈ cs ∧ c ≠ k := by
  induction cs generalizing s with
  | nil =>
    rw [List.splitOn_nil, List.mem_singleton] at hs
    simp [hs]
  | cons x cs ih =>
    rw [List.splitOn_cons_eq_if_modifyHead] at hs
    split at hs
    · rcases List.mem_cons.1 hs with rfl | hs
      · nofun
      · exact fun c hc => ⟨List.mem_cons_of_mem x (ih hs c hc).1, (ih hs c hc).2⟩
    · next hx =>
      -- `x` is put in front of the first segment of the rest
      obtain ⟨first, rest, heq⟩ := List.exists_cons_of_ne_nil (List.splitOn_ne_nil k cs)
      rw [heq] at hs ih
      rcases List.mem_cons.1 hs with rfl | hs
      · intro c hc
        rcases List.mem_cons.1 hc with rfl | hc
        · exact ⟨List.mem_cons_self, by simpa using hx⟩
        · have hin := ih List.mem_cons_self c hc
          exact ⟨List.mem_cons_of_mem x hin.1, hin.2⟩
      · intro c hc
        have hin := ih (List.mem_cons_of_mem first hs) c hc
        exact ⟨List.mem_cons_of_mem x hin.1, hin.2⟩

/-- A segment that is no dots. -/
def Kept (s : List Char) : Prop := isDot s = false ∧ isDots s = false

/-- What a segment makes of those before it: dots at the end leave an empty one. -/
def stepInto (done : List (List Char)) (s : List Char) (last : Bool) : List (List Char) :=
  if isDots s then (if last then [] :: done.tail else done.tail)
  else if isDot s then (if last then [] :: done else done)
  else encode inPath s :: done

theorem resolve_cons (done : List (List Char)) (s : List Char) (rest : List (List Char)) :
    resolve done (s :: rest) = resolve (stepInto done s rest.isEmpty) rest := by
  cases rest with
  | nil =>
    simp only [resolve, stepInto, List.isEmpty_nil, if_true]
    split
    · rfl
    · split <;> rfl
  | cons t rest =>
    rw [resolve, stepInto]
    · simp only [List.isEmpty_cons, Bool.false_eq_true, if_false]
      split
      · rfl
      · split <;> rfl
    · -- the last segment is the one without a rest
      nofun

theorem stepInto_of_kept {s : List Char} (h : Kept s) (done : List (List Char)) (last : Bool) :
    stepInto done s last = encode inPath s :: done := by
  rw [stepInto, if_neg (by simp [h.2]), if_neg (by simp [h.1])]

theorem mem_stepInto {done : List (List Char)} {s t : List Char} {last : Bool}
    (h : t ∈ stepInto done s last) : t ∈ done ∨ t = [] ∨ t = encode inPath s ∧ Kept s := by
  -- dots at the end leave an empty segment behind what is done
  have hempty {rest : List (List Char)} (hrest : rest ⊆ done)
      (h : t ∈ if last then [] :: rest else rest) : t ∈ done ∨ t = [] := by
    split at h
    · exact (List.mem_cons.1 h).symm.imp_left fun hmem => hrest hmem
    · exact .inl (hrest h)
  unfold stepInto at h
  split at h
  · exact (hempty (List.tail_sublist done).subset h).imp_right .inl
  · next hdots =>
    split at h
    · exact (hempty (List.Subset.refl done) h).imp_right .inl
    · next hdot =>
      rcases List.mem_cons.1 h with rfl | h
      · exact .inr (.inr ⟨rfl, Bool.eq_false_iff.2 hdot, Bool.eq_false_iff.2 hdots⟩)
      · exact .inl h

/-- Segments that are no dots are kept. -/
theorem resolve_eq_append {done segments : List (List Char)} (h : ∀ s ∈ segments, Kept s) :
    resolve done segments = done.reverse ++ segments.map (encode inPath) := by
  induction segments generalizing done with
  | nil => simp [resolve]
  | cons s rest ih =>
    obtain ⟨hs, hrest⟩ := List.forall_mem_cons.1 h
    rw [resolve_cons, stepInto_of_kept hs, ih hrest]
    simp

/-- What is left of segments is empty or a segment that is no dots. -/
theorem mem_resolve {done segments : List (List Char)} {t : List Char}
    (ht : t ∈ resolve done segments) :
    t ∈ done ∨ t = [] ∨ ∃ s ∈ segments, t = encode inPath s ∧ Kept s := by
  induction segments generalizing done with
  | nil => exact .inl (List.mem_reverse.1 ht)
  | cons s rest ih =>
    rw [resolve_cons] at ht
    rcases ih ht with ht | ht | ⟨s', hs', ht⟩
    · rcases mem_stepInto ht with ht | ht | ht
      · exact .inl ht
      · exact .inr (.inl ht)
      · exact .inr (.inr ⟨s, List.mem_cons_self, ht⟩)
    · exact .inr (.inl ht)
    · exact .inr (.inr ⟨s', List.mem_cons_of_mem s hs', ht⟩)

/-! ### Paths -/

/-- The segments that a path is read into, before dots are resolved. -/
def segments (cs : List Char) : List (List Char) :=
  let cs := cs.map fun c => if c = '\\' then '/' else c
  let cs := match cs with
    | '/' :: rest => rest
    | cs => cs
  cs.splitOn '/'

theorem resolvedPath_eq (cs : List Char) :
    resolvedPath cs = String.ofList ('/' :: ['/'].intercalate (resolve [] (segments cs))) := rfl

theorem segments_of_slash {cs : List Char} (hback : '\\' ∉ cs) :
    segments ('/' :: cs) = cs.splitOn '/' := by
  -- without backslashes none becomes a slash
  have hslashes : (cs.map fun c => if c = '\\' then '/' else c) = cs := by
    refine (List.map_congr_left fun c hc => if_neg ?_).trans (List.map_id cs)
    rintro rfl
    exact hback hc
  simp [segments, hslashes]

theorem mem_segments {cs s : List Char} (hs : s ∈ segments cs) {c : Char} (hc : c ∈ s) :
    c ∈ cs ∧ c ≠ '\\' ∧ c ≠ '/' := by
  have hin := mem_of_mem_splitOn hs c hc
  have hmem : c ∈ cs.map fun c => if c = '\\' then '/' else c := by
    split at hin
    · next heq => exact heq ▸ List.mem_cons_of_mem '/' hin.1
    · exact hin.1
  -- a backslash would have become a slash, and no slash is in a segment
  obtain ⟨k, hk, rfl⟩ := List.mem_map.1 hmem
  split
  · next hback => exact absurd (if_pos hback) hin.2
  · next hback => exact ⟨hk, hback, fun hslash => hin.2 ((if_neg hback).trans hslash)⟩

theorem mem_intercalate {k c : Char} {ss : List (List Char)} (hc : c ∈ [k].intercalate ss) :
    c = k ∨ ∃ s ∈ ss, c ∈ s := by
  induction ss with
  | nil => cases hc
  | cons s ss ih =>
    cases ss with
    | nil => exact .inr ⟨s, List.mem_cons_self, by simpa using hc⟩
    | cons s' ss =>
      rw [List.intercalate_cons_cons, List.mem_append, List.mem_append, List.mem_singleton] at hc
      -- in the first segment, the mark behind it, or what follows
      rcases hc with (hc | hc) | hc
      · exact .inr ⟨s, List.mem_cons_self, hc⟩
      · exact .inl hc
      · exact (ih hc).imp_right fun ⟨t, ht, hc⟩ => ⟨t, List.mem_cons_of_mem s ht, hc⟩

/-- Segments of a path that needs no writing stay as they are written. -/
theorem encode_of_mem_segments {cs s : List Char} (h : ∀ c ∈ cs, inPath c = false)
    (hs : s ∈ segments cs) : encode inPath s = s :=
  encode_eq_self fun c hc => h c (mem_segments hs hc).1

/-- What stands in the segments that are left is written, and no slash or backslash. -/
theorem written_of_mem_resolve {cs t : List Char} (ht : t ∈ resolve [] (segments cs)) {c : Char}
    (hc : c ∈ t) : (c ≠ '\\' ∧ inPath c = false) ∧ c ≠ '/' := by
  rcases mem_resolve ht with ht | rfl | ⟨s, hs, rfl, -⟩
  · cases ht
  · cases hc
  · -- neither mark is part of how a byte is written
    have hmarks : SparesBytes fun c => c == '\\' || c == '/' := by decide
    have hc₁ := sparesBytes_inPath.eq_false_of_mem_encode (fun _ _ => id) hc
    have hc₂ := hmarks.eq_false_of_mem_encode (fun k hk _ => by
      simp [(mem_segments hs hk).2]) hc
    simp only [Bool.or_eq_false_iff, beq_eq_false_iff_ne] at hc₂
    exact ⟨⟨hc₂.1, hc₁⟩, hc₂.2⟩

/-- A path that is asked for as it is written: it begins with a slash and holds no backslash,
nothing that is to be written otherwise, and no dots to be resolved. -/
structure PlainPath (cs : List Char) : Prop where
  slash : cs.head? = some '/'
  written : ∀ c ∈ cs, c ≠ '\\' ∧ inPath c = false
  dots : ∀ s ∈ cs.splitOn '/', Kept s

theorem kept_nil : Kept [] := by
  constructor <;> decide +kernel

theorem splitOn_slash (cs : List Char) : ('/' :: cs).splitOn '/' = [] :: cs.splitOn '/' := by
  rw [List.splitOn_cons_eq_if_modifyHead, if_pos (by decide)]

theorem head?_resolvedPath (cs : List Char) : (resolvedPath cs).toList.head? = some '/' := by
  rw [resolvedPath_eq, String.toList_ofList, List.head?_cons]

/-- Everything in a resolved path is written. -/
theorem written_of_mem_resolvedPath {cs : List Char} {c : Char}
    (hc : c ∈ (resolvedPath cs).toList) : c ≠ '\\' ∧ inPath c = false := by
  rw [resolvedPath_eq, String.toList_ofList, List.mem_cons] at hc
  rcases hc with rfl | hc
  · decide
  · rcases mem_intercalate hc with rfl | ⟨t, ht, hc⟩
    · decide
    · exact (written_of_mem_resolve ht hc).1

/-- Where nothing is written otherwise, no segment of a resolved path is dots. -/
theorem kept_of_mem_resolvedPath {cs : List Char} (h : ∀ c ∈ cs, inPath c = false) :
    ∀ s ∈ (resolvedPath cs).toList.splitOn '/', Kept s := by
  generalize hleft : resolve [] (segments cs) = left
  have hkept : ∀ t ∈ left, Kept t := by
    intro t ht
    rw [← hleft] at ht
    rcases mem_resolve ht with ht | rfl | ⟨s, hs, rfl, hkept⟩
    · cases ht
    · exact kept_nil
    · -- such a segment was one of the path, and is written as it was
      rwa [encode_of_mem_segments h hs]
  -- what was put together with slashes falls apart at the same slashes
  have hsplit : ∀ s ∈ (['/'].intercalate left).splitOn '/', Kept s := by
    by_cases hne : left = []
    · subst hne
      simpa using kept_nil
    · rw [List.splitOn_intercalate '/' (fun t ht hslash =>
        (written_of_mem_resolve (hleft ▸ ht) hslash).2 rfl) hne]
      exact hkept
  rw [resolvedPath_eq, String.toList_ofList, hleft, splitOn_slash]
  exact List.forall_mem_cons.2 ⟨kept_nil, hsplit⟩

/-- A plain path is asked for as it is. -/
theorem PlainPath.resolvedPath {cs : List Char} (h : PlainPath cs) :
    resolvedPath cs = String.ofList cs := by
  obtain ⟨cs, rfl⟩ := List.head?_eq_some_iff.1 h.slash
  have hdots := h.dots
  rw [splitOn_slash] at hdots
  have hsegments : segments ('/' :: cs) = cs.splitOn '/' :=
    segments_of_slash fun hmem => (h.written _ (List.mem_cons_of_mem '/' hmem)).1 rfl
  have hencode : (segments ('/' :: cs)).map (encode inPath) = segments ('/' :: cs) :=
    (List.map_congr_left fun s hs =>
      encode_of_mem_segments (fun c hc => (h.written c hc).2) hs).trans (List.map_id _)
  rw [resolvedPath_eq, resolve_eq_append (hsegments ▸ (List.forall_mem_cons.1 hdots).2),
    List.reverse_nil, List.nil_append, hencode, hsegments, List.intercalate_splitOn]

/-- The paths that are asked for as they are written are the plain ones. -/
theorem resolvedPath_eq_iff {cs : List Char} :
    resolvedPath cs = String.ofList cs ↔ PlainPath cs := by
  refine ⟨fun heq => ?_, PlainPath.resolvedPath⟩
  have htext : (resolvedPath cs).toList = cs := by rw [heq, String.toList_ofList]
  -- what the path shares with its resolved form it has from there
  have hwritten : ∀ c ∈ cs, c ≠ '\\' ∧ inPath c = false :=
    fun c hc => written_of_mem_resolvedPath (htext.symm ▸ hc)
  exact
    { slash := htext ▸ head?_resolvedPath cs
      written := hwritten
      dots := htext ▸ kept_of_mem_resolvedPath fun c hc => (hwritten c hc).2 }

/-! ### Paths without their beginning -/

/-- The segments behind a slash are segments of the whole. -/
theorem mem_splitOn_append {before cs s : List Char} (hs : s ∈ cs.splitOn '/') :
    s ∈ (before ++ '/' :: cs).splitOn '/' := by
  -- what stands in front of the slash only adds segments in front
  suffices ∃ first rest, (before ++ '/' :: cs).splitOn '/' = first :: rest ∧
      cs.splitOn '/' ⊆ rest by
    obtain ⟨first, rest, hsplit, hsubset⟩ := this
    rw [hsplit]
    exact List.mem_cons_of_mem first (hsubset hs)
  induction before with
  | nil => exact ⟨[], cs.splitOn '/', splitOn_slash cs, List.Subset.refl _⟩
  | cons c before ih =>
    obtain ⟨first, rest, hsplit, hsubset⟩ := ih
    rw [List.cons_append, List.splitOn_cons_eq_if_modifyHead, hsplit]
    split
    · exact ⟨[], first :: rest, rfl, fun t ht => List.mem_cons_of_mem first (hsubset ht)⟩
    · exact ⟨c :: first, rest, rfl, hsubset⟩

/-- A path is not got back from what follows its beginning, if that is more than a slash. -/
theorem resolvedPath_ne_append {before cs : List Char} (hbefore : ∃ c ∈ before, c ≠ '/')
    (hcs : ∀ c ∈ cs.head?, c = '/' ∨ c = '\\') :
    resolvedPath cs ≠ String.ofList (before ++ cs) := by
  intro heq
  obtain ⟨c, hc, hne⟩ := hbefore
  have htext : (resolvedPath cs).toList = before ++ cs := by rw [heq, String.toList_ofList]
  have hwritten : ∀ c ∈ cs, c ≠ '\\' ∧ inPath c = false := fun c hc =>
    written_of_mem_resolvedPath (htext.symm ▸ List.mem_append_right before hc)
  cases cs with
  | nil =>
    -- what is left is the slash alone
    have hslash : (resolvedPath []).toList = ['/'] := by decide +kernel
    rw [hslash, List.append_nil] at htext
    exact hne (List.mem_singleton.1 (htext ▸ hc))
  | cons k cs =>
    obtain rfl : k = '/' := (hcs k rfl).resolve_right (hwritten k List.mem_cons_self).1
    have hkept := kept_of_mem_resolvedPath fun c hc => (hwritten c hc).2
    rw [htext] at hkept
    -- as part of a path that stays as it is, what follows stays as it is as well
    have hplain : PlainPath ('/' :: cs) :=
      { slash := rfl
        written := hwritten
        dots := by
          rw [splitOn_slash, List.forall_mem_cons]
          exact ⟨kept_nil, fun s hs => hkept s (mem_splitOn_append hs)⟩ }
    rw [hplain.resolvedPath, String.toList_ofList] at htext
    have hnil := List.append_left_eq_self.1 htext.symm
    rw [hnil] at hc
    cases hc

end ReplayProxy.Url
