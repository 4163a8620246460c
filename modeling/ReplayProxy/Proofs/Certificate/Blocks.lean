import Mathlib.Data.List.SplitBy
import ReplayProxy.Certificate.Pem
import ReplayProxy.Proofs.Text.Base64

/-!
# Blocks read back

A block of PEM that was written holds what it was written for, by either of the two rules
for reading one. Both rest on the same observation: base64 has neither dashes nor white
space, so that nothing between the first line of a block and its last can be taken for a
mark, an empty line or a blank to be trimmed.

Main statements:

* `Pem.block?_write`: the first block of what is written, whatever its label.
* `Pem.certificate_write`: the first certificate of what is written.
-/

namespace ReplayProxy

/-! ### The values of the letters -/

namespace Base64

/-- The values of the letters that a byte string is written with. -/
def sextets : Bytes → List Nat
  | a :: b :: c :: rest =>
    let n := a.toNat * 65536 + b.toNat * 256 + c.toNat
    n / 262144 :: n / 4096 % 64 :: n / 64 % 64 :: n % 64 :: sextets rest
  | [a, b] =>
    let n := a.toNat * 1024 + b.toNat * 4
    [n / 4096, n / 64 % 64, n % 64]
  | [a] =>
    let n := a.toNat * 16
    [n / 64, n % 64]
  | [] => []

theorem sextets_lt (b : Bytes) : ∀ n ∈ sextets b, n < 64 := by
  -- each sextet is a quotient or a remainder of bytes that are below 256
  fun_induction sextets b with
  | case1 a b c rest n ih =>
    have ha := a.toNat_lt
    have hb := b.toNat_lt
    have hc := c.toNat_lt
    simp only [List.forall_mem_cons]
    refine ⟨by omega, by omega, by omega, by omega, ih⟩
  | case2 a b n =>
    have ha := a.toNat_lt
    have hb := b.toNat_lt
    simp only [List.forall_mem_cons]
    exact ⟨by omega, by omega, by omega, by simp⟩
  | case3 a n =>
    have ha := a.toNat_lt
    simp only [List.forall_mem_cons]
    exact ⟨by omega, by omega, by simp⟩
  | case4 => simp

/-- What is written are letters and, behind them, padding. -/
theorem exists_encodeOnto_eq (b : Bytes) :
    ∃ pad, encodeOnto [] b = (sextets b).map letter ++ List.replicate pad '=' := by
  fun_induction sextets b with
  | case1 a b c rest n ih =>
    obtain ⟨pad, ih⟩ := ih
    refine ⟨pad, ?_⟩
    rw [encodeOnto, encodeOnto_eq, ih]
    simp [group, n]
  | case2 a b n => exact ⟨1, rfl⟩
  | case3 a n => exact ⟨2, rfl⟩
  | case4 => exact ⟨0, rfl⟩

theorem mapM_value? {ns : List Nat} (h : ∀ n ∈ ns, n < 64) :
    (ns.map letter).mapM value? = some ns := by
  induction ns with
  | nil => rfl
  | cons n ns ih =>
    rw [List.forall_mem_cons] at h
    simp [List.mapM_cons, value?_letter h.1, ih h.2]

/-! A group without its padding stands for the bytes it was written for. -/

theorem looseGroup_three {a b c : UInt8} {n : Nat}
    (hn : a.toNat * 65536 + b.toNat * 256 + c.toNat = n) :
    Pem.looseGroup [n / 262144, n / 4096 % 64, n / 64 % 64, n % 64] = [a, b, c] := by
  have ha := a.toNat_lt
  have hb := b.toNat_lt
  have hc := c.toNat_lt
  have hsum : ((n / 262144 * 64 + n / 4096 % 64) * 64 + n / 64 % 64) * 64 + n % 64 = n := by
    omega
  simp only [Pem.looseGroup, hsum]
  rw [byteAt_eq (b := a) (by omega), byteAt_eq (b := b) (by omega), byteAt_eq (b := c) (by omega)]

theorem looseGroup_two {a b : UInt8} {n : Nat} (hn : a.toNat * 1024 + b.toNat * 4 = n) :
    Pem.looseGroup [n / 4096, n / 64 % 64, n % 64] = [a, b] := by
  have ha := a.toNat_lt
  have hb := b.toNat_lt
  have hsum : (n / 4096 * 64 + n / 64 % 64) * 64 + n % 64 = n := by omega
  simp only [Pem.looseGroup, hsum]
  rw [byteAt_eq (b := a) (by omega), byteAt_eq (b := b) (by omega)]

theorem looseGroup_one {a : UInt8} {n : Nat} (hn : a.toNat * 16 = n) :
    Pem.looseGroup [n / 64, n % 64] = [a] := by
  have ha := a.toNat_lt
  have hsum : n / 64 * 64 + n % 64 = n := by omega
  simp only [Pem.looseGroup, hsum]
  rw [byteAt_eq (b := a) (by omega)]

@[simp] theorem looseGroups_nil (most : Nat) : Pem.looseGroups most [] = [] := by
  cases most <;> rfl

/-- The lenient reader makes the bytes of the values, if it may read enough groups. -/
theorem looseGroups_sextets : ∀ (b : Bytes) {most : Nat}, (sextets b).length ≤ most →
    Pem.looseGroups most (sextets b) = b
  | a :: b :: c :: rest, most, h => by
    obtain ⟨most, rfl⟩ := Nat.exists_eq_add_of_le' (Nat.le_trans (by simp [sextets]) h : 1 ≤ most)
    have hrest : (sextets rest).length ≤ most := by
      simp only [sextets, List.length_cons] at h
      omega
    -- four values are three bytes again
    simp only [sextets, Pem.looseGroups, List.take_succ_cons, List.take_zero, List.drop_succ_cons,
      List.drop_zero]
    rw [looseGroup_three rfl, looseGroups_sextets rest hrest]
    rfl
  | [a, b], most, h => by
    obtain ⟨most, rfl⟩ := Nat.exists_eq_add_of_le' (Nat.le_trans (by simp [sextets]) h : 1 ≤ most)
    -- the last group is one of three values, or of two
    simp only [sextets, Pem.looseGroups, List.take_succ_cons, List.take_nil, List.drop_succ_cons,
      List.drop_nil, looseGroups_nil, List.append_nil]
    exact looseGroup_two rfl
  | [a], most, h => by
    obtain ⟨most, rfl⟩ := Nat.exists_eq_add_of_le' (Nat.le_trans (by simp [sextets]) h : 1 ≤ most)
    simp only [sextets, Pem.looseGroups, List.take_succ_cons, List.take_nil, List.drop_succ_cons,
      List.drop_nil, looseGroups_nil, List.append_nil]
    exact looseGroup_one rfl
  | [], most, _ => looseGroups_nil most

end Base64

namespace Pem

variable {m : Char} {mark pre rest cs seen left : List Char} {n : Nat}

/-! ### Letters stand out -/

/-- A character that is neither a dash nor any white space. -/
def Stands (c : Char) : Prop :=
  c ≠ '-' ∧ isSpace c = false ∧ isBlank c = false ∧ c ≠ '\n' ∧ c ≠ '\r'

instance (c : Char) : Decidable (Stands c) := inferInstanceAs (Decidable (_ ∧ _))

theorem stands_letter : ∀ n < 64, Stands (Base64.letter n) := by decide

/-- The letters of a block. -/
def letters (b : Bytes) : List Char := (Base64.encode b).toList

theorem exists_letters_eq (b : Bytes) :
    ∃ pad, letters b = (Base64.sextets b).map Base64.letter ++ List.replicate pad '=' := by
  rw [letters, Base64.encode, String.toList_ofList]
  exact Base64.exists_encodeOnto_eq b

theorem stands_of_mem_letters {b : Bytes} : ∀ c ∈ letters b, Stands c := by
  intro c hc
  obtain ⟨pad, hletters⟩ := exists_letters_eq b
  rw [hletters, List.mem_append, List.mem_map, List.mem_replicate] at hc
  rcases hc with ⟨n, hn, rfl⟩ | ⟨-, rfl⟩
  · exact stands_letter n (Base64.sextets_lt b n hn)
  · decide

/-! ### Marks -/

theorem head?_opening : opening.head? = some '-' := by decide

theorem head?_closing : closing.head? = some '-' := by decide

theorem head?_dashes : dashes.head? = some '-' := by decide

/-- A mark that follows is found. -/
theorem splitFrom_mark : splitFrom mark seen left (left ++ rest) =
    some (((left.reverse ++ seen).drop mark.length).reverse, rest) := by
  induction left generalizing seen with
  | nil => cases rest <;> rfl
  | cons m left ih =>
    rw [List.cons_append, splitFrom, if_pos rfl, ih]
    simp

/-- What does not hold the first character of a mark is passed over. -/
theorem splitFrom_append (h : m ∉ pre) :
    splitFrom (m :: mark) seen (m :: mark) (pre ++ rest) =
      splitFrom (m :: mark) (pre.reverse ++ seen) (m :: mark) rest := by
  induction pre generalizing seen with
  | nil => rfl
  | cons c pre ih =>
    rw [List.mem_cons, not_or] at h
    rw [List.cons_append, splitFrom, if_neg (Ne.symm h.1), ih h.2]
    simp

/-- A mark is found behind what does not hold its first character. -/
theorem split?_append (hm : mark.head? = some m) (h : m ∉ pre) :
    split? mark (pre ++ (mark ++ rest)) = some (pre, rest) := by
  obtain ⟨mark, rfl⟩ := List.head?_eq_some_iff.1 hm
  rw [split?, splitFrom_append h, splitFrom_mark, List.append_nil, List.drop_left' (by simp),
    List.reverse_reverse]

/-- A mark is not found where its first character is missing. -/
theorem split?_of_notMem (hm : mark.head? = some m) (h : m ∉ pre) : split? mark pre = none := by
  obtain ⟨mark, rfl⟩ := List.head?_eq_some_iff.1 hm
  rw [split?, ← List.append_nil pre, splitFrom_append h]
  rfl

/-! ### Lines -/

theorem wrap_cons (c : Char) (cs : List Char) (n : Nat) :
    wrap (n + 1) (c :: cs) = (c :: cs).take 64 ++ '\n' :: wrap n ((c :: cs).drop 64) := rfl

/-- Behind a line there are fewer letters. -/
theorem length_drop_line {c : Char} (h : (c :: cs).length ≤ n + 1) :
    ((c :: cs).drop 64).length ≤ n := by
  rw [List.length_drop]
  rw [List.length_cons] at h ⊢
  omega

/-- There are no empty lines. -/
theorem splitFrom_wrap (h : ∀ c ∈ cs, Stands c) (hleft : left = ['\n'] ∨ left = ['\n', '\n']) :
    splitFrom ['\n', '\n'] seen left (wrap n cs) = none := by
  induction n generalizing cs seen left with
  | zero => rcases hleft with rfl | rfl <;> rfl
  | succ n ih =>
    cases cs with
    | nil => rcases hleft with rfl | rfl <;> rfl
    | cons c cs =>
      -- a line begins with a letter, so that no mark is under way behind it
      have hc : c ≠ '\n' := (h c (List.mem_cons_self ..)).2.2.2.1
      have hline : '\n' ∉ cs.take 63 := fun hmem =>
        (h _ (List.mem_cons_of_mem _ (List.mem_of_mem_take hmem))).2.2.2.1 rfl
      have hstart : splitFrom ['\n', '\n'] seen left (wrap (n + 1) (c :: cs)) =
          splitFrom ['\n', '\n'] (c :: seen) ['\n', '\n']
            (cs.take 63 ++ '\n' :: wrap n (cs.drop 63)) := by
        rcases hleft with rfl | rfl <;>
          rw [wrap_cons, List.take_succ_cons, List.cons_append, splitFrom, if_neg hc] <;> rfl
      rw [hstart, splitFrom_append hline, splitFrom, if_pos rfl]
      exact ih (fun c hc => h c (List.mem_cons_of_mem _ (List.mem_of_mem_drop hc))) (.inl rfl)

theorem mem_wrap (h : ∀ c ∈ cs, Stands c) : ∀ c ∈ wrap n cs, c = '\n' ∨ Stands c := by
  induction n generalizing cs with
  | zero => simp [wrap]
  | succ n ih =>
    cases cs with
    | nil => simp [wrap]
    | cons c cs =>
      intro d hd
      rw [wrap_cons, List.mem_append, List.mem_cons] at hd
      rcases hd with hd | rfl | hd
      · exact .inr (h d (List.mem_of_mem_take hd))
      · exact .inl rfl
      · exact ih (fun d hd => h d (List.mem_of_mem_drop hd)) d hd

/-- What no character of lines is. -/
theorem notMem_wrap (h : ∀ c ∈ cs, Stands c) (hm : m ≠ '\n') (hstands : ¬Stands m) :
    m ∉ wrap n cs := fun hmem => (mem_wrap h m hmem).elim hm hstands

/-- No header is taken for one. -/
theorem headersAndData_wrap (h : ∀ c ∈ cs, Stands c) :
    headersAndData (wrap n cs) = ([], wrap n cs) := by
  have hblank : split? ['\n', '\n'] (wrap n cs) = none := splitFrom_wrap h (.inr rfl)
  have hreturn : split? ['\r', '\n', '\r', '\n'] (wrap n cs) = none :=
    split?_of_notMem rfl (notMem_wrap h (by decide) (by decide))
  rw [headersAndData, hblank, hreturn]
  rfl

theorem trimEnd_eq {line : List Char} (h : ∀ c ∈ line, Stands c) : trimEnd line = line := by
  have hkeep : line.reverse.dropWhile isBlank = line.reverse := by
    cases hline : line.reverse with
    | nil => rfl
    | cons c cs =>
      have hc : c ∈ line := by
        rw [← List.mem_reverse, hline]
        exact List.mem_cons_self ..
      rw [List.dropWhile_cons_of_neg (by simp [(h c hc).2.2.1])]
  rw [trimEnd, hkeep, List.reverse_reverse]

/-- Lines without their blanks are the letters. -/
theorem flatMap_lines_wrap (h : ∀ c ∈ cs, Stands c) (hn : cs.length ≤ n) :
    (lines (wrap n cs)).flatMap trimEnd = cs := by
  induction n generalizing cs with
  | zero =>
    rw [List.eq_nil_of_length_eq_zero (Nat.le_zero.1 hn)]
    rfl
  | succ n ih =>
    cases cs with
    | nil => rfl
    | cons c cs =>
      have hline : ∀ d ∈ (c :: cs).take 64, Stands d := fun d hd => h d (List.mem_of_mem_take hd)
      -- no letter that stands is a line break, so the first line ends where it was wrapped
      have hlines : lines (wrap (n + 1) (c :: cs)) =
          (c :: cs).take 64 :: lines (wrap n ((c :: cs).drop 64)) :=
        List.splitOn_append_cons_self_of_not_mem (fun hmem => (hline _ hmem).2.2.2.1 rfl) _
      rw [hlines, List.flatMap_cons, trimEnd_eq hline,
        ih (fun d hd => h d (List.mem_of_mem_drop hd)) (length_drop_line hn), List.take_append_drop]

/-- White space is not dropped where there is none. -/
theorem dropWhile_wrap (h : ∀ c ∈ cs, Stands c) (hm : rest.head? = some m)
    (hspace : isSpace m = false) :
    (wrap n cs ++ rest).dropWhile isSpace = wrap n cs ++ rest := by
  obtain ⟨rest, rfl⟩ := List.head?_eq_some_iff.1 hm
  cases n with
  | zero => exact List.dropWhile_cons_of_neg (by simp [hspace])
  | succ n =>
    cases cs with
    | nil => exact List.dropWhile_cons_of_neg (by simp [hspace])
    | cons c cs => exact List.dropWhile_cons_of_neg (by simp [(h c (List.mem_cons_self ..)).2.1])

theorem filter_wrap (h : ∀ c ∈ cs, Stands c) (hn : cs.length ≤ n) :
    (wrap n cs).filter (fun c => !isSpace c) = cs := by
  induction n generalizing cs with
  | zero =>
    rw [List.eq_nil_of_length_eq_zero (Nat.le_zero.1 hn)]
    rfl
  | succ n ih =>
    cases cs with
    | nil => rfl
    | cons c cs =>
      -- of a line and its break only the break is filtered out
      have hline : ∀ d ∈ (c :: cs).take 64, (!isSpace d) = true := fun d hd => by
        simp [(h d (List.mem_of_mem_take hd)).2.1]
      rw [wrap_cons, List.filter_append, List.filter_eq_self.2 hline,
        List.filter_cons_of_neg (by decide),
        ih (fun d hd => h d (List.mem_of_mem_drop hd)) (length_drop_line hn),
        List.take_append_drop]

/-- The lenient reader of base64 makes the bytes of lines of letters. -/
theorem loose?_wrap (b : Bytes) : loose? (wrap (letters b).length (letters b)) = some b := by
  obtain ⟨pad, hletters⟩ := exists_letters_eq b
  have hplain : ∀ c ∈ (Base64.sextets b).map Base64.letter, (c != '=') = true := by
    intro c hc
    obtain ⟨n, hn, rfl⟩ := List.mem_map.1 hc
    simpa using Base64.letter_ne_pad (Base64.sextets_lt b n hn)
  -- so the letters end where the padding begins
  have htake : (letters b).takeWhile (· != '=') = (Base64.sextets b).map Base64.letter := by
    rw [hletters, List.takeWhile_append_of_pos hplain]
    cases pad <;> simp [List.replicate_succ]
  have hdrop : (letters b).drop ((Base64.sextets b).map Base64.letter).length =
      List.replicate pad '=' := by
    rw [hletters, List.drop_left]
  have hvalues : ((Base64.sextets b).map Base64.letter).mapM Base64.value? =
      some (Base64.sextets b) := Base64.mapM_value? (Base64.sextets_lt b)
  simp only [loose?, filter_wrap stands_of_mem_letters le_rfl, htake, hdrop, hvalues]
  simp [Base64.looseGroups_sextets b le_rfl]

/-! ### Lines as the second rule has them -/

/-- What two characters of one line are like. -/
abbrev inLine (a _ : Char) : Bool := a != '\n' && a != '\r'

theorem splitBy_line {line : List Char} (h : ∀ c ∈ line, inLine c c = true) (rest : List Char) :
    (line ++ '\n' :: rest).splitBy inLine = (line ++ ['\n']) :: rest.splitBy inLine := by
  have hchain : (line ++ ['\n']).IsChain fun a b => inLine a b := by
    induction line with
    | nil => exact List.isChain_singleton _
    | cons c line ih =>
      rw [List.cons_append, List.isChain_cons]
      refine ⟨fun _ _ => ?_, ih fun d hd => h d (List.mem_cons_of_mem _ hd)⟩
      exact h c (List.mem_cons_self ..)
  rw [List.append_cons, List.splitBy_append (by simp [inLine]),
    List.splitBy_of_isChain (by simp) hchain]
  rfl

theorem not_isPrefixOf {c : Char} (hm : mark.head? = some m) (hc : c ≠ m) (cs : List Char) :
    ¬mark.isPrefixOf (c :: cs) = true := by
  obtain ⟨mark, rfl⟩ := List.head?_eq_some_iff.1 hm
  simp [List.isPrefixOf, Ne.symm hc]

/-- Lines of letters belong to the block that is open. -/
theorem search_wrap {label text : List Char} (h : ∀ c ∈ cs, Stands c) :
    search (some label) text ((wrap n cs ++ rest).splitBy inLine) =
      search (some label) (text ++ wrap n cs) (rest.splitBy inLine) := by
  induction n generalizing cs text with
  | zero => simp [wrap]
  | succ n ih =>
    cases cs with
    | nil => simp [wrap]
    | cons c cs =>
      have hline : ∀ d ∈ (c :: cs).take 64, inLine d d = true := fun d hd => by
        simpa [inLine] using (h d (List.mem_of_mem_take hd)).2.2.2
      -- the line begins no block and ends none, for it does not begin with a dash
      have hc : c ≠ '-' := (h c (List.mem_cons_self ..)).1
      have hopening := head?_opening
      have hclosing : (closing ++ label ++ dashes).head? = some '-' := by
        simp [List.head?_append, head?_closing]
      rw [wrap_cons, List.append_assoc, List.cons_append, splitBy_line hline, List.take_succ_cons,
        List.cons_append, search, if_neg (not_isPrefixOf hopening hc _)]
      rw [if_neg (not_isPrefixOf hclosing hc _), ih fun d hd => h d (List.mem_of_mem_drop hd)]
      simp

/-! ### Whole blocks -/

/-- **The first block of what is written.** -/
theorem block?_write {label : String} (hsome : label ≠ "") (hlabel : '-' ∉ label.toList)
    (b : Bytes) : block? (write label b) = some b := by
  have hstands := stands_of_mem_letters (b := b)
  let body := wrap (letters b).length (letters b)
  let last := closing ++ (label.toList ++ (dashes ++ ['\n']))
  have htext : (write label b).toList =
      opening ++ (label.toList ++ (dashes ++ ('\n' :: (body ++ last)))) := by
    simp [write, letters, body, last]
  -- the text is split at its marks, one after the other
  have hopening : split? opening (write label b).toList =
      some ([], label.toList ++ (dashes ++ ('\n' :: (body ++ last)))) := by
    rw [htext]
    exact split?_append head?_opening List.not_mem_nil
  have hdashes : split? dashes (label.toList ++ (dashes ++ ('\n' :: (body ++ last)))) =
      some (label.toList, '\n' :: (body ++ last)) := split?_append head?_dashes hlabel
  have hspace : ('\n' :: (body ++ last)).dropWhile isSpace = body ++ last := by
    rw [List.dropWhile_cons_of_pos (by decide)]
    exact dropWhile_wrap hstands (m := '-') (by simp [last, List.head?_append, head?_closing])
      (by decide)
  have hclosing : split? closing (body ++ last) =
      some (body, label.toList ++ (dashes ++ ['\n'])) :=
    split?_append head?_closing (notMem_wrap hstands (by decide) (by decide))
  have hagain : split? dashes (label.toList ++ (dashes ++ ['\n'])) = some (label.toList, ['\n']) :=
    split?_append head?_dashes hlabel
  -- between the marks stand the lines of the base64 text
  have hdata : String.ofList ((lines body).flatMap trimEnd) = Base64.encode b := by
    rw [flatMap_lines_wrap hstands le_rfl, letters, String.ofList_toList]
  have hheaders : headersAndData body = ([], body) := headersAndData_wrap hstands
  simp [block?, hopening, hdashes, hspace, hclosing, hagain, hheaders, hdata, hsome,
    Base64.decode?_encode]

/-- **The first certificate of what is written.** -/
theorem certificate_write (b : Bytes) : certificate (write certificateLabel b) = .ok b := by
  have hstands := stands_of_mem_letters (b := b)
  let label := certificateLabel.toList
  let body := wrap (letters b).length (letters b)
  have htext : (write certificateLabel b).toList =
      (opening ++ label ++ dashes) ++
        '\n' :: (body ++ ((closing ++ label ++ dashes) ++ ['\n'])) := by
    simp [write, letters, body, label]
  have hlabel : label? (opening ++ label ++ dashes ++ ['\n']) = some label := by decide +kernel
  -- the first line opens the block, and the last line closes it
  have hopen : ∀ rest, search none [] ((opening ++ label ++ dashes ++ ['\n']) :: rest) =
      search (some label) [] rest := by
    intro rest
    rw [search, if_pos (by decide +kernel), hlabel]
  have hclose : search (some label) body [closing ++ label ++ dashes ++ ['\n']] = .ok b := by
    have hknown : labels.contains (String.ofList label) = true := by decide +kernel
    rw [search, if_neg (by decide +kernel), if_pos (by decide +kernel), if_pos hknown, loose?_wrap]
    exact if_pos rfl
  have hlast : (closing ++ label ++ dashes ++ ['\n']).splitBy inLine =
      [closing ++ label ++ dashes ++ ['\n']] :=
    splitBy_line (List.all_eq_true.1 (by decide +kernel)) []
  -- the lines are the opening one, those of the body and the closing one
  rw [certificate, htext, splitBy_line (List.all_eq_true.1 (by decide +kernel)), hopen,
    search_wrap hstands, hlast]
  exact hclose

end Pem

end ReplayProxy
