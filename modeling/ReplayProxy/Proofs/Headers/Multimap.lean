import ReplayProxy.Envelope
import ReplayProxy.Proofs.Fallible
import ReplayProxy.Proofs.Headers
import ReplayProxy.Proofs.Text.Order
import ReplayProxy.Text.Utf8

/-!
# Headers as multimaps

Headers hold a list of values under each name, and names are the same whatever the case of their
letters. Written down as a list of names and values, they are known by what the list has under each
name (`namedValues`).

There are two ways to make headers. Values are added one after the other, and are found in the order
in which they were added. Or headers are read from elsewhere in any spelling, and put into their
canonical one; then the lists of names that agree are put together, in the order of the bytes of the
names. Both are a fold of one step, the addition of several values under a name
(`Canonical.values_addAll`), over a list of names with their values
(`Headers.values_foldl_addAll`). The step needs canonical headers: in these at most one name agrees
with a given one, so that a look-up that stops at the first name misses nothing.

Main statement:

* `Headers.values_collected`: what is under each name of headers that were added or read.
-/

namespace ReplayProxy

/-! ### Values by name -/

/-- The values that a list of headers has under a name, in any spelling. -/
def namedValues {α : Type} (name : String) (headers : List (String × α)) : List α :=
  (headers.filter fun h => Ascii.sameLetters h.1 name).map Prod.snd

section NamedValues

variable {α β : Type} {name : String}

theorem namedValues_cons (h : String × α) (headers : List (String × α)) :
    namedValues name (h :: headers) =
      if Ascii.sameLetters h.1 name then h.2 :: namedValues name headers
      else namedValues name headers := by
  unfold namedValues
  rw [List.filter_cons]
  split <;> rfl

theorem namedValues_congr {name' : String} (h : Ascii.sameLetters name name' = true)
    (headers : List (String × α)) : namedValues name headers = namedValues name' headers := by
  rw [Ascii.sameLetters_iff] at h
  simp only [namedValues, Ascii.sameLetters, h]

theorem namedValues_append (headers headers' : List (String × α)) :
    namedValues name (headers ++ headers') =
      namedValues name headers ++ namedValues name headers' := by
  simp [namedValues]

theorem namedValues_map (f : α → β) (headers : List (String × α)) :
    namedValues name (headers.map fun h => (h.1, f h.2)) = (namedValues name headers).map f := by
  simp [namedValues, List.filter_map, Function.comp_def]

/-- The values that one entry stands for. -/
theorem namedValues_entry (entry : String × List α) :
    namedValues name (entry.2.map fun value => (entry.1, value)) =
      if Ascii.sameLetters entry.1 name then entry.2 else [] := by
  -- the values of one entry have one name, so they are all taken or none is
  induction entry.2 with
  | nil => simp [namedValues]
  | cons value values ih =>
    rw [List.map_cons, namedValues_cons, ih]
    split <;> rfl

end NamedValues

theorem Request.headers_foldl_addHeader (calls : List (String × String)) (r : Request) :
    (calls.foldl (fun r call => r.addHeader call.1 call.2) r).headers =
      calls.foldl (fun headers call => headers.add call.1 call.2) r.headers := by
  induction calls generalizing r with
  | nil => rfl
  | cons call calls ih => exact ih (r.addHeader call.1 call.2)

theorem Response.headers_foldl_addHeader (calls : List (String × String)) (r : Response) :
    (calls.foldl (fun r call => r.addHeader call.1 call.2) r).headers =
      calls.foldl (fun headers call => headers.add call.1 call.2) r.headers := by
  induction calls generalizing r with
  | nil => rfl
  | cons call calls ih => exact ih (r.addHeader call.1 call.2)

namespace Headers

/-! ### Values that are added -/

/-- Adding values name by name collects them in their order. -/
theorem values_foldl_addAll (entries : List (String × List String)) {headers : Headers}
    (h : headers.Canonical) (name : String) :
    (entries.foldl (fun headers entry => headers.addAll entry.1 entry.2) headers).values name =
      headers.values name ++ (namedValues name entries).flatten := by
  -- what is added later comes after what is there, under every name
  induction entries generalizing headers with
  | nil => simp [namedValues]
  | cons entry entries ih =>
    rw [List.foldl_cons, ih (h.addAll entry.1 entry.2), h.values_addAll, namedValues_cons,
      List.append_assoc]
    split <;> rfl

/-- Adding headers in order collects their values in order. -/
theorem values_foldl_add (entries : List (String × String)) {headers : Headers}
    (h : headers.Canonical) (name : String) :
    (entries.foldl (fun headers entry => headers.add entry.1 entry.2) headers).values name =
      headers.values name ++ namedValues name entries := by
  -- one value is a list of one value
  have hsingle := values_foldl_addAll (entries.map fun entry => (entry.1, [entry.2])) h name
  rw [List.foldl_map, namedValues_map fun value => [value], ← List.flatMap_def,
    List.flatMap_singleton'] at hsingle
  exact hsingle

theorem values_empty (name : String) : values ∅ name = [] := by
  rw [canonical_empty.values]
  simp

theorem values_ofPairs (entries : List (String × String)) (name : String) :
    (ofPairs entries).values name = namedValues name entries := by
  rw [ofPairs, values_foldl_add entries canonical_empty, values_empty, List.nil_append]

/-- Values that came as bytes are collected as they are read. -/
theorem values_ofPairs_lossy (headers : List (String × Bytes)) (name : String) :
    (ofPairs (headers.map fun h => (h.1, Utf8.lossy h.2))).values name =
      (namedValues name headers).map Utf8.lossy := by
  rw [values_ofPairs, namedValues_map]

/-- Nothing is lost of those that are text. -/
theorem map_ofText_lossy {values : List Bytes} (h : ∀ value ∈ values, value.isText = true) :
    (values.map Utf8.lossy).map Bytes.ofText = values := by
  have htext : ∀ value ∈ values, Bytes.ofText (Utf8.lossy value) = value := by
    intro value hvalue
    obtain ⟨t, ht⟩ := Option.isSome_iff_exists.1 (h value hvalue)
    rw [Utf8.lossy, ht]
    exact Bytes.ofText_of_text? ht
  rw [List.map_map]
  exact (List.map_congr_left htext).trans (List.map_id values)

/-- What calls that add headers do: there is nothing but what they add if there was nothing before,
and what they add to canonical headers comes after what was there. -/
structure Collects (calls : List (String × String)) (headers headers' : Headers) : Prop where
  alone : headers = ∅ → ∀ name, headers'.values name = namedValues name calls ∧
    headers'.first? name = (namedValues name calls).head?
  after : headers.Canonical → ∀ name,
    headers'.values name = headers.values name ++ namedValues name calls

theorem collects_foldl_add (calls : List (String × String)) (headers : Headers) :
    Collects calls headers
      (calls.foldl (fun headers call => headers.add call.1 call.2) headers) where
  alone := by
    rintro rfl name
    have hvalues := values_ofPairs calls name
    rw [ofPairs] at hvalues
    exact ⟨hvalues, by rw [first?, hvalues]⟩
  after h name := values_foldl_add calls h name

/-! ### Headers that are read -/

/-- The entries of headers stand in the order of the bytes of their names. -/
theorem ordered_toList (headers : Headers) :
    headers.toList.Pairwise fun a b => Bytes.ofText a.1 < Bytes.ofText b.1 := by
  -- a map lists its names in the order of texts, which is that of their bytes
  refine Std.ExtTreeMap.ordered_keys_toList.imp fun {a b} h => Bytes.ofText_lt_ofText_iff.2 ?_
  exact compareOfLessAndEq_eq_lt.1 h

/-- What becomes of headers in any spelling when they are read: under each name the lists of all
names that agree with it are put together, in the order of the bytes of these names. -/
structure Merges (headers headers' : Headers) : Prop where
  values : ∀ name, headers'.values name = (namedValues name headers.toList).flatten
  first : ∀ name, headers'.first? name = (namedValues name headers.toList).flatten.head?
  ordered : headers.toList.Pairwise fun a b => Bytes.ofText a.1 < Bytes.ofText b.1
  listed : ∀ name vs, (name, vs) ∈ headers.toList ↔ headers[name]? = some vs

theorem merges_canonical (headers : Headers) : Merges headers headers.canonical := by
  have hvalues : ∀ name,
      headers.canonical.values name = (namedValues name headers.toList).flatten := by
    intro name
    rw [canonical, values_foldl_addAll _ canonical_empty, values_empty, List.nil_append]
  exact
    { values := hvalues
      first := fun name => by rw [first?, hvalues]
      ordered := ordered_toList headers
      listed := fun _ _ => Std.ExtTreeMap.mem_toList_iff_getElem?_eq_some }

/-- **Headers are multimaps whose names have no case.**

* Two names have one canonical spelling exactly when they agree up to the case of their letters,
  and a canonical spelling is its own.
* What is added to a request or a response is found under each name, in the order of the calls.
* A request or a response that is read has under each name what all names that agree with it had. -/
theorem values_collected :
    (∀ a b, canonicalName a = canonicalName b ↔ Ascii.sameLetters a b = true) ∧
    (∀ name, canonicalName (canonicalName name) = canonicalName name) ∧
    (∀ (r : Request) (calls : List (String × String)),
      Collects calls r.headers (calls.foldl (fun r call => r.addHeader call.1 call.2) r).headers) ∧
    (∀ (r : Response) (calls : List (String × String)),
      Collects calls r.headers (calls.foldl (fun r call => r.addHeader call.1 call.2) r).headers) ∧
    (∀ (f : RequestForm) (r : Request), f.request = .ok r → Merges f.headers r.headers) ∧
    ∀ (f : ResponseForm) (r : Response), f.response = .ok r → Merges f.headers r.headers := by
  refine ⟨fun a b => ?_, canonicalName_canonicalName, fun r calls => ?_, fun r calls => ?_,
    fun f r h => ?_, fun f r h => ?_⟩
  · rw [canonicalName_eq_iff, Ascii.sameLetters_iff]
  · rw [Request.headers_foldl_addHeader]
    exact collects_foldl_add calls r.headers
  · rw [Response.headers_foldl_addHeader]
    exact collects_foldl_add calls r.headers
  · -- reading a form may fail at the body, but the headers are merged without fail
    obtain ⟨body, -, hr⟩ := bind_eq_ok_iff.1 h
    cases hr
    exact merges_canonical f.headers
  · obtain ⟨body, -, hr⟩ := bind_eq_ok_iff.1 h
    cases hr
    exact merges_canonical f.headers

/-- A request whose headers have two spellings of one name. -/
def traced : RequestForm where
  method := "GET"
  headers := ((∅ : Headers).insert "x-trace" ["1"]).insert "X-Trace" ["2", "3"]

/-- What is added under two spellings is found under a third, and so is what is read under two: the
large letter stands before the small one, and so do its values. -/
theorem values_collected_traced :
    canonicalName "x-TRACE" = canonicalName "X-trace" ∧
      (([("accept", "text/html"), ("Host", "a"), ("Accept", "*/*")].foldl
        (fun r call => r.addHeader call.1 call.2) ({} : Request)).headers.values "ACCEPT" =
          ["text/html", "*/*"]) ∧
      ∃ r, traced.request = .ok r ∧ r.headers.values "X-TRACE" = ["2", "3", "1"] ∧
        r.headers.first? "X-TRACE" = some "2" := by
  obtain ⟨hnames, -, hcalls, -, hread, -⟩ := values_collected
  obtain ⟨r, hr⟩ : ∃ r, traced.request = .ok r := ⟨_, rfl⟩
  have hcollects := hcalls {} [("accept", "text/html"), ("Host", "a"), ("Accept", "*/*")]
  have hread := hread traced r hr
  -- names are compared without their case in a form that evaluates
  have hmerged : (namedValues "X-TRACE" traced.headers.toList).flatten = ["2", "3", "1"] := by
    simp only [namedValues, Ascii.sameLetters_eq]
    decide +kernel
  refine ⟨(hnames _ _).2 ?_, (hcollects.alone rfl "ACCEPT").1.trans ?_, r, hr, ?_, ?_⟩
  · rw [Ascii.sameLetters_eq]
    decide +kernel
  · simp only [namedValues, Ascii.sameLetters_eq]
    decide +kernel
  · rw [hread.values, hmerged]
  · rw [hread.first, hmerged]
    rfl

end Headers

end ReplayProxy
