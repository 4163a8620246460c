/-!
# Byte strings

Bodies, store keys and wire data are lists of bytes. A byte string *is text* when it is
well-formed UTF-8; `Bytes.text?` reads it and `Bytes.ofText` writes it, and the two are
inverse to each other (`text?_ofText`, `ofText_of_text?`).

Byte strings are ordered lexicographically by their bytes, which is the order of every
enumeration of a store.
-/

namespace ReplayProxy

/-- A byte string. -/
abbrev Bytes := List UInt8

namespace Bytes

/-- The UTF-8 form of a text. -/
def ofText (s : String) : Bytes := s.toByteArray.data.toList

/-- The text that a byte string is the UTF-8 form of, if it is well formed. -/
def text? (b : Bytes) : Option String := String.fromUTF8? ⟨b.toArray⟩

/-- Well-formed UTF-8. -/
def isText (b : Bytes) : Bool := b.text?.isSome

@[simp] theorem text?_ofText (s : String) : (ofText s).text? = some s := by
  simp [text?, ofText, String.fromUTF8?, String.fromUTF8, s.isValidUTF8]

theorem ofText_of_text? {b : Bytes} {s : String} (h : b.text? = some s) : ofText s = b := by
  unfold text? String.fromUTF8? at h
  split at h
  · cases h
    rfl
  · simp at h

theorem ofText_injective {s t : String} (h : ofText s = ofText t) : s = t := by
  have : (ofText s).text? = (ofText t).text? := by rw [h]
  simpa using this

/-- The digit of a value below sixteen, in lower case. -/
def hexDigit (n : Nat) : Char := (Nat.digitChar n)

/-- Two lower-case hexadecimal digits for each byte. -/
def hex (b : Bytes) : String :=
  String.ofList (b.flatMap fun x => [hexDigit (x.toNat / 16), hexDigit (x.toNat % 16)])

/-- The `width` low bytes of a number, most significant first. -/
def bigEndian : Nat → Nat → Bytes
  | 0, _ => []
  | width + 1, n => bigEndian width (n / 256) ++ [UInt8.ofNat n]

@[simp] theorem length_bigEndian (width n : Nat) : (bigEndian width n).length = width := by
  induction width generalizing n with
  | zero => rfl
  | succ w ih => simp [bigEndian, ih]

/-- The number whose bytes, most significant first, these are. -/
def toNat (b : Bytes) : Nat := b.foldl (fun n x => n * 256 + x.toNat) 0

end Bytes

end ReplayProxy
