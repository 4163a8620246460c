import ReplayProxy.Text.Bytes

/-!
# DER

The distinguished encoding of ASN.1, in which certificates and keys are written: every
value is an element, that is a tag, a length and a content; the content of a constructed
element is a row of elements. Lengths below 128 take one byte; longer ones take as many
bytes as they need, after a byte that counts them.

Numbers are big-endian and take no more bytes than they need; one more zero byte keeps a
number from being read as negative.
-/

namespace ReplayProxy.Der

/-! ### Writing -/

/-- A number in as few bytes as possible, and at least one. -/
def number (n : Nat) : Bytes := Bytes.bigEndian (n.log2 / 8 + 1) n

/-- The bytes of a length. -/
def lengthBytes (n : Nat) : Bytes :=
  if n < 128 then [UInt8.ofNat n]
  else
    let bs := number n
    UInt8.ofNat (128 + bs.length) :: bs

/-- An element. -/
def element (tag : UInt8) (content : Bytes) : Bytes :=
  tag :: lengthBytes content.length ++ content

/-- Elements one after the other. -/
def sequence (elements : List Bytes) : Bytes := element 0x30 elements.flatten

/-- Elements of a set, which are in order already. -/
def set (elements : List Bytes) : Bytes := element 0x31 elements.flatten

/-- The bytes of a natural number as an integer. -/
def integerBytes (n : Nat) : Bytes :=
  match number n with
  | b :: rest => if b ≥ 0x80 then 0 :: b :: rest else b :: rest
  | [] => []

/-- A natural number. -/
def integer (n : Nat) : Bytes := element 0x02 (integerBytes n)

/-- An identifier, given by its bytes. -/
def identifier (id : Bytes) : Bytes := element 0x06 id

/-- A string of bytes. -/
def octets (b : Bytes) : Bytes := element 0x04 b

/-- A string of bits that fills its last byte but for `unused` bits. -/
def bits (b : Bytes) (unused : UInt8 := 0) : Bytes := element 0x03 (unused :: b)

/-- A truth value that is true. -/
def truth : Bytes := element 0x01 [0xFF]

/-- Nothing. -/
def null : Bytes := element 0x05 []

/-- An element inside a numbered one. -/
def explicit (n : UInt8) (inner : Bytes) : Bytes := element (0xA0 + n) inner

/-! ### Reading -/

/-- An element as it is read. -/
structure Element where
  tag : UInt8
  content : Bytes
  deriving DecidableEq, Repr

/-- Reads a length. -/
def length? : Bytes → Option (Nat × Bytes)
  | [] => none
  | b :: rest =>
    if b < 128 then some (b.toNat, rest)
    else
      let k := b.toNat - 128
      if k = 0 || k > 4 || rest.length < k then none
      else some (Bytes.toNat (rest.take k), rest.drop k)

/-- Reads an element. Tags of more than one byte are not used here. -/
def next? : Bytes → Option (Element × Bytes)
  | [] => none
  | tag :: rest =>
    if tag &&& 0x1F = 0x1F then none
    else
      match length? rest with
      | none => none
      | some (n, rest) =>
        if rest.length < n then none else some (⟨tag, rest.take n⟩, rest.drop n)

/-- Reads a row of at most `most` elements. -/
def elementsUpTo : Nat → Bytes → Option (List Element)
  | _, [] => some []
  | 0, _ => none
  | most + 1, b => do
    let (e, rest) ← next? b
    return e :: (← elementsUpTo most rest)

/-- Reads a row of elements. -/
def elements? (b : Bytes) : Option (List Element) := elementsUpTo b.length b

/-- The bytes of an element. -/
def Element.bytes (e : Element) : Bytes := element e.tag e.content

/-- The content of an element, if it has this tag. -/
def Element.content? (e : Element) (tag : UInt8) : Option Bytes :=
  if e.tag = tag then some e.content else none

/-- The elements inside an element, if it has this tag. -/
def Element.inside? (e : Element) (tag : UInt8) : Option (List Element) := do
  elements? (← e.content? tag)

/-- The only element that bytes hold. -/
def only? (b : Bytes) : Option Element :=
  match next? b with
  | some (e, []) => some e
  | _ => none

/-- The number in an integer, which must not be negative. -/
def Element.natural? (e : Element) : Option Nat := do
  match ← e.content? 0x02 with
  | [] => none
  | b :: rest => if b ≥ 0x80 then none else some (Bytes.toNat (b :: rest))

/-- The bytes in a string of bits that fills its last byte. -/
def Element.wholeBits? (e : Element) : Option Bytes := do
  match ← e.content? 0x03 with
  | 0 :: b => some b
  | _ => none

end ReplayProxy.Der
