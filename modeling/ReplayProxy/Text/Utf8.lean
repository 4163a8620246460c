import ReplayProxy.Text.Bytes

/-!
# Reading damaged UTF-8

Texts of foreign origin (what a program writes on its error channel, header values, store
keys in messages) are shown even when they are not well-formed UTF-8: every maximal piece
that could begin a character but does not complete one, and every byte that can begin
none, becomes the replacement character.

The reader is a machine over the bytes. Between characters it has nothing `Pending`;
inside one it knows the bits so far, how many bytes are owed, and which range the next
byte must lie in.
-/

namespace ReplayProxy.Utf8

/-- The character that stands for an unreadable piece. -/
def replacement : Char := '\uFFFD'

/-- A character whose first bytes have been read. -/
structure Pending where
  /-- The bits read so far. -/
  bits : Nat
  /-- How many bytes are still owed. -/
  owed : Nat
  /-- The least byte that may come next. -/
  low : Nat := 0x80
  /-- The greatest byte that may come next. -/
  high : Nat := 0xBF
  deriving Repr, DecidableEq

/-- What a byte between characters does: it is a character, begins one, or is unreadable
(the replacement character). -/
def start (b : UInt8) : Char ⊕ Pending :=
  let n := b.toNat
  if n < 0x80 then .inl (Char.ofNat n)
  else if n < 0xC2 then .inl replacement
  else if n < 0xE0 then .inr { bits := n - 0xC0, owed := 1 }
  else if n = 0xE0 then .inr { bits := 0, owed := 2, low := 0xA0 }
  else if n = 0xED then .inr { bits := 0xD, owed := 2, high := 0x9F }
  else if n < 0xF0 then .inr { bits := n - 0xE0, owed := 2 }
  else if n = 0xF0 then .inr { bits := 0, owed := 3, low := 0x90 }
  else if n < 0xF4 then .inr { bits := n - 0xF0, owed := 3 }
  else if n = 0xF4 then .inr { bits := 4, owed := 3, high := 0x8F }
  else .inl replacement

/-- Whether a byte continues the pending character. -/
def Pending.accepts (p : Pending) (b : UInt8) : Bool :=
  p.low ≤ b.toNat && b.toNat ≤ p.high

/-- Adds six bits; the last owed byte completes the character. -/
def Pending.push (p : Pending) (b : UInt8) : Char ⊕ Pending :=
  let bits := p.bits * 64 + (b.toNat - 0x80)
  if p.owed ≤ 1 then .inl (Char.ofNat bits) else .inr { bits, owed := p.owed - 1 }

/-- Reads on, with `pending` in front. -/
def readFrom : Option Pending → Bytes → List Char
  | none, [] => []
  | some _, [] => [replacement]
  | none, b :: rest =>
    match start b with
    | .inl c => c :: readFrom none rest
    | .inr p => readFrom (some p) rest
  | some p, b :: rest =>
    if p.accepts b then
      match p.push b with
      | .inl c => c :: readFrom none rest
      | .inr q => readFrom (some q) rest
    else
      match start b with
      | .inl c => replacement :: c :: readFrom none rest
      | .inr q => replacement :: readFrom (some q) rest

/-- The text nearest to a byte string: well-formed bytes read as themselves, and every
unreadable piece reads as one replacement character. -/
def lossy (b : Bytes) : String :=
  match b.text? with
  | some s => s
  | none => String.ofList (readFrom none b)

@[simp] theorem lossy_ofText (s : String) : lossy (Bytes.ofText s) = s := by
  simp [lossy]

/-- The bytes of one character. -/
def encodeChar (c : Char) : Bytes := String.utf8EncodeChar c

end ReplayProxy.Utf8
