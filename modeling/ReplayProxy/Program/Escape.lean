import ReplayProxy.Text.Ascii
import ReplayProxy.Text.Bytes

/-!
# Escapes

Several small programs let a backslash stand for a byte that is hard to type. They agree on
the letters and on octal digits, and differ in the rest: whether hexadecimal digits and
quotes may be escaped, whether an octal number may have a zero of its own in front, and
whether `\c` ends the text.
-/

namespace ReplayProxy.Program

/-- The bytes of a text. -/
def raw (s : String) : Bytes := Bytes.ofText s

/-- What is left of a list behind its first element is shorter than the list. -/
theorem length_drop_lt (b : UInt8) (rest : Bytes) (n : Nat) :
    (rest.drop n).length < (b :: rest).length :=
  Nat.lt_succ_of_le (by rw [List.length_drop]; exact Nat.sub_le _ _)

/-- The escapes on which programs differ. -/
structure EscapeStyle where
  /-- `\0` may be followed by three octal digits. -/
  leadingZero : Bool
  /-- `\x` and up to two hexadecimal digits. -/
  hexadecimal : Bool
  /-- `\c` ends the text. -/
  ends : Bool
  /-- `\"`. -/
  quote : Bool

/-- What an escape stands for, with the number of bytes after the backslash that it takes. -/
inductive Escaped where
  | byte (value : UInt8) (taken : Nat)
  | ending
  /-- No escape: the backslash stands for itself. -/
  | none

/-- The byte of a one-letter escape. -/
def letterEscape? (b : UInt8) : Option UInt8 :=
  match Char.ofNat b.toNat with
  | 'a' => some 0x07
  | 'b' => some 0x08
  | 'f' => some 0x0C
  | 'n' => some 0x0A
  | 'r' => some 0x0D
  | 't' => some 0x09
  | 'v' => some 0x0B
  | '\\' => some 0x5C
  | _ => none

/-- The digits of a base at the front of a text, at most `limit` of them: their value and
their number. -/
def digitsIn (base limit : Nat) (s : Bytes) : Nat × Nat :=
  let digits := (s.take limit).takeWhile fun b =>
    ((Ascii.hexValue? (Char.ofNat b.toNat)).any (· < base))
  (digits.foldl (fun n b => n * base + (Ascii.hexValue? (Char.ofNat b.toNat)).getD 0) 0,
    digits.length)

/-- Reads what follows a backslash. -/
def EscapeStyle.escape (style : EscapeStyle) : Bytes → Escaped
  | [] => .none
  | e :: rest =>
    match letterEscape? e with
    | some x => .byte x 1
    | none =>
      if 0x30 ≤ e ∧ e ≤ 0x37 then
        if style.leadingZero ∧ e = 0x30 then
          let (value, digits) := digitsIn 8 3 rest
          .byte (UInt8.ofNat value) (digits + 1)
        else
          let (value, digits) := digitsIn 8 3 (e :: rest)
          .byte (UInt8.ofNat value) digits
      else
        match Char.ofNat e.toNat with
        | 'e' => .byte 0x1B 1
        | 'c' => if style.ends then .ending else .none
        | '"' => if style.quote then .byte e 1 else .none
        | 'x' =>
          let (value, digits) := digitsIn 16 2 rest
          if style.hexadecimal && digits != 0 then .byte (UInt8.ofNat value) (digits + 1)
          else .none
        | _ => .none

/-- Resolves the escapes of a text; also tells whether the text ends everything. -/
def EscapeStyle.resolve (style : EscapeStyle) : Bytes → Bytes × Bool
  | [] => ([], false)
  | b :: rest =>
    let next := if b = 0x5C then style.escape rest else .none
    match next with
    | .ending => ([], true)
    | .byte x taken =>
      let (more, ended) := resolve style (rest.drop taken)
      (x :: more, ended)
    | .none =>
      let (more, ended) := resolve style rest
      (b :: more, ended)
termination_by s => s.length
decreasing_by
  · exact length_drop_lt b rest _
  · exact Nat.lt_succ_self _

end ReplayProxy.Program
