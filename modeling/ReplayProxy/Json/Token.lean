import ReplayProxy.Json.Number
import ReplayProxy.Text.Bytes

/-!
# Tokens of JSON text

The lexical level of JSON (RFC 8259): brackets, separators, literals, numbers and strings,
with blanks (space, tab, line feed, carriage return) between them.

A string token carries its text only when the text can be used: a lone surrogate escape or
malformed UTF-8 leaves a token without text. Such a string is still a token, so that a
value nobody looks at may hold it.

`Token.next?` takes the first token off a byte string; what remains is shorter
(`next?_shorter`), which bounds every loop over tokens.
-/

namespace ReplayProxy.Json

/-- A token of JSON text. -/
inductive Token where
  | openArray
  | closeArray
  | openObject
  | closeObject
  | comma
  | colon
  | null
  | boolean (value : Bool)
  | number (value : Numeral)
  /-- A string, with its text unless that cannot be used. -/
  | string (text : Option String)
  /-- Bytes that begin no token. -/
  | fault
  deriving Repr, DecidableEq

/-- The blanks of JSON. -/
def isSpace (b : UInt8) : Bool := b == 0x20 || b == 0x0A || b == 0x0D || b == 0x09

/-- A decimal digit. -/
def isDigitByte (b : UInt8) : Bool := 0x30 ≤ b && b ≤ 0x39

/-- What a string is made of between its quotes: bytes, and the units of `\u` escapes. -/
inductive Piece where
  | byte (value : UInt8)
  | unit (value : Nat)
  deriving Repr, DecidableEq

namespace Piece

/-- The first half of a surrogate pair. -/
def isHigh (n : Nat) : Bool := 0xD800 ≤ n && n ≤ 0xDBFF

/-- The second half of a surrogate pair. -/
def isLow (n : Nat) : Bool := 0xDC00 ≤ n && n ≤ 0xDFFF

/-- The bytes of the character with a code point, in reverse. -/
def encode (n : Nat) : Bytes := (String.utf8EncodeChar (Char.ofNat n)).reverse

/-- The bytes of a string, `done` (reversed) being those joined so far. Two halves of a
surrogate pair join; a half on its own has no bytes. -/
def join (done : Bytes) : List Piece → Option Bytes
  | [] => some done.reverse
  | .byte b :: rest => join (b :: done) rest
  | .unit n :: rest =>
    if isLow n then none
    else if isHigh n then
      match rest with
      | .unit m :: rest' =>
        if isLow m then join (encode (0x10000 + (n - 0xD800) * 0x400 + (m - 0xDC00)) ++ done) rest'
        else none
      | _ => none
    else join (encode n ++ done) rest

end Piece

namespace Token

/-- The value of a hexadecimal digit. -/
def hexValue? (b : UInt8) : Option Nat :=
  if 0x30 ≤ b ∧ b ≤ 0x39 then some (b.toNat - 0x30)
  else if 0x61 ≤ b ∧ b ≤ 0x66 then some (b.toNat - 0x57)
  else if 0x41 ≤ b ∧ b ≤ 0x46 then some (b.toNat - 0x37)
  else none

/-- The value of four hexadecimal digits. -/
def hexUnit? (a b c d : UInt8) : Option Nat := do
  some ((((← hexValue? a) * 16 + (← hexValue? b)) * 16 + (← hexValue? c)) * 16 + (← hexValue? d))

/-- The byte that a one-letter escape stands for. -/
def escape? (b : UInt8) : Option UInt8 :=
  if b = 0x22 ∨ b = 0x5C ∨ b = 0x2F then some b
  else if b = 0x62 then some 0x08
  else if b = 0x66 then some 0x0C
  else if b = 0x6E then some 0x0A
  else if b = 0x72 then some 0x0D
  else if b = 0x74 then some 0x09
  else none

/-- Reads a string up to its closing quote; `done` (reversed) holds its pieces so far.
Control characters must be escaped. -/
def pieces (done : List Piece) : Bytes → Option (List Piece × Bytes)
  | 0x22 :: rest => some (done.reverse, rest)
  | 0x5C :: 0x75 :: a :: b :: c :: d :: rest =>
    match hexUnit? a b c d with
    | some n => pieces (.unit n :: done) rest
    | none => none
  | 0x5C :: e :: rest =>
    match escape? e with
    | some b => pieces (.byte b :: done) rest
    | none => none
  | b :: rest => if b < 0x20 ∨ b = 0x5C then none else pieces (.byte b :: done) rest
  | [] => none

/-- The text of a string, if it can be used. -/
def textOf (ps : List Piece) : Option String := (Piece.join [] ps).bind Bytes.text?

/-- The digits at the front, as values. -/
def digits (s : Bytes) : List Nat × Bytes :=
  ((s.takeWhile isDigitByte).map fun b => b.toNat - 0x30, s.dropWhile isDigitByte)

/-- The sign at the front of an exponent: true for minus. -/
def sign : Bytes → Bool × Bytes
  | 0x2D :: r => (true, r)
  | 0x2B :: r => (false, r)
  | r => (false, r)

/-- The exponent at the front, if one is written: `none` for a malformed one. -/
def exponent? : Bytes → Option (Option (Bool × List Nat) × Bytes)
  | e :: rest =>
    if e = 0x65 ∨ e = 0x45 then
      match digits (sign rest).2 with
      | ([], _) => none
      | (ds, r) => some (some ((sign rest).1, ds), r)
    else some (none, e :: rest)
  | [] => some (none, [])

/-- The fraction at the front, if one is written: `none` for a point without digits. -/
def fraction? : Bytes → Option (List Nat × Bytes)
  | 0x2E :: rest =>
    match digits rest with
    | ([], _) => none
    | (ds, r) => some (ds, r)
  | s => some ([], s)

/-- The number at the front, its sign already read. A leading zero stands alone. -/
def numeral? (negative : Bool) (s : Bytes) : Option (Numeral × Bytes) :=
  match digits s with
  | ([], _) => none
  | (0 :: _ :: _, _) => none
  | (whole, r) => do
    let (fraction, r) ← fraction? r
    let (exponent, r) ← exponent? r
    some (⟨negative, whole, fraction, exponent⟩, r)

/-- The first token after blanks and what follows it; `none` at the end of the text. A
fault takes the rest of the text with it. -/
def lex : Bytes → Token × Bytes
  | 0x5B :: r => (.openArray, r)
  | 0x5D :: r => (.closeArray, r)
  | 0x7B :: r => (.openObject, r)
  | 0x7D :: r => (.closeObject, r)
  | 0x2C :: r => (.comma, r)
  | 0x3A :: r => (.colon, r)
  | 0x6E :: 0x75 :: 0x6C :: 0x6C :: r => (.null, r)
  | 0x74 :: 0x72 :: 0x75 :: 0x65 :: r => (.boolean true, r)
  | 0x66 :: 0x61 :: 0x6C :: 0x73 :: 0x65 :: r => (.boolean false, r)
  | 0x22 :: r =>
    match pieces [] r with
    | some (ps, r) => (.string (textOf ps), r)
    | none => (.fault, [])
  | 0x2D :: r =>
    match numeral? true r with
    | some (n, r) => (.number n, r)
    | none => (.fault, [])
  | s =>
    match numeral? false s with
    | some (n, r) => (.number n, r)
    | none => (.fault, [])

/-- The first token of a text and what follows it; `none` when only blanks are left. -/
def next? (s : Bytes) : Option (Token × Bytes) :=
  match s.dropWhile isSpace with
  | [] => none
  | b :: r => some (lex (b :: r))

/-! ### What follows a token is shorter -/

section Shorter

variable {s r : Bytes}

/-- The closing quote at least is taken. -/
theorem pieces_shorter {done ps : List Piece} (h : pieces done s = some (ps, r)) :
    r.length < s.length := by
  fun_induction pieces done s with
  | case1 done rest =>
    cases h
    exact Nat.lt_succ_self _
  | case2 done a b c d rest n hunit ih =>
    have hrest := ih h
    simp only [List.length_cons]
    omega
  | case4 done e rest _ b hescape ih =>
    have hrest := ih h
    simp only [List.length_cons]
    omega
  | case7 done b rest _ _ _ hplain ih => exact Nat.lt_succ_of_lt (ih h)
  -- an escape that is none, a control character and the end of the text are no strings
  | case3 | case5 | case6 | case8 => cases h

theorem digits_length (s : Bytes) : (digits s).1.length + (digits s).2.length = s.length := by
  rw [digits, List.length_map, ← List.length_append, List.takeWhile_append_dropWhile]

theorem digits_le (s : Bytes) : (digits s).2.length ≤ s.length := by
  have hlength := digits_length s
  omega

/-- What follows digits that were read is no longer than the text. -/
theorem le_of_digits {ds : List Nat} (h : digits s = (ds, r)) : r.length ≤ s.length := by
  have hle := digits_le s
  rwa [h] at hle

theorem digits_shorter {d : Nat} {ds : List Nat} (h : digits s = (d :: ds, r)) :
    r.length < s.length := by
  have hlength := digits_length s
  simp only [h, List.length_cons] at hlength
  omega

theorem sign_le (s : Bytes) : (sign s).2.length ≤ s.length := by
  unfold sign
  split
  · exact Nat.le_succ _
  · exact Nat.le_succ _
  · exact Nat.le_refl _

theorem exponent?_le {x : Option (Bool × List Nat)} (h : exponent? s = some (x, r)) :
    r.length ≤ s.length := by
  unfold exponent? at h
  split at h
  · next e rest =>
    split at h
    · split at h
      · cases h
      · next hdigits =>
        cases h
        calc r.length
          _ ≤ (sign rest).2.length := le_of_digits hdigits
          _ ≤ rest.length := sign_le rest
          _ ≤ (e :: rest).length := Nat.le_succ _
    · cases h
      exact Nat.le_refl _
  · cases h
    exact Nat.le_refl _

theorem fraction?_le {x : List Nat} (h : fraction? s = some (x, r)) : r.length ≤ s.length := by
  unfold fraction? at h
  split at h
  · split at h
    · cases h
    · next hdigits =>
      cases h
      exact Nat.le_succ_of_le (le_of_digits hdigits)
  · cases h
    exact Nat.le_refl _

/-- A number has a digit in front of its point. -/
theorem numeral?_shorter {negative : Bool} {n : Numeral} (h : numeral? negative s = some (n, r)) :
    r.length < s.length := by
  unfold numeral? at h
  split at h
  · cases h
  · cases h
  · next whole left hsome _ hdigits =>
    obtain ⟨⟨fraction, left₁⟩, hfraction, h⟩ := Option.bind_eq_some_iff.1 h
    obtain ⟨⟨exponent, left₂⟩, hexponent, h⟩ := Option.bind_eq_some_iff.1 h
    cases h
    have hwhole : left.length < s.length := by
      cases whole with
      | nil => exact absurd rfl hsome
      | cons d ds => exact digits_shorter hdigits
    calc r.length
      _ ≤ left₁.length := exponent?_le hexponent
      _ ≤ left.length := fraction?_le hfraction
      _ < s.length := hwhole

/-- A fault leaves nothing, and any other token takes the byte that it begins with. -/
theorem lex_shorter (b : UInt8) (s : Bytes) : (lex (b :: s)).2.length < (b :: s).length := by
  unfold lex
  split
  -- brackets and separators
  case h_1 heq | h_2 heq | h_3 heq | h_4 heq | h_5 heq | h_6 heq =>
    rw [heq]
    exact Nat.lt_succ_self _
  -- literals
  case h_7 heq | h_8 heq | h_9 heq =>
    rw [heq]
    simp only [List.length_cons]
    omega
  -- strings
  case h_10 heq =>
    rw [heq]
    split
    · next hpieces => exact Nat.lt_succ_of_lt (pieces_shorter hpieces)
    · exact Nat.succ_pos _
  -- numbers, whose sign is taken before they are read
  case h_11 heq =>
    rw [heq]
    split
    · next hnumeral => exact Nat.lt_succ_of_lt (numeral?_shorter hnumeral)
    · exact Nat.succ_pos _
  case h_12 =>
    split
    · next hnumeral => exact numeral?_shorter hnumeral
    · exact Nat.succ_pos _

/-- What follows a token is shorter than the text. -/
theorem next?_shorter {t : Token} (h : next? s = some (t, r)) : r.length < s.length := by
  unfold next? at h
  split at h
  · cases h
  · next b rest hdrop =>
    have hlex := lex_shorter b rest
    rw [Option.some.inj h] at hlex
    calc r.length
      _ < (b :: rest).length := hlex
      _ = (s.dropWhile isSpace).length := by rw [hdrop]
      _ ≤ s.length := (List.dropWhile_sublist _).length_le

end Shorter

end Token

end ReplayProxy.Json
