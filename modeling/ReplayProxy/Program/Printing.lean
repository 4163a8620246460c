import ReplayProxy.Program.Basic
import ReplayProxy.Program.Escape

/-!
# `echo` and `printf`

The two programs that write their arguments. A shell has its own of both, which differ from
the programs in the escapes that they resolve and in the options of `echo`.

A format is a list of directives. It is gone through again and again while it takes
arguments and some are left; an argument that is missing is empty or zero.
-/

namespace ReplayProxy.Program

/-- Arguments with single spaces between them. -/
def spaced (args : List Bytes) : Bytes := [0x20].intercalate args

/-- The escapes that a program resolves. -/
structure PrintStyle where
  /-- In the format of `printf`. -/
  format : EscapeStyle
  /-- In the words of `echo`, and where the format says `%b`. -/
  word : EscapeStyle
  /-- The status when a directive is none. -/
  failure : Nat

/-- The escapes of a shell. -/
def PrintStyle.shell : PrintStyle where
  format := { leadingZero := false, hexadecimal := false, ends := false, quote := false }
  word := { leadingZero := true, hexadecimal := false, ends := true, quote := false }
  failure := 2

/-- The escapes of the programs. -/
def PrintStyle.program : PrintStyle where
  format := { leadingZero := false, hexadecimal := true, ends := true, quote := true }
  word := { leadingZero := true, hexadecimal := true, ends := true, quote := false }
  failure := 1

/-- The `echo` of a shell: `-n` leaves out the line feed, and escapes are resolved. -/
def shellEcho (args : List Bytes) : Bytes :=
  let (words, newline) := match args with
    | a :: rest => if a = raw "-n" then (rest, false) else (args, true)
    | [] => (args, true)
  let (text, ended) := PrintStyle.shell.word.resolve (spaced words)
  if ended || !newline then text else text ++ [0x0A]

/-- The options of the program `echo` at the front of its arguments: whether a line feed is
written, and whether escapes are resolved. -/
def echoOptions (newline escapes : Bool) : List Bytes → Bool × Bool × List Bytes
  | (0x2D :: letters) :: rest =>
    if !letters.isEmpty && letters.all (fun b => b == 0x6E || b == 0x65 || b == 0x45) then
      let escapes := letters.foldl (fun on b => b == 0x65 || on && b != 0x45) escapes
      echoOptions (newline && !letters.contains 0x6E) escapes rest
    else (newline, escapes, (0x2D :: letters) :: rest)
  | args => (newline, escapes, args)

/-- The program `echo`. -/
def echo (args : List Bytes) : Bytes :=
  let (newline, escapes, words) := echoOptions true false args
  let (text, ended) :=
    if escapes then PrintStyle.program.word.resolve (spaced words) else (spaced words, false)
  if ended || !newline then text else text ++ [0x0A]

/-! ### Formats -/

/-- A width or a precision: given, or taken from the arguments. -/
inductive Extent where
  | fixed (value : Nat)
  | argument

/-- A part of a format. -/
inductive Directive where
  | literal (value : UInt8)
  /-- The next argument as the letter says. -/
  | argument (flags : List Char) (width : Option Extent) (precision : Option Extent) (letter : Char)
  /-- Nothing is written from here on. -/
  | ending
  /-- What is no directive. -/
  | unknown

/-- Reads a width or a precision. -/
def readExtent (s : Bytes) : Option Extent × Bytes :=
  match s with
  | 0x2A :: rest => (some .argument, rest)
  | s =>
    let (value, digits) := digitsIn 10 20 s
    (if digits = 0 then none else some (.fixed value), s.drop digits)

/-- The letters of directives that take an argument. -/
def argumentLetters : List Char := ['s', 'b', 'c', 'd', 'i', 'u', 'o', 'x', 'X']

/-- A character that is a flag of a directive. -/
def isFlag (b : UInt8) : Bool := ['-', '+', ' ', '0', '#'].contains (Char.ofNat b.toNat)

/-- Reads what follows a percent sign. The directive takes all of the text but the rest. -/
def readDirective (s : Bytes) : Directive × Nat :=
  match s with
  | 0x25 :: _ => (.literal 0x25, 1)
  | s =>
    let flags := s.takeWhile isFlag
    let (width, s₁) := readExtent (s.drop flags.length)
    let (precision, s₂) := match s₁ with
      | 0x2E :: rest =>
        let (p, rest) := readExtent rest
        (some (p.getD (.fixed 0)), rest)
      | rest => (none, rest)
    match s₂ with
    | [] => (.unknown, s.length)
    | b :: rest =>
      let letter := Char.ofNat b.toNat
      if argumentLetters.contains letter then
        (.argument (flags.map fun b => Char.ofNat b.toNat) width precision letter,
          s.length - rest.length)
      else (.unknown, s.length)

/-- The first directive of a format that begins with `b`, and how much of the rest it takes. -/
def firstDirective (style : EscapeStyle) (b : UInt8) (rest : Bytes) : Directive × Nat :=
  if b = 0x5C then
    match style.escape rest with
    | .byte x taken => (.literal x, taken)
    | .ending => (.ending, rest.length)
    | .none => (.literal b, 0)
  else if b = 0x25 then readDirective rest
  else (.literal b, 0)

/-- The directives of a format. -/
def directives (style : EscapeStyle) : Bytes → List Directive
  | [] => []
  | b :: rest =>
    let first := firstDirective style b rest
    first.1 :: directives style (rest.drop first.2)
termination_by s => s.length
decreasing_by exact length_drop_lt b rest _

/-! ### Arguments -/

/-- The number that an argument writes, and whether it writes nothing else: decimal digits,
octal digits after a zero, hexadecimal digits after `0x`, or the code of a character after
a quote. A number that is too large is the largest one. -/
def number (least most : Int) (arg : Bytes) : Int × Bool :=
  match arg with
  | [] => (0, true)
  | 0x27 :: b :: _ | 0x22 :: b :: _ => (b.toNat, true)
  | arg =>
    let arg := arg.dropWhile (· == 0x20)
    let (negative, digits) := match arg with
      | 0x2D :: rest => (true, rest)
      | 0x2B :: rest => (false, rest)
      | rest => (false, rest)
    let (base, digits) := match digits with
      | 0x30 :: 0x78 :: rest | 0x30 :: 0x58 :: rest => (16, rest)
      | 0x30 :: rest => (8, 0x30 :: rest)
      | rest => (10, rest)
    let (value, count) := digitsIn base digits.length digits
    let value : Int := if negative then -(value : Int) else value
    let near := max least (min most value)
    (near, count != 0 && count == digits.length && near == value)

/-- The numbers of sixty-four bits with a sign. -/
def signedNumber (arg : Bytes) : Int × Bool :=
  number (-9223372036854775808) 9223372036854775807 arg

/-- The numbers of sixty-four bits without a sign; a sign in front takes them around. -/
def unsignedNumber (arg : Bytes) : Int × Bool :=
  number (-18446744073709551615) 18446744073709551615 arg

/-- A text filled up to a width with spaces, at its end if `left`. -/
def pad (left : Bool) (width : Nat) (text : Bytes) : Bytes :=
  let fill := List.replicate (width - text.length) 0x20
  if left then text ++ fill else fill ++ text

/-- Digits of a number in a base, at least `least` of them. -/
def digitText (base least n : Nat) (upper : Bool) : Bytes :=
  let digits := if n = 0 then [] else Nat.toDigits base n
  let digits := List.replicate (least - digits.length) '0' ++ digits
  raw (String.ofList (if upper then digits.map Char.toUpper else digits))

/-- A number as a directive writes it. -/
def numberText (flags : List Char) (width : Nat) (precision : Option Nat) (letter : Char)
    (value : Int) : Bytes :=
  let least := precision.getD 1
  let signed := letter = 'd' ∨ letter = 'i'
  let magnitude := if signed then value.natAbs else (value % 18446744073709551616).toNat
  let base := if letter = 'o' then 8 else if letter = 'x' ∨ letter = 'X' then 16 else 10
  let digits := digitText base least magnitude (letter = 'X')
  let lead :=
    if signed then
      if value < 0 then raw "-" else if flags.contains '+' then raw "+"
      else if flags.contains ' ' then raw " " else []
    else if flags.contains '#' && magnitude != 0 then
      if letter = 'o' then raw "0" else if letter = 'x' then raw "0x"
      else if letter = 'X' then raw "0X" else []
    else []
  let zeros :=
    if flags.contains '0' && !flags.contains '-' && precision.isNone then
      List.replicate (width - lead.length - digits.length) 0x30
    else []
  pad (flags.contains '-') width (lead ++ zeros ++ digits)

/-- What has been written of a format. -/
structure Printed where
  output : Bytes := []
  /-- The arguments left over. -/
  left : List Bytes
  /-- Whether the writing is over. -/
  ended : Bool := false
  status : Nat := 0

/-- The greatest width or precision. -/
def extentLimit : Nat := 2147483647

/-- The size that an extent gives. -/
def Printed.extent (p : Printed) : Option Extent → Option Int × Printed
  | none => (none, p)
  | some (.fixed n) => (some n, p)
  | some .argument =>
    let (size, whole) := signedNumber (p.left.headD [])
    let p := { p with left := p.left.tail, status := if whole then p.status else 1 }
    if size.natAbs ≤ extentLimit then (some size, p)
    else (none, { p with ended := true, status := 1 })

/-- Writes one directive. -/
def Printed.write (style : PrintStyle) (p : Printed) : Directive → Printed
  | .literal b => { p with output := p.output ++ [b] }
  | .ending => { p with ended := true }
  | .unknown => { p with ended := true, status := style.failure }
  | .argument flags width precision letter =>
    let (width, p) := p.extent width
    let (precision, p) := p.extent precision
    -- a negative width means the left side, and a negative precision means none
    let flags := if width.any (· < 0) then '-' :: flags else flags
    let width := (width.getD 0).natAbs
    let precision := precision.bind fun n => if n < 0 then none else some n.toNat
    if p.ended then p else
    let arg := p.left.headD []
    let p := { p with left := p.left.tail }
    let left := flags.contains '-'
    let cut (text : Bytes) : Bytes := match precision with
      | some n => text.take n
      | none => text
    match letter with
    | 's' => { p with output := p.output ++ pad left width (cut arg) }
    | 'c' => { p with output := p.output ++ pad left width [arg.headD 0] }
    | 'b' =>
      let (text, ended) := style.word.resolve arg
      { p with output := p.output ++ pad left width (cut text), ended }
    | letter =>
      let (value, whole) :=
        if letter = 'd' ∨ letter = 'i' then signedNumber arg else unsignedNumber arg
      { p with
        output := p.output ++ numberText flags width precision letter value
        status := if whole then p.status else 1 }

/-- Writes the directives of a format, as far as they go. -/
def Printed.writeAll (style : PrintStyle) (format : List Directive) (p : Printed) : Printed :=
  format.foldl (fun p d => if p.ended then p else p.write style d) p

/-- Writes a format, again and again while it takes arguments and some are left. -/
def Printed.loop (style : PrintStyle) (format : List Directive) : Nat → Printed → Printed
  | 0, p => p
  | fuel + 1, p =>
    let q := p.writeAll style format
    if q.ended || q.left.isEmpty || q.left.length == p.left.length then q
    else loop style format fuel q

/-- Writes its arguments as its first argument says. -/
def printf (style : PrintStyle) (args : List Bytes) (input : Bytes) : Ran :=
  let args := match args with
    | a :: rest => if a = raw "--" then rest else args
    | [] => args
  match args with
  | [] => { status := .code 1, rest := input,
            errors := raw "printf: missing operand\nTry 'printf --help' for more information.\n" }
  | format :: rest =>
    let p := Printed.loop style (directives style.format format) (rest.length + 1) { left := rest }
    { output := p.output, status := .code p.status, rest := input }

end ReplayProxy.Program
