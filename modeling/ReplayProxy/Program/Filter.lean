import ReplayProxy.FileTree
import ReplayProxy.Program.Basic
import ReplayProxy.Program.Escape
import ReplayProxy.Text.Base64

/-!
# Filters

Programs that read their input, or the files that are named, and write something made of
it: `cat`, `head`, `tr`, `base64`; and `sleep`, which only waits. They know the options that
pipelines commonly use; any other option is a usage error.
-/

namespace ReplayProxy.Program

/-- The number that decimal digits write, if they are nothing else. -/
def decimal? (b : Bytes) : Option Nat := b.text?.bind fun s => Ascii.decimal? s.toList

/-- The words of a system for a failed operation on a file. -/
def fileReason : FileError → String
  | .notFound => "No such file or directory"
  | .notDirectory => "Not a directory"
  | .isDirectory => "Is a directory"
  | .readOnly => "Permission denied"
  | .notText => "Invalid argument"

/-- Writes the named files one after the other; `-` names the input, and no name at all
names it too. -/
def concatenate (files : FileTree) (program : String) (names : List Bytes) (input : Bytes) : Ran :=
  if names.isEmpty then { output := input }
  else
    names.foldl
      (fun ran name =>
        if name = raw "-" ∨ name = raw "/dev/stdin" then
          { ran with output := ran.output ++ ran.rest, rest := [] }
        else if name = raw "/dev/null" then ran
        else
          match files.read (Utf8.lossy name) with
          | .ok content => { ran with output := ran.output ++ content }
          | .error e =>
            { ran with
              errors := ran.errors ++ raw (program ++ ": ") ++ name ++
                raw (": " ++ fileReason e ++ "\n")
              status := .code 1 })
      { rest := input }

/-- Writes its input, or the files that are named. -/
def cat (files : FileTree) (args : List Bytes) (input : Bytes) : Ran :=
  concatenate files "cat" (args.filter fun a => a != raw "-u" && a != raw "--") input

/-! ### `head` -/

/-- How much of a text `head` writes. -/
structure Portion where
  lines : Bool := true
  count : Nat := 10
  /-- Whether the count says what is left out at the end. -/
  allBut : Bool := false

/-- The factor that a suffix of a count stands for. -/
def factor? (suffix : Bytes) : Option Nat :=
  match Utf8.lossy suffix with
  | "" => some 1
  | "b" => some 512
  | "K" | "k" | "KiB" => some 1024
  | "kB" | "KB" => some 1000
  | "M" | "m" | "MiB" => some 1048576
  | "MB" => some 1000000
  | _ => none

/-- Reads a count with its sign and suffix. -/
def Portion.read? (lines : Bool) (text : Bytes) : Option Portion := do
  let (allBut, text) := match text with
    | 0x2D :: rest => (true, rest)
    | 0x2B :: rest => (false, rest)
    | rest => (false, rest)
  let (value, digits) := digitsIn 10 text.length text
  if digits = 0 then none
  else do
    let factor ← factor? (text.drop digits)
    some { lines, count := value * factor, allBut }

/-- The beginning of a text, up to and with a number of line feeds. -/
def firstLines : Nat → Bytes → Bytes
  | _, [] => []
  | 0, _ => []
  | n + 1, b :: rest => if b = 0x0A then b :: firstLines n rest else b :: firstLines (n + 1) rest

/-- The number of lines of a text, an unfinished last one included. -/
def lineCount (text : Bytes) : Nat :=
  text.count 0x0A + if text.getLastD 0x0A = 0x0A then 0 else 1

/-- The portion of a text. -/
def Portion.of (p : Portion) (text : Bytes) : Bytes :=
  if p.lines then firstLines (if p.allBut then lineCount text - p.count else p.count) text
  else text.take (if p.allBut then text.length - p.count else p.count)

/-- The options of `head`, and the files that are named. -/
def headOptions (p : Portion) : List Bytes → Option (Portion × List Bytes)
  | [] => some (p, [])
  | option :: rest =>
    if option = raw "-c" ∨ option = raw "-n" then
      match rest with
      | [] => none
      | count :: rest => do headOptions (← Portion.read? (option = raw "-n") count) rest
    else if option = raw "-q" ∨ option = raw "-v" ∨ option = raw "--" then headOptions p rest
    else
      match option with
      | 0x2D :: 0x63 :: count => do headOptions (← Portion.read? false count) rest
      | 0x2D :: 0x6E :: count => do headOptions (← Portion.read? true count) rest
      | 0x2D :: b :: count =>
        if 0x30 ≤ b ∧ b ≤ 0x39 then do headOptions (← Portion.read? true (b :: count)) rest
        else if (raw "--bytes=").isPrefixOf option then do
          headOptions (← Portion.read? false (option.drop 8)) rest
        else if (raw "--lines=").isPrefixOf option then do
          headOptions (← Portion.read? true (option.drop 8)) rest
        else none
      | name => (headOptions p rest).map fun (p, names) => (p, name :: names)

/-- How many bytes are read at once where lines are looked for. -/
def readSize : Nat := 8192

/-- Writes the beginning of its input, or of each named file. -/
def head (files : FileTree) (args : List Bytes) (input : Bytes) : Ran :=
  match headOptions {} args with
  | none => .failure 1 "head: invalid option" input
  | some (p, []) =>
    let output := p.of input
    -- lines are looked for in blocks, and all that was read is gone
    let taken :=
      if p.allBut then input.length
      else if p.lines then (output.length + readSize - 1) / readSize * readSize
      else output.length
    { output, rest := input.drop taken }
  | some (p, names) =>
    names.foldl
      (fun ran name =>
        let (content, rest) :=
          if name = raw "-" then (Except.ok ran.rest, [])
          else (files.read (Utf8.lossy name), ran.rest)
        match content with
        | .ok content => { ran with output := ran.output ++ p.of content, rest }
        | .error e =>
          { ran with
            errors := ran.errors ++ raw "head: cannot open '" ++ name ++
              raw ("' for reading: " ++ fileReason e ++ "\n")
            status := .code 1 })
      { rest := input }

/-! ### `tr` -/

/-- A byte of a set as written, with whether an escape wrote it. -/
abbrev SetItem := UInt8 × Bool

/-- The escapes in sets. -/
def setEscapes : EscapeStyle :=
  { leadingZero := false, hexadecimal := false, ends := false, quote := false }

/-- The bytes of a set; a backslash makes what follows it stand for itself. -/
def setItems : Bytes → List SetItem
  | [] => []
  | b :: rest =>
    if b = 0x5C ∧ !rest.isEmpty then
      match letterEscape? (rest.headD 0), setEscapes.escape rest with
      | some x, _ => (x, true) :: setItems (rest.drop 1)
      | none, .byte x taken =>
        if digitsIn 8 1 rest = (0, 0) then (rest.headD 0, true) :: setItems (rest.drop 1)
        else (x, true) :: setItems (rest.drop taken)
      | none, _ => (rest.headD 0, true) :: setItems (rest.drop 1)
    else (b, false) :: setItems rest
termination_by s => s.length
decreasing_by
  · exact length_drop_lt b rest _
  · exact length_drop_lt b rest _
  · exact length_drop_lt b rest _
  · exact length_drop_lt b rest _
  · exact Nat.lt_succ_self _

/-- The bytes from one to another. -/
def byteRange (low high : Nat) : Bytes :=
  (List.range (high + 1 - low)).map fun i => UInt8.ofNat (low + i)

/-- The bytes of a class of characters. -/
def classMembers? (name : Bytes) : Option Bytes :=
  match Utf8.lossy name with
  | "digit" => some (byteRange 0x30 0x39)
  | "upper" => some (byteRange 0x41 0x5A)
  | "lower" => some (byteRange 0x61 0x7A)
  | "alpha" => some (byteRange 0x41 0x5A ++ byteRange 0x61 0x7A)
  | "alnum" => some (byteRange 0x30 0x39 ++ byteRange 0x41 0x5A ++ byteRange 0x61 0x7A)
  | "xdigit" => some (byteRange 0x30 0x39 ++ byteRange 0x41 0x46 ++ byteRange 0x61 0x66)
  | "space" => some (byteRange 0x09 0x0D ++ [0x20])
  | "blank" => some [0x09, 0x20]
  | "cntrl" => some (byteRange 0x00 0x1F ++ [0x7F])
  | "print" => some (byteRange 0x20 0x7E)
  | "graph" => some (byteRange 0x21 0x7E)
  | "punct" =>
    some (byteRange 0x21 0x2F ++ byteRange 0x3A 0x40 ++ byteRange 0x5B 0x60 ++ byteRange 0x7B 0x7E)
  | _ => none

/-- The name of a class at the front of a text, closed by a colon and a bracket. -/
def className? (items : List SetItem) : Option Bytes :=
  let name := (items.takeWhile (· != (0x3A, false))).map (·.1)
  match items.drop name.length with
  | (0x3A, false) :: (0x5D, false) :: _ => some name
  | _ => none

/-- The members of a set; `none` if a range goes backwards or a class has no such name. -/
def setMembers : Nat → List SetItem → Option Bytes
  | 0, _ => some []
  | _ + 1, [] => some []
  | fuel + 1, (0x5B, false) :: (0x3A, false) :: rest =>
    match className? rest with
    | some name => do
      some ((← classMembers? name) ++ (← setMembers fuel (rest.drop (name.length + 2))))
    | none => do some (0x5B :: (← setMembers fuel ((0x3A, false) :: rest)))
  | fuel + 1, (0x5B, false) :: (0x3D, false) :: (a, _) :: (0x3D, false) :: (0x5D, false) :: rest =>
    do some (a :: (← setMembers fuel rest))
  | fuel + 1, (a, _) :: (0x2D, false) :: (b, _) :: rest =>
    if a ≤ b then do some (byteRange a.toNat b.toNat ++ (← setMembers fuel rest)) else none
  | fuel + 1, (a, _) :: rest => do some (a :: (← setMembers fuel rest))

/-- The members of a set as written. -/
def readSet (text : Bytes) : Option Bytes :=
  let items := setItems text
  setMembers (items.length + 1) items

/-- What `tr` does. -/
structure TrOptions where
  complement : Bool := false
  delete : Bool := false
  squeeze : Bool := false
  truncate : Bool := false

/-- Reads the options of `tr`; what follows them are the sets. -/
def trOptions (o : TrOptions) : List Bytes → Option (TrOptions × List Bytes)
  | (0x2D :: b :: letters) :: rest =>
    if 0x2D :: b :: letters = raw "--" then some (o, rest)
    else if b :: letters = raw "-delete" then trOptions { o with delete := true } rest
    else if b :: letters = raw "-squeeze-repeats" then trOptions { o with squeeze := true } rest
    else if b :: letters = raw "-complement" then trOptions { o with complement := true } rest
    else if b :: letters = raw "-truncate-set1" then trOptions { o with truncate := true } rest
    else do
      let o ← (b :: letters).foldlM
        (fun (o : TrOptions) b =>
          match Char.ofNat b.toNat with
          | 'c' | 'C' => some { o with complement := true }
          | 'd' => some { o with delete := true }
          | 's' => some { o with squeeze := true }
          | 't' => some { o with truncate := true }
          | _ => none)
        o
      trOptions o rest
  | sets => some (o, sets)

/-- Leaves out members of a set that follow themselves. -/
def squeezed (members : Bytes) : Bytes → Bytes
  | a :: b :: rest =>
    if a = b ∧ members.contains a then squeezed members (b :: rest)
    else a :: squeezed members (b :: rest)
  | rest => rest

/-- The bytes to replace, each with what takes its place: the last of the second set stands
for all further ones. -/
def replacements (truncate : Bool) (source target : Bytes) : List (UInt8 × UInt8) :=
  if truncate then source.zip target
  else source.zip (target ++ List.replicate (source.length - target.length) (target.getLastD 0))

/-- Replaces, deletes or squeezes characters. -/
def tr (args : List Bytes) (input : Bytes) : Ran :=
  let run : Option Bytes := do
    let (o, sets) ← trOptions {} args
    let sets ← sets.mapM readSet
    let source (set : Bytes) : Bytes :=
      if o.complement then (byteRange 0 255).filter fun b => !set.contains b else set
    match sets with
    | [a] =>
      let a := source a
      if o.delete && !o.squeeze then some (input.filter fun b => !a.contains b)
      else if o.squeeze && !o.delete then some (squeezed a input)
      else none
    | [a, b] =>
      let a := source a
      if o.delete then
        if o.squeeze then some (squeezed b (input.filter fun x => !a.contains x)) else none
      else if b.isEmpty then none
      else
        -- the last replacement of a byte wins
        let pairs := (replacements o.truncate a b).reverse
        let output := input.map fun x => (pairs.lookup x).getD x
        some (if o.squeeze then squeezed b output else output)
    | _ => none
  match run with
  | some output => { output }
  | none => .failure 1 "tr: missing operand" input

/-! ### `base64` -/

/-- Splits letters into lines of a width. -/
def wrap (width : Nat) : Nat → List Char → List Char
  | 0, cs => cs
  | fuel + 1, cs =>
    if cs.isEmpty then [] else cs.take width ++ '\n' :: wrap width fuel (cs.drop width)

/-- What `base64` does. -/
structure Base64Options where
  decode : Bool := false
  /-- Whether what is no letter of the alphabet is skipped. -/
  lenient : Bool := false
  width : Nat := 76

/-- Reads the options of `base64`; what follows them are files. -/
def base64Options (o : Base64Options) : List Bytes → Option (Base64Options × List Bytes)
  | [] => some (o, [])
  | option :: rest =>
    if option = raw "-d" ∨ option = raw "--decode" then base64Options { o with decode := true } rest
    else if option = raw "-i" ∨ option = raw "--ignore-garbage" then
      base64Options { o with lenient := true } rest
    else if option = raw "-di" ∨ option = raw "-id" then
      base64Options { o with decode := true, lenient := true } rest
    else if option = raw "-w" ∨ option = raw "--wrap" then
      match rest with
      | [] => none
      | width :: rest => do base64Options { o with width := (← decimal? width) } rest
    else if (raw "--wrap=").isPrefixOf option then do
      base64Options { o with width := (← decimal? (option.drop 7)) } rest
    else
      match option with
      | 0x2D :: 0x77 :: width => do base64Options { o with width := (← decimal? width) } rest
      | 0x2D :: _ :: _ => none
      | name => (base64Options o rest).map fun (o, names) => (o, name :: names)

/-- Writes its input in base64, in lines of a width if it is not zero, or reads it. -/
def base64 (files : FileTree) (args : List Bytes) (input : Bytes) : Ran :=
  match base64Options {} args with
  | none => .failure 1 "base64: invalid option" input
  | some (o, names) =>
    let ran := concatenate files "base64" names input
    if !ran.status.succeeded then { ran with output := [] }
    else if o.decode then
      let letters := ran.output.filter fun b =>
        b != 0x0A && (!o.lenient || b == 0x3D || (Base64.value? (Char.ofNat b.toNat)).isSome)
      match (Bytes.text? letters).bind Base64.decode? with
      | some b => { ran with output := b }
      | none =>
        { ran with output := [], errors := raw "base64: invalid input\n", status := .code 1 }
    else
      let text := (Base64.encode ran.output).toList
      { ran with
        output :=
          raw (String.ofList (if o.width = 0 then text else wrap o.width text.length text)) }

/-! ### `sleep` -/

/-- The milliseconds of an interval: a decimal number of seconds, or of the unit that a
letter names. -/
def interval? (text : Bytes) : Option Nat := do
  let (whole, n) := digitsIn 10 text.length text
  let rest := text.drop n
  let (places, m) := match rest with
    | 0x2E :: more => digitsIn 10 more.length more
    | _ => (0, 0)
  let hasPoint := rest.head? == some 0x2E
  if n + m = 0 then none
  else do
    let unit ← match Utf8.lossy (rest.drop (if hasPoint then m + 1 else 0)) with
      | "" | "s" => some 1000
      | "m" => some 60000
      | "h" => some 3600000
      | "d" => some 86400000
      | _ => none
    let scale := Nat.pow 10 m
    some (((whole * scale + places) * unit + scale - 1) / scale)

/-- Waits for the sum of its intervals. -/
def sleep (args : List Bytes) (input : Bytes) : Ran :=
  match args.mapM interval? with
  | some (a :: rest) => { slept := rest.foldl (· + ·) a, rest := input }
  | some [] => .failure 1 "sleep: missing operand\nTry 'sleep --help' for more information." input
  | none => .failure 1 "sleep: invalid time interval" input

end ReplayProxy.Program
