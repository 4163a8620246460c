import ReplayProxy.Certificate.KeyAlgorithm
import ReplayProxy.Text.Base64

/-!
# PEM

Certificates and keys as text: base64 between a line that begins a block and one that ends
it, both with a label. `Pem.write` writes a block.

Keys and certificates are read by two different rules. `Pem.block?` takes the first block
of a text, whatever its label, and reads it strictly. `Pem.certificate` goes through a text
line by line for the first block with the label of certificates and is lenient about its
base64.
-/

namespace ReplayProxy.Pem

/-- What begins a block before its label. -/
def opening : List Char := "-----BEGIN ".toList

/-- What ends a block before its label. -/
def closing : List Char := "-----END ".toList

/-- What stands behind a label. -/
def dashes : List Char := "-----".toList

/-- The label of certificates. -/
def certificateLabel : String := "CERTIFICATE"

/-- The label of keys in the form of PKCS #8. -/
def keyLabel : String := "PRIVATE KEY"

/-! ### Writing -/

/-- Lines of sixty-four characters, at most `most` of them. -/
def wrap : Nat → List Char → List Char
  | 0, _ | _, [] => []
  | most + 1, cs => cs.take 64 ++ '\n' :: wrap most (cs.drop 64)

/-- A block. -/
def write (label : String) (content : Bytes) : String :=
  let letters := (Base64.encode content).toList
  String.ofList <|
    opening ++ label.toList ++ dashes ++ '\n' :: wrap letters.length letters ++
      closing ++ label.toList ++ dashes ++ ['\n']

/-! ### The first block of a text -/

/-- Splits a text at a mark of which `left` has still to come: what stands before the mark,
and what follows it. A character that breaks a mark off is not tried as the beginning of
another. `seen` is what was read so far, in reverse. -/
def splitFrom (mark : List Char) :
    List Char → List Char → List Char → Option (List Char × List Char)
  | seen, [], rest => some ((seen.drop mark.length).reverse, rest)
  | _, _ :: _, [] => none
  | seen, m :: left, c :: rest => splitFrom mark (c :: seen) (if c = m then left else mark) rest

/-- What stands before the first place of a mark, and what follows it. -/
def split? (mark cs : List Char) : Option (List Char × List Char) := splitFrom mark [] mark cs

/-- The white space that may follow a label. -/
def isSpace (c : Char) : Bool := c == ' ' || c == '\t' || c == '\n' || c == '\r'

/-- The lines of a text. -/
def lines (cs : List Char) : List (List Char) := cs.splitOn '\n'

/-- A line without the blanks at its end. -/
def trimEnd (line : List Char) : List Char := (line.reverse.dropWhile isBlank).reverse

/-- The lines of headers and the rest of a block: an empty line parts them. -/
def headersAndData (body : List Char) : List Char × List Char :=
  match split? ['\n', '\n'] body with
  | some parts => parts
  | none => (split? ['\r', '\n', '\r', '\n'] body).getD ([], body)

/-- The content of the first block of a text. Its two labels must be the same, headers must
have a name, and its base64 is read strictly, line by line without the blanks at the end. -/
def block? (s : String) : Option Bytes := do
  let (_, rest) ← split? opening s.toList
  let (label, rest) ← split? dashes rest
  let (body, rest) ← split? closing (rest.dropWhile isSpace)
  let (again, _) ← split? dashes rest
  let (headers, data) := headersAndData body
  if label.isEmpty || label ≠ again ||
      !headers.isEmpty && !(lines headers).all (·.contains ':') then
    none
  Base64.decode? (String.ofList ((lines data).flatMap trimEnd))

/-! ### The first certificate of a text -/

/-- The labels whose blocks are read. Blocks with other labels are skipped. -/
def labels : List String :=
  [certificateLabel, keyLabel, "PUBLIC KEY", "RSA PRIVATE KEY", "EC PRIVATE KEY", "X509 CRL",
   "CERTIFICATE REQUEST", "ECHCONFIG"]

/-- White space at the end of a line. -/
def isLineEnd (c : Char) : Bool := c == '\n' || c == '\r' || c == ' '

/-- The label on a line that begins a block. The line must end in five dashes; white space
after or between them does not count. -/
def label? (line : List Char) : Option (List Char) :=
  let run := (line.reverse.takeWhile fun c => c == '-' || isLineEnd c).reverse
  let tail := run.dropWhile isLineEnd
  if tail.count '-' = 5 then some ((line.take (line.length - tail.length)).drop opening.length)
  else none

/-- The bytes of four letters or fewer. -/
def looseGroup : List Nat → Bytes
  | [a, b, c, d] =>
    let n := ((a * 64 + b) * 64 + c) * 64 + d
    [Base64.byteAt n 65536, Base64.byteAt n 256, Base64.byteAt n 1]
  | [a, b, c] =>
    [Base64.byteAt ((a * 64 + b) * 64 + c) 1024, Base64.byteAt ((a * 64 + b) * 64 + c) 4]
  | [a, b] => [Base64.byteAt (a * 64 + b) 16]
  | _ => []

/-- The bytes of letters, at most `most` groups of them. -/
def looseGroups : Nat → List Nat → Bytes
  | 0, _ | _, [] => []
  | most + 1, ns => looseGroup (ns.take 4) ++ looseGroups most (ns.drop 4)

/-- Reads base64 with white space anywhere and with padding or without. -/
def loose? (cs : List Char) : Option Bytes := do
  let cs := cs.filter fun c => !isSpace c
  let letters := cs.takeWhile (· != '=')
  if !(cs.drop letters.length).all (· == '=') then none
  let ns ← letters.mapM Base64.value?
  return looseGroups ns.length ns

/-- Goes through lines for the first block with the label of certificates. `inside` is the
label of the block that is open, `text` what it holds so far. Every block with one of the
known labels must be well formed, and no block may be left open. -/
def search (inside : Option (List Char)) (text : List Char) :
    List (List Char) → Except CertificateError Bytes
  | [] =>
    match inside with
    | some _ => .error (.parse "section end missing")
    | none => .error (.parse "no certificate found in PEM")
  | line :: rest =>
    if opening.isPrefixOf line then
      match label? line with
      | some label => search (some label) text rest
      | none => .error (.parse "illegal section start")
    else
      match inside with
      | none => search none text rest
      | some label =>
        if (closing ++ label ++ dashes).isPrefixOf line then
          -- a block of an unknown kind is passed over, whatever it holds
          if labels.contains (String.ofList label) then
            match loose? text with
            | none => .error (.parse "base64 decode error")
            | some b =>
              if label = certificateLabel.toList then .ok b else search none [] rest
          else search none [] rest
        else search inside (text ++ line) rest

/-- The content of the first block with the label of certificates. Lines end in a line feed
or a carriage return. -/
def certificate (s : String) : Except CertificateError Bytes :=
  search none [] (s.toList.splitBy fun a _ => a != '\n' && a != '\r')

end ReplayProxy.Pem
