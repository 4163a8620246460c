import ReplayProxy.Envelope
import ReplayProxy.Sha256
import ReplayProxy.Text.Blank

/-!
# Fingerprints

A recorded response is found again by the *fingerprint* of the request: the SHA-256 digest
of the parts that matter for replay. The scheme and all headers but `Content-Type` do not
matter, so what was recorded over `https` also answers plain `http`. A few rules keep
equivalent requests together:

* the letters of the destination are small;
* the segments of the query are sorted, empty ones dropped;
* a JSON body is read and written compactly with sorted members;
* blanks between two tags of an XML body, and around it, are dropped.

Each part enters the digest after its length, so parts never run together.
-/

namespace ReplayProxy

open Json (Value)

/-- How a body is read for its fingerprint. -/
inductive BodyKind where
  | json
  | xml
  | other
  deriving DecidableEq, Repr

namespace BodyKind

/-- Whether characters are nothing, or a semicolon and anything on the same line. -/
def isParameters : List Char → Bool
  | [] => true
  | c :: rest => c == ';' && rest.all (· != '\n')

/-- Whether a media type has `name` as its subtype or as the suffix of its subtype,
followed by nothing but parameters. -/
def names (name : List Char) : List Char → Bool
  | [] => false
  | c :: rest =>
    ((c == '/' || c == '+') && name.isPrefixOf rest && isParameters (rest.drop name.length)) ||
      names name rest

/-- The kind that one value of `Content-Type` selects. -/
def ofMediaType? (value : String) : Option BodyKind :=
  let cs := (Ascii.lower (Blank.trim value)).toList
  if names ['j', 's', 'o', 'n'] cs then some .json
  else if names ['x', 'm', 'l'] cs then some .xml
  else none

/-- The kind that the first telling value of `Content-Type` selects. -/
def ofRequest (r : Request) : BodyKind :=
  ((r.headers.values "Content-Type").findSome? ofMediaType?).getD .other

end BodyKind

namespace Fingerprint

/-- Drops the blanks that stand between a `>` and the next `<`. -/
def dropGaps : List Char → List Char
  | [] => []
  | c :: rest =>
    if c = '>' then
      let after := rest.dropWhile isBlank
      if after.head? = some '<' then '>' :: dropGaps after
      else '>' :: dropGaps rest
    else c :: dropGaps rest
termination_by cs => cs.length
decreasing_by
  · have := (@List.dropWhile_sublist _ rest isBlank).length_le
    simp
    omega
  · simp
  · simp

/-- An XML text without the blanks around it and between its tags. -/
def xmlText (s : String) : String := String.ofList (dropGaps (Blank.trimList s.toList))

/-- The body as it takes part in the fingerprint. A body that is not what its media type
says takes part as it is. -/
def normalBody (r : Request) : Bytes :=
  match BodyKind.ofRequest r with
  | .json =>
    match Value.parse r.body with
    | .ok v => v.bytes
    | .error _ => r.body
  | .xml =>
    match r.body.text? with
    | some s => Bytes.ofText (xmlText s)
    | none => r.body
  | .other => r.body

/-- The non-empty segments of a query between ampersands, in order. -/
def segments (query : String) : List String :=
  ((query.toList.splitOn '&').filter fun s => !s.isEmpty).map String.ofList

/-- The query with its non-empty segments sorted. -/
def normalQuery (query : String) : String :=
  String.intercalate "&" ((segments query).mergeSort fun s t => decide (s ≤ t))

/-- A part after its length in eight bytes. -/
def framed (part : Bytes) : Bytes := Bytes.bigEndian 8 part.length ++ part

/-- The parts of a request that matter for replay, in their order. -/
def parts (r : Request) : List Bytes :=
  [Bytes.ofText (Ascii.lower r.destination), Bytes.ofText r.path, Bytes.ofText r.method,
   Bytes.ofText (normalQuery r.query), if r.body.isEmpty then [] else normalBody r]

/-- What is hashed. -/
def preimage (r : Request) : Bytes := (parts r).flatMap framed

end Fingerprint

/-- The fingerprint of a request, sixty-four hexadecimal digits. -/
def Request.fingerprint (r : Request) : String :=
  Bytes.hex (Sha256.digest (Fingerprint.preimage r))

/-- The fingerprint as a store key. -/
def Request.key (r : Request) : Bytes := Bytes.ofText r.fingerprint

end ReplayProxy
