import ReplayProxy.Envelope
import ReplayProxy.Http.Message
import ReplayProxy.Surroundings

/-!
# Transforms

A transform changes an exchange outside the proxy. It is a local program that is started
for every exchange and reads a payload from its input, or a remote server to which the
payload is posted. What it writes or answers is the payload of the new exchange; nothing
but white space means that the exchange stays as it is.
-/

namespace ReplayProxy

/-- Why a transform gives no exchange. -/
inductive TransformError where
  /-- The definition names nothing. -/
  | invalid (reason : String)
  /-- The program could not be started. -/
  | spawn (program reason : String)
  /-- The program ended without success. -/
  | exit (status : Program.Status) (errors : String)
  /-- It took longer than this many milliseconds. -/
  | timeout (limit : Nat)
  /-- What came back is no payload. -/
  | decode (reason : String)
  /-- The server failed. -/
  | remote (reason : String)
  /-- Talking to the program failed. -/
  | io (reason : String)
  deriving DecidableEq, Repr

/-- Milliseconds in the largest unit that leaves a whole part, without trailing zeros. -/
def durationText (ms : Nat) : String :=
  if ms = 0 then "0ns"
  else if ms < 1000 then toString ms ++ "ms"
  else
    let digits := [ms % 1000 / 100, ms % 100 / 10, ms % 10].map Nat.digitChar
    let places := (digits.reverse.dropWhile (· == '0')).reverse
    toString (ms / 1000) ++ (if places.isEmpty then "" else "." ++ String.ofList places) ++ "s"

/-- The sentence on a transform error. -/
def TransformError.message : TransformError → String
  | .invalid reason => "invalid transform: " ++ reason
  | .spawn program reason => "failed to start transform \x60" ++ program ++ "\x60: " ++ reason
  | .exit status errors => "transform exited with " ++ status.describe ++ ": " ++ errors
  | .timeout limit => "transform timed out after " ++ durationText limit
  | .decode reason => "failed to decode transform output: " ++ reason
  | .remote reason => "remote transform failed: " ++ reason
  | .io reason => "transform IO error: " ++ reason

/-- What a transform is. -/
inductive TransformDefinition where
  | command (program : String) (arguments : List String)
  | remote (url : String)
  deriving DecidableEq, Repr

/-- A transform and the milliseconds it may take, if they are limited. -/
structure Transform where
  definition : TransformDefinition
  limit : Option Nat := none
  deriving DecidableEq, Repr

/-- Whether a text is the address of something on the web. -/
def isWebAddress (s : String) : Bool := s.startsWith "http://" || s.startsWith "https://"

namespace TransformDefinition

/-- Reads a definition: a web address, or else words of which the first is the program. -/
def parse (s : String) : Except TransformError TransformDefinition :=
  let s := Blank.trim s
  if isWebAddress s then .ok (.remote s)
  else
    match Blank.words s with
    | [] => .error (.invalid "empty transform command")
    | program :: arguments => .ok (.command program arguments)

/-- The definition in words. -/
def describe : TransformDefinition → String
  | .command program arguments => String.intercalate " " (program :: arguments)
  | .remote url => url

end TransformDefinition

namespace Transform

/-- What a program's output or a server's answer makes of an exchange. -/
def result (x : Exchange) (output : Bytes) : Except TransformError Exchange :=
  if output.all Blank.isAsciiBlank then .ok x
  else
    match Payload.parse output with
    | .error e => .error (.decode e.message)
    | .ok p =>
      match p.exchange with
      | .ok x => .ok x
      | .error e => .error (.decode e.message)

/-- Runs a local program. -/
def runCommand (s : Surroundings σ) (limit : Option Nat) (program : String)
    (arguments : List String) (input : Bytes) : StateM σ (Except TransformError Bytes) := do
  match ← s.start { program, arguments, input, limit } with
  | .notStarted reason => return .error (.spawn program reason)
  | .overran => return .error (.timeout (limit.getD 0))
  | .broken reason => return .error (.io reason)
  | .ended status output errors =>
    if status.succeeded then return .ok output
    else return .error (.exit status (Blank.trim (Utf8.lossy errors)))

/-- Posts to a server. Only an answer with the status 200 counts. -/
def callRemote (s : Surroundings σ) (limit : Option Nat) (address : String) (input : Bytes) :
    StateM σ (Except TransformError Bytes) := do
  match Url.parse? address with
  | none => return .error (.remote SendError.malformed.message)
  | some url =>
    let delivery ← s.send
      { method := "POST", url, body := input, followRedirects := true, limit, verify := true
        headers := Outgoing.headersFor url [("content-type", "application/json")] }
    match delivery with
    | .failed reason => return .error (.remote (SendError.unanswered reason).message)
    | .overran => return .error (.timeout (limit.getD 0))
    | .reply incoming =>
      if incoming.status ≠ 200 then
        return .error
          (.remote ("received " ++ Http.statusText incoming.status ++ " from " ++ address))
      else
        match incoming.body with
        | .ok body => return .ok body
        | .error reason => return .error (.remote ("error reading the body: " ++ reason))

/-- Passes an exchange through a transform. The identifier goes with it. -/
def apply (t : Transform) (s : Surroundings σ) (x : Exchange) (id : String) :
    StateM σ (Except TransformError Exchange) := do
  let input := (Payload.ofExchange x id).toValue.bytes
  let output ←
    match t.definition with
    | .command program arguments => runCommand s t.limit program arguments input
    | .remote address => callRemote s t.limit address input
  match output with
  | .error e => return .error e
  | .ok output => return result x output

end Transform

end ReplayProxy
