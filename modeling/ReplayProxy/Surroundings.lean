import ReplayProxy.Text.Base64
import ReplayProxy.Program.Basic
import ReplayProxy.Url

/-!
# Surroundings

The proxy reaches outside itself in two ways: it starts local programs and it sends HTTP
requests. What comes back is not the proxy's to decide, so everything that reaches out is
written over arbitrary `Surroundings`: a state of the outside world, of any type, and what
happens to it and comes back on each call. A law about the proxy that holds for all
surroundings holds whatever programs and servers do.
-/

namespace ReplayProxy

/-- A request as it goes out. -/
structure Outgoing where
  method : String
  url : Url
  /-- Names and values in order. -/
  headers : List (String × String)
  body : Bytes
  /-- Whether redirections are followed. -/
  followRedirects : Bool
  /-- The milliseconds the exchange may take, if they are limited. -/
  limit : Option Nat
  /-- Whether the server must prove who it is. -/
  verify : Bool

namespace Outgoing

/-- What user information authorizes a request with. A user that is no text is not named, and
a password that is no text counts as empty. -/
def authorization (u : Url) : Option String := do
  let decoded (s : String) : Option String := (Url.percentDecode (Bytes.ofText s)).text?
  let (user, password) ← u.credentials
  let user ← decoded user
  let password := (decoded password).getD ""
  guard !(user.isEmpty && password.isEmpty)
  return "Basic " ++ Base64.encode (Bytes.ofText (user ++ ":" ++ password))

/-- The header that is added to a request that names no type of content. -/
def anyContent : String × String := ("accept", "*/*")

/-- The headers that a request goes out with: that of the user information, those that are
given, and `Outgoing.anyContent` if none of them has its name. -/
def headersFor (u : Url) (given : List (String × String)) : List (String × String) :=
  let headers := ((authorization u).map ("authorization", ·)).toList ++ given
  if headers.any fun h => Ascii.sameLetters h.1 anyContent.1 then headers
  else headers ++ [anyContent]

end Outgoing

/-- A reply as it comes in. -/
structure Incoming where
  status : UInt16
  /-- Names and values in order. -/
  headers : List (String × Bytes)
  /-- The body, or why it could not be read to its end. -/
  body : Except String Bytes

/-- Why a request brought no reply. -/
inductive SendError where
  /-- The request could not be put together. -/
  | malformed
  /-- No reply came. -/
  | unanswered (reason : String)
  deriving DecidableEq, Repr

/-- The sentence on a failed request. -/
def SendError.message : SendError → String
  | .malformed => "builder error"
  | .unanswered reason => "error sending request: " ++ reason

/-- What comes of a request. -/
inductive Delivery where
  | reply (incoming : Incoming)
  | failed (reason : String)
  /-- It took longer than its limit. -/
  | overran

/-- The world outside the proxy, over states `σ`. -/
structure Surroundings (σ : Type) where
  /-- Starts a program. -/
  start : Program.Call → StateM σ Program.Outcome
  /-- Sends a request. -/
  send : Outgoing → StateM σ Delivery

namespace Surroundings

/-- The surroundings that also keep a list of the requests that were sent, the last one
first. -/
def logged (s : Surroundings σ) : Surroundings (σ × List Outgoing) where
  start call := fun (w, log) =>
    let (outcome, w) := s.start call w
    (outcome, (w, log))
  send out := fun (w, log) =>
    let (delivery, w) := s.send out w
    (delivery, (w, out :: log))

/-- The surroundings without a network, in which the usual small programs can be started
over a tree of files. -/
def offline (start : Program.Call → Program.Outcome) : Surroundings Unit where
  start call := pure (start call)
  send _ := pure (.failed "connection refused")

end Surroundings

end ReplayProxy
