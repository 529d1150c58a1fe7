import ConfigStack.Json.Reader
import ConfigStack.Oidc.Discovery
import ConfigStack.Url.Reference

/-!
# Discovery over HTTP

A client that asks a network for a URL, follows redirects, and reads the body of the answer as
JSON. The network is a parameter: it says what comes back for each URL, if anything does.
-/
namespace ConfigStack.Http

open Oidc (Client DiscoveryError)

/-- An answer: a status, where it sends the client on to, and the body, if it came whole. -/
structure Answer where
  status : UInt16
  location : Option String := none
  body : Option (List UInt8)

/-- What comes back for a URL; none if there is no answer. -/
abbrev Network := Url → Option Answer

def redirectLimit : Nat := 10

def Answer.isSuccess (a : Answer) : Bool :=
  200 ≤ a.status && a.status < 300

/-- Whether the status sends the client on. -/
def Answer.isRedirect (a : Answer) : Bool :=
  [301, 302, 303, 307, 308].contains a.status

/-- The URL without a name and password in it. -/
def withoutCredentials (url : Url) : Url :=
  { url with username := "", password := "" }

/-- The characters that a host in a request may not have, though one in a URL may. -/
def unsendable : List Char := ['"', '`', '{', '}']

/-- Whether a request for the URL can be made at all. -/
def canSend (url : Url) : Bool :=
  (url.scheme = "http" || url.scheme = "https") &&
    url.text.utf8ByteSize < 65535 &&
    match url.hostText with
    | some host => !host.toList.any unsendable.contains
    | none => false

/-- A failure with the URL it is about. -/
def failureAt {α : Type} (what : String) (url : Url) : Except DiscoveryError α :=
  .error (.unreachable (what ++ " for url (" ++ url.text ++ ")"))

/-- The final answer for a URL, with `more` redirects left to follow. An answer that sends the
client on to no URL is final. -/
def send (network : Network) : (more : Nat) → Url → Except DiscoveryError Answer
  | more, url =>
    if !canSend url then failureAt "builder error" url
    else
      match network url with
      | none => failureAt "error sending request" url
      | some answer =>
        let next := if answer.isRedirect then answer.location else none
        match next.map (Url.join url) with
        | some (.ok target) =>
          match more with
          | 0 => failureAt "error following redirect" url
          | more + 1 => send network more target
        | _ => .ok answer

/-- The body of an answer as JSON. Bytes that are no UTF-8 become replacement characters. -/
def readBody (answer : Answer) : Except DiscoveryError Json :=
  match answer.body with
  | none => .error (.unreachable "error decoding response body")
  | some bytes =>
    (Json.parse (String.ofList (Text.decodeLenient bytes))).mapError fun e => .malformed e.message

def client (network : Network) : Client := fun url =>
  match send network redirectLimit (withoutCredentials url) with
  | .error e => .error e
  | .ok answer => if answer.isSuccess then readBody answer else .error (.status answer.status)

def silent : Network := fun _ => none

end ConfigStack.Http
