import ConfigStack.Url.Address

/-!
# URLs

A URL taken apart into its normalised, percent-encoded parts, and the text they make.
-/
namespace ConfigStack

/-- A host. The name of a domain may be empty in a URL of a scheme that asks for no host. -/
inductive Url.Host where
  | domain (name : String)
  | ipv4 (address : Nat)
  | ipv6 (pieces : List Nat)
  deriving DecidableEq, Repr

/-- A path: of segments, each after a slash, or of text without any structure. -/
inductive Url.Path where
  | segments (items : List String)
  | bare (text : String)
  deriving DecidableEq, Repr

/-- A URL. A port is there only if it is not the default one of the scheme. A URL of the scheme
`file` is written with the two slashes of a host even where it has none. -/
structure Url where
  scheme : String
  username : String := ""
  password : String := ""
  host : Option Url.Host := none
  port : Option Nat := none
  path : Url.Path
  query : Option String := none
  fragment : Option String := none
  deriving DecidableEq, Repr

namespace Url

/-- The text of a host, with brackets around an IPv6 address. -/
def Host.text : Host → String
  | .domain name => name
  | .ipv4 address => ipv4Text address
  | .ipv6 pieces => "[" ++ ipv6Text pieces ++ "]"

def Path.text : Path → String
  | .segments items => String.join (items.map fun item => "/" ++ item)
  | .bare text => text

/-- The text of the host, if there is one that is not empty. -/
def hostText (u : Url) : Option String :=
  (u.host.map Host.text).filter (· ≠ "")

/-- The user part, with its `@`. -/
def credentials (u : Url) : String :=
  if u.username = "" ∧ u.password = "" then ""
  else if u.password = "" then u.username ++ "@"
  else u.username ++ ":" ++ u.password ++ "@"

/-- What stands between the scheme and the path. Without a host, a path that begins with an empty
segment is told from a host by `/.` before it. -/
def authority (u : Url) : String :=
  match u.host with
  | some host =>
    "//" ++ u.credentials ++ host.text ++
      match u.port with
      | some port => ":" ++ toString port
      | none => ""
  | none =>
    if u.scheme = "file" then "//"
    else
      match u.path with
      | .segments ("" :: _ :: _) => "/."
      | _ => ""

def text (u : Url) : String :=
  u.scheme ++ ":" ++ u.authority ++ u.path.text ++
    (match u.query with
      | some query => "?" ++ query
      | none => "") ++
    match u.fragment with
    | some fragment => "#" ++ fragment
    | none => ""

end Url

end ConfigStack
