import ConfigStack.Json.Basic
import ConfigStack.Oidc.Error
import ConfigStack.Text.Quoted

/-!
# Discovery documents

The seven members of a discovery document that matter. Each of them may be missing or `null`; a
member that is there has its type, or the document is refused. Other members do not count. Of
several members of a wrong type the one whose name comes first is reported.
-/
namespace ConfigStack.Oidc

structure Document where
  issuer : Option String := none
  authorizationEndpoint : Option String := none
  tokenEndpoint : Option String := none
  userinfoEndpoint : Option String := none
  jwksUri : Option String := none
  introspectionEndpoint : Option String := none
  authMethods : Option (List String) := none
  deriving DecidableEq, Repr, Inhabited

inductive Expected where
  | string
  | sequence
  deriving DecidableEq, Repr

/-- Why a JSON value is not a discovery document. -/
inductive DocumentError where
  | notAnObject
  | wrongType (found : Json) (expected : Expected)

/-- What a JSON value is, in messages. -/
def describe : Json → String
  | .null => "null"
  | .bool true => "boolean `true`"
  | .bool false => "boolean `false`"
  | .number (.float x) => "floating point `" ++ Decimal.pointed x ++ "`"
  | .number n => "integer `" ++ n.text ++ "`"
  | .string s => "string " ++ Text.quoted s
  | .array _ => "sequence"
  | .object _ => "map"

def Expected.name : Expected → String
  | .string => "a string"
  | .sequence => "a sequence"

def DocumentError.message : DocumentError → String
  | .notAnObject => "expected a JSON object"
  | .wrongType found expected =>
    "invalid type: " ++ describe found ++ ", expected " ++ expected.name

namespace Document

def readString (j : Json) : Except DocumentError String :=
  match j with
  | .string s => .ok s
  | j => .error (.wrongType j .string)

def readStrings (j : Json) : Except DocumentError (List String) :=
  match j with
  | .array items => items.mapM readString
  | j => .error (.wrongType j .sequence)

/-- A member that may be missing or `null`. -/
def readMember {α : Type} (read : Json → Except DocumentError α) (name : String) (j : Json) :
    Except DocumentError (Option α) :=
  match j.present? name with
  | none => .ok none
  | some value => (read value).map some

/-- Reads the seven members, in the order of their names. -/
def readMembers (j : Json) : Except DocumentError Document := do
  let authorizationEndpoint ← readMember readString "authorization_endpoint" j
  let introspectionEndpoint ← readMember readString "introspection_endpoint" j
  let issuer ← readMember readString "issuer" j
  let jwksUri ← readMember readString "jwks_uri" j
  let tokenEndpoint ← readMember readString "token_endpoint" j
  let authMethods ← readMember readStrings "token_endpoint_auth_methods_supported" j
  let userinfoEndpoint ← readMember readString "userinfo_endpoint" j
  return {
    issuer, authorizationEndpoint, tokenEndpoint, userinfoEndpoint, jwksUri,
    introspectionEndpoint, authMethods }

def ofJson (j : Json) : Except DiscoveryError Document :=
  match j with
  | .object _ => (readMembers j).mapError fun e => .malformed e.message
  | _ => .error (.malformed DocumentError.notAnObject.message)

end Document

end ConfigStack.Oidc
