import ConfigStack.Oidc.Issuer
import ConfigStack.Template

/-!
# Issuer metadata

What the OAuth2 properties are derived from. An endpoint is a URL from the discovery document, or
a template over the property that holds the base of the issuer's endpoints.
-/
namespace ConfigStack.Oidc

/-- The authentication method of a client without a secret. -/
def publicClientMethod : String := "none"

/-- The authentication method where the issuer does not accept clients without a secret. -/
def secretMethod : String := "client_secret_basic"

/-- The scopes asked for where none are configured. -/
def defaultScopes : List String := ["openid", "profile", "email"]

inductive MetadataOrigin where
  | discovered
  | fallback
  deriving DecidableEq, Repr, Inhabited

def MetadataOrigin.name : MetadataOrigin → String
  | .discovered => "Discovered"
  | .fallback => "Fallback"

structure Metadata where
  authorizationUri : String
  tokenUri : String
  userInfoUri : String
  jwkSetUri : String
  introspectionUri : Option String
  scopes : List String
  authMethod : String
  style : IssuerStyle
  origin : MetadataOrigin
  deriving DecidableEq, Repr

/-- An endpoint as a path under the value of a property. -/
def endpointTemplate (baseKey path : String) : String :=
  Template.reference baseKey ++ path

/-- The authentication method for an issuer that accepts the given ones. -/
def authMethodFor (accepted : Option (List String)) : String :=
  match accepted with
  | some methods => if methods.contains publicClientMethod then publicClientMethod else secretMethod
  | none => publicClientMethod

namespace Metadata

/-- The metadata of an issuer about which nothing is known. -/
def fallback (baseKey : String) : Metadata where
  authorizationUri := endpointTemplate baseKey "/v1/authorize"
  tokenUri := endpointTemplate baseKey "/v1/token"
  userInfoUri := endpointTemplate baseKey "/v1/userinfo"
  jwkSetUri := endpointTemplate baseKey "/v1/keys"
  introspectionUri := some (endpointTemplate baseKey "/v1/introspect")
  scopes := defaultScopes
  authMethod := publicClientMethod
  style := .standard
  origin := .fallback

/-- The metadata of a discovery document. An endpoint it does not name is the template; an
introspection endpoint it does not name is none. -/
def discovered (document : Document) (style : IssuerStyle) (baseKey : String) : Metadata where
  authorizationUri := document.authorizationEndpoint.getD (endpointTemplate baseKey "/v1/authorize")
  tokenUri := document.tokenEndpoint.getD (endpointTemplate baseKey "/v1/token")
  userInfoUri := document.userinfoEndpoint.getD (endpointTemplate baseKey "/v1/userinfo")
  jwkSetUri := document.jwksUri.getD (endpointTemplate baseKey "/v1/keys")
  introspectionUri := document.introspectionEndpoint
  scopes := defaultScopes
  authMethod := authMethodFor document.authMethods
  style
  origin := .discovered

def isDiscovered (m : Metadata) : Bool :=
  m.origin = .discovered

end Metadata

end ConfigStack.Oidc
