import ConfigStack.Environment
import ConfigStack.OAuth2.Property
import ConfigStack.Oidc.Metadata

/-!
# Derived properties

The layers that give the standard properties their values. None of them looks at the environment
when it is made: what is visible, and with which value, is decided at every read, so a later
change of a vendor property shows in all that is derived from it.
-/
namespace ConfigStack.OAuth2

open Oidc (IssuerStyle Metadata)

/-- A conditional layer with texts for values. -/
def conditional (name : String) (values : List (String × Value)) (required : List String)
    (forbidden : List String := []) : Layer :=
  .conditional { name, settings := .ofList values, required, forbidden }

/-- A text that is the value of another property. -/
def sameAs (key : String) : Value :=
  .string (Template.reference key)

/-- Client id and secret are those of the vendor's properties. -/
def clientAliases : Layer :=
  .alias {
    name := "okta-to-oauth2"
    targets := .ofList
      [(Standard.clientId, Vendor.clientId), (Standard.clientSecret, Vendor.clientSecret)] }

def configuredScopes : Layer :=
  .computed {
    name := "okta-scope-remapper"
    key := Standard.scope
    compute := do
      match ← Inquiry.resolved Vendor.scopes with
      | none => return none
      | some v =>
        let scopes := v.stringSet
        return if scopes.isEmpty then none else some (.ofStrings scopes) }

/-- The scopes of the metadata, for a client with an issuer. -/
def defaultScopes (m : Metadata) : Layer :=
  conditional "default-scopes" [(Standard.scope, .ofStrings m.scopes)]
    [Vendor.issuer, Vendor.clientId]

/-- The path under which an issuer keeps its authorization servers. -/
def serverPath : String := "/oauth2"

/-- The base of an issuer's endpoints: the issuer itself if it has the alternate style or its text
contains the server path, and else the server path under it. -/
def issuerWithPath (issuer : String) (style : IssuerStyle) : String :=
  if style.isAlternate || Text.occursIn serverPath.toList issuer.toList then issuer
  else Text.withoutFinalSlashes issuer ++ serverPath

/-- The base of the endpoints of the issuer as it reads at the moment. -/
def endpointBase (style : IssuerStyle) : Layer :=
  .computed {
    name := "okta-issuer-url-resolving-source"
    key := Vendor.issuerWithPath
    compute := do
      match ← Inquiry.resolved Vendor.issuer with
      | some (.string issuer) => return some (.string (issuerWithPath issuer style))
      | _ => return none }

/-- The endpoints of the provider and what a resource server needs to check tokens. -/
def endpoints (m : Metadata) : Layer :=
  conditional "okta-static-discovery"
    [(Standard.resourceIssuerUri, sameAs Vendor.issuer),
      (Standard.resourceJwkSetUri, .string m.jwkSetUri),
      (Standard.authorizationUri, .string m.authorizationUri),
      (Standard.tokenUri, .string m.tokenUri),
      (Standard.userInfoUri, .string m.userInfoUri),
      (Standard.jwkSetUri, .string m.jwkSetUri),
      (Standard.issuerUri, sameAs Vendor.issuer)]
    [Vendor.issuer]

/-- What a resource server needs to have opaque tokens checked; only for an issuer that checks
them. -/
def opaqueTokens (m : Metadata) : Option Layer :=
  m.introspectionUri.map fun uri =>
    conditional "okta-opaque-token"
      [(Standard.opaqueClientId, sameAs Vendor.clientId),
        (Standard.opaqueClientSecret, sameAs Vendor.clientSecret),
        (Standard.opaqueIntrospectionUri, .string uri)]
      [Vendor.issuer, Vendor.clientSecret]

/-- The redirect URI under the base URL of the application, which the client fills in. -/
def redirect : Layer :=
  conditional "okta-redirect-uri-helper"
    [(Standard.redirectUri, .string ("\x7bbaseUrl\x7d" ++ Template.reference Vendor.redirectUri))]
    [Vendor.redirectUri]

/-- The authentication method of a client without a secret. -/
def publicClient (m : Metadata) : Layer :=
  conditional "okta-pkce-for-public-clients"
    [(Standard.clientAuthMethod, .string m.authMethod)]
    [Vendor.issuer, Vendor.clientId] [Standard.clientSecret]

def derivedLayers (m : Metadata) : List Layer :=
  [clientAliases, configuredScopes, defaultScopes m, endpointBase m.style, endpoints m] ++
    (opaqueTokens m).toList ++ [redirect, publicClient m]

/-- The environment with the layers behind everything it has. -/
def install (layers : List Layer) (env : Environment) : Environment :=
  layers.foldl (fun env layer => env.addLast (.layer layer)) env

end ConfigStack.OAuth2
