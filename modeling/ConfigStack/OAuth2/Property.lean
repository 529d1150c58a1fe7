/-!
# Property names

The properties an operator sets for the vendor, and the standard OAuth2 properties of a client
and of a resource server that are derived from them.
-/
namespace ConfigStack.OAuth2

namespace Vendor

def keyStart : String := "okta.oauth2."
def issuer : String := "okta.oauth2.issuer"
/-- The base of the issuer's endpoints; derived, never set by hand. -/
def issuerWithPath : String := "okta.oauth2.issuer-with-path"
def clientId : String := "okta.oauth2.client-id"
def clientSecret : String := "okta.oauth2.client-secret"
def scopes : String := "okta.oauth2.scopes"
/-- A path under the base URL of the application. -/
def redirectUri : String := "okta.oauth2.redirect-uri"
/-- The time a discovery request may take, in seconds. -/
def discoveryTimeout : String := "okta.oauth2.discovery.timeout-secs"
/-- The domains whose issuers have the alternate style. -/
def alternateDomains : String := "okta.oauth2.discovery.alternate-issuer-domains"

def all : List String :=
  [issuer, issuerWithPath, clientId, clientSecret, scopes, redirectUri, discoveryTimeout,
    alternateDomains]

end Vendor

namespace Standard

def keyStart : String := "security.oauth2."

def clientId : String := "security.oauth2.client.registration.okta.client-id"
def clientSecret : String := "security.oauth2.client.registration.okta.client-secret"
def scope : String := "security.oauth2.client.registration.okta.scope"
def redirectUri : String := "security.oauth2.client.registration.okta.redirect-uri"
def clientAuthMethod : String :=
  "security.oauth2.client.registration.okta.client-authentication-method"

def authorizationUri : String := "security.oauth2.client.provider.okta.authorization-uri"
def tokenUri : String := "security.oauth2.client.provider.okta.token-uri"
def userInfoUri : String := "security.oauth2.client.provider.okta.user-info-uri"
def jwkSetUri : String := "security.oauth2.client.provider.okta.jwk-set-uri"
def issuerUri : String := "security.oauth2.client.provider.okta.issuer-uri"

def resourceIssuerUri : String := "security.oauth2.resourceserver.jwt.issuer-uri"
def resourceJwkSetUri : String := "security.oauth2.resourceserver.jwt.jwk-set-uri"

def opaqueClientId : String := "security.oauth2.resourceserver.opaque-token.client-id"
def opaqueClientSecret : String := "security.oauth2.resourceserver.opaque-token.client-secret"
def opaqueIntrospectionUri : String :=
  "security.oauth2.resourceserver.opaque-token.introspection-uri"

def all : List String :=
  [clientId, clientSecret, scope, redirectUri, clientAuthMethod, authorizationUri, tokenUri,
    userInfoUri, jwkSetUri, issuerUri, resourceIssuerUri, resourceJwkSetUri, opaqueClientId,
    opaqueClientSecret, opaqueIntrospectionUri]

end Standard

end ConfigStack.OAuth2
