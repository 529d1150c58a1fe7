import ConfigStack.Oidc.Document
import ConfigStack.Url.Reader

/-!
# Issuers

Where an issuer's discovery document is, and which style the issuer follows: whether its OAuth2
endpoints lie under a path of their own, or directly under the issuer.
-/
namespace ConfigStack.Oidc

/-- The path of the discovery document under the issuer. -/
def discoveryPath : String := ".well-known/openid-configuration"

/-- The issuer without blanks around it and without slashes at its end. -/
def issuerBase (issuer : String) : String :=
  Text.withoutFinalSlashes (Text.trimmed issuer)

def discoveryUrl (issuer : String) : Except DiscoveryError Url :=
  (Url.parse (issuerBase issuer ++ "/" ++ discoveryPath)).mapError fun e =>
    .invalidIssuer ("'" ++ issuer ++ "': " ++ e.message)

/-- How an issuer's endpoints lie. -/
inductive IssuerStyle where
  /-- Under `/oauth2`, unless the issuer names an authorization server itself. -/
  | standard
  /-- Directly under the issuer. -/
  | alternate
  deriving DecidableEq, Repr, Inhabited

def IssuerStyle.name : IssuerStyle → String
  | .standard => "Standard"
  | .alternate => "Alternate"

def IssuerStyle.isAlternate : IssuerStyle → Bool
  | .standard => false
  | .alternate => true

/-- The domains whose issuers have the alternate style, in normal form. -/
structure DomainClassifier where
  domains : List String
  deriving DecidableEq, Repr

namespace DomainClassifier

/-- The domain whose tenants have the alternate style where nothing else is configured. -/
def defaultDomain : String := "auth0.com"

/-- A domain without blanks around it and dots before it, in small ASCII letters. -/
def normalDomain (domain : String) : String :=
  Text.lowered (String.ofList ((Text.trim domain.toList).dropWhile (· = '.')))

/-- The classifier for domains as they are configured; empty ones do not count. -/
def ofDomains (domains : List String) : DomainClassifier :=
  ⟨(domains.map normalDomain).filter (· ≠ "")⟩

def default : DomainClassifier :=
  ofDomains [defaultDomain]

/-- Whether the host is the domain or one of its subdomains: what stands before the domain is
nothing or ends with a dot. -/
def isUnder (host domain : String) : Bool :=
  host = domain ||
    (domain.toList.isSuffixOf host.toList &&
      (host.toList.take (host.toList.length - domain.toList.length)).getLast? = some '.')

/-- The host of a URL, in small ASCII letters. -/
def hostOf (candidate : String) : Option String :=
  match Url.parse candidate with
  | .ok url => url.hostText.map Text.lowered
  | .error _ => none

/-- The style of an issuer. Its host is that of the issuer the document names, if it names one,
and else that of the configured issuer. -/
def classify (c : DomainClassifier) (issuer : String) (document : Document) : IssuerStyle :=
  match hostOf (document.issuer.getD issuer) with
  | some host => if c.domains.any (isUnder host) then .alternate else .standard
  | none => .standard

end DomainClassifier

end ConfigStack.Oidc
