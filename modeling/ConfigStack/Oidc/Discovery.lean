import ConfigStack.Log
import ConfigStack.Oidc.Metadata

/-!
# Discovery

Metadata for an issuer: without an issuer the fallback and no request; with one, exactly one
request for its discovery document, or none if the issuer has no discovery URL. A failure that is
recoverable leaves a warning and gives the fallback.
-/
namespace ConfigStack.Oidc

/-- Something that fetches a URL and reads the answer as JSON. -/
abbrev Client := Url → Except DiscoveryError Json

structure Trail where
  records : List LogRecord := []
  requests : List Url := []
  events : List Event := []

structure Fetched where
  result : Except DiscoveryError Metadata
  trail : Trail

/-- The component that reports discovery. -/
def discoveryOrigin : String := "okta_env_oidc::fetcher"

/-- The event of a request, in the span of the discovery it belongs to. -/
def requestEvent (url : Url) : Event where
  level := .debug
  fields := [("message", "Requesting discovery document")]
  span := some ⟨"oidc_discovery", [("url", url.text)]⟩

def noIssuerRecord : LogRecord :=
  ⟨.debug, discoveryOrigin, "No issuer configured, using default metadata"⟩

def loadedRecord (url : Url) (style : IssuerStyle) : LogRecord :=
  ⟨.debug, discoveryOrigin,
    "Loaded OIDC metadata from " ++ url.text ++ " (" ++ style.name ++ " issuer)"⟩

def failureRecord (url : Url) (e : DiscoveryError) : LogRecord :=
  ⟨.warn, discoveryOrigin,
    "Failed to process '" ++ discoveryPath ++ "' metadata from " ++ url.text ++ ": " ++ e.message ++
      ". Using defaults for Okta"⟩

def fetchDocument (client : Client) (url : Url) : Except DiscoveryError Document :=
  match client url with
  | .ok body => Document.ofJson body
  | .error e => .error e

/-- Metadata for an issuer, with endpoint templates over the property `baseKey`. -/
def fetch (client : Client) (classifier : DomainClassifier) (baseKey : String)
    (issuer : Option String) : Fetched :=
  match issuer with
  | none => ⟨.ok (.fallback baseKey), { records := [noIssuerRecord] }⟩
  | some issuer =>
    match discoveryUrl issuer with
    | .error e => ⟨.error e, {}⟩
    | .ok url =>
      let trail := { requests := [url], events := [requestEvent url] : Trail }
      match fetchDocument client url with
      | .ok document =>
        let style := classifier.classify issuer document
        ⟨.ok (.discovered document style baseKey),
          { trail with records := [loadedRecord url style] }⟩
      | .error e =>
        if e.isRecoverable then
          ⟨.ok (.fallback baseKey), { trail with records := [failureRecord url e] }⟩
        else ⟨.error e, trail⟩

end ConfigStack.Oidc
