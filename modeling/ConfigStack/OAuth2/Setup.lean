import ConfigStack.Bootstrap
import ConfigStack.OAuth2.Derivation

/-!
# Setting up the OAuth2 properties

The processor that finds out the metadata of the configured issuer and puts the derived layers
behind everything the environment has, so that whatever is configured explicitly wins. Most programs
need no other processor; `bootstrap` runs this one alone.
-/
namespace ConfigStack.OAuth2

open Oidc (Client DiscoveryError DomainClassifier Metadata Trail)

/-- How the discovery document is fetched: by a client that is given, or by one that is made for
the timeout that is configured, in seconds. Making one may fail. -/
inductive Transport where
  | given (client : Client)
  | made (build : Option UInt64 → Except DiscoveryError Client)

def setupName : String := "okta-oauth2-properties-mapping"

/-- The processor runs after all that leave room for it. -/
def setupOrder : Int32 := lowestPrecedence - 1

/-- The classifier for the domains that are configured as they stand, or the default one. -/
def configuredClassifier (env : Environment) : Option DomainClassifier :=
  (env.property Vendor.alternateDomains).map fun
    | some domains => .ofDomains domains.stringSet
    | none => .default

/-- The client of a transport. Only one that is still to be made looks at the timeout. -/
def Transport.client (t : Transport) (env : Environment) : Reading Client :=
  match t with
  | .given client => pure client
  | .made build => do
    let timeout ← env.getOptional (.scalar .unsigned) Vendor.discoveryTimeout
    ExceptT.mk (some ((build timeout).mapError DiscoveryError.toConfigError))

/-- What discovery needs, read from the environment: the issuer, the classifier, the client. -/
def readSetup (t : Transport) (env : Environment) :
    Reading (Option String × DomainClassifier × Client) := do
  let issuer ← env.getOptional (.scalar .text) Vendor.issuer
  let classifier ← ExceptT.lift (configuredClassifier env)
  let client ← t.client env
  return (issuer, classifier, client)

/-- The record of the layers that are put in place. -/
def installRecord (m : Metadata) : LogRecord :=
  ⟨.debug, setupName,
    "Installing " ++ m.origin.name ++ " metadata layers: " ++
      String.intercalate ", " ((derivedLayers m).map Layer.name)⟩

/-- Discovers the metadata and puts the derived layers in place. -/
def setUp (t : Transport) (env : Environment) : Option (Except ConfigError Environment × Trail) :=
  match (readSetup t env).run with
  | none => none
  | some (.error e) => some (.error e, {})
  | some (.ok (issuer, classifier, client)) =>
    let fetched := Oidc.fetch client classifier Vendor.issuerWithPath issuer
    match fetched.result with
    | .error e => some (.error e.toConfigError, fetched.trail)
    | .ok m =>
      some (.ok (install (derivedLayers m) env),
        { fetched.trail with records := fetched.trail.records ++ [installRecord m] })

def setup (t : Transport) : Processor where
  name := setupName
  order := setupOrder
  process env _ := setUp t env

/-- The bootstrap with the setup for its one processor. The client is made for the timeout that is
configured. -/
def bootstrap (build : Option UInt64 → Except DiscoveryError Client) (env : Environment) :
    Option Report :=
  Bootstrap.run env [setup (.made build)]

/-- It has the outcome of the setup, and its log is what the setup records. -/
theorem bootstrap_eq (build : Option UInt64 → Except DiscoveryError Client) (env : Environment) :
    bootstrap build env =
      (setUp (.made build) env).map fun (outcome, trail) =>
        ⟨[⟨0, trail⟩], ⟨trail.records⟩, outcome⟩ :=
  Bootstrap.run_singleton env (setup (.made build))

/-- The processor as text: whether its client was given. -/
def Transport.describe (t : Transport) : String :=
  "OktaOAuth2PostProcessor \x7b custom_client: " ++
    (match t with
      | .given _ => "true"
      | .made _ => "false") ++ " \x7d"

end ConfigStack.OAuth2
