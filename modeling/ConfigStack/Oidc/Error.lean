import ConfigStack.Error

/-!
# Why discovery fails

An endpoint that cannot be reached or answers with something else than a discovery document is no
reason to give up: the defaults of the vendor serve. Everything else aborts the bootstrap.
-/
namespace ConfigStack.Oidc

inductive DiscoveryError where
  | invalidIssuer (reason : String)
  | client (reason : String)
  | unreachable (reason : String)
  | malformed (reason : String)
  | status (code : UInt16)
  deriving DecidableEq, Repr

namespace DiscoveryError

/-- Whether defaults may take the place of the document. -/
def isRecoverable : DiscoveryError → Bool
  | .unreachable _ | .malformed _ => true
  | .invalidIssuer _ | .client _ | .status _ => false

def message : DiscoveryError → String
  | .invalidIssuer reason => "Invalid issuer: " ++ reason
  | .client reason => "HTTP client error: " ++ reason
  | .unreachable reason => "Discovery endpoint unreachable: " ++ reason
  | .malformed reason => "Malformed discovery document: " ++ reason
  | .status code => "Discovery endpoint returned HTTP " ++ toString code.toNat

/-- The name under which discovery aborts a bootstrap. -/
def processorName : String := "oidc-discovery"

def toConfigError (e : DiscoveryError) : ConfigError :=
  .bootstrap processorName e.message

end DiscoveryError

end ConfigStack.Oidc
