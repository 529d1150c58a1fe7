import ConfigStack.Proofs.OAuth2.LiveIssuer
import ConfigStack.Proofs.OAuth2.ServerPath

/-!
# Spellings of one issuer

Discovery takes blanks off both ends of an issuer, and then slashes off its end; two issuers of
which the same is left have one discovery document. The base of the endpoints takes off slashes
only, and none at all where the issuer names a server path. So what discovery takes no notice of
shows in the endpoints, except for final slashes behind an issuer without a server path
(`endpoints_agree_iff`).
-/
namespace ConfigStack.OAuth2

open Oidc (Metadata)

/-! ### Bases -/

/-- What discovery takes off an issuer is no part of a server path. -/
theorem occursIn_issuerBase {word : List Char} (first last : Char)
    (starts : word.head? = some first) (ends : word.getLast? = some last)
    (keptFirst : Text.isBlank first = false) (keptLast : Text.isBlank last = false)
    (other : last ≠ '/') (issuer : String) :
    Text.occursIn word (Oidc.issuerBase issuer).toList = Text.occursIn word issuer.toList := by
  rw [Oidc.issuerBase, Text.withoutFinalSlashes, String.toList_ofList, Text.trimmed,
    String.toList_ofList, Text.occursIn_dropEndWhile ends (by simpa using other), Text.trim,
    Text.occursIn_dropEndWhile ends keptLast, Text.occursIn_dropWhile starts keptFirst]

theorem serverPath_issuerBase (issuer : String) :
    Text.occursIn serverPath.toList (Oidc.issuerBase issuer).toList =
      Text.occursIn serverPath.toList issuer.toList :=
  occursIn_issuerBase '/' '2' (by decide) (by decide) (by decide) (by decide) (by decide) issuer

theorem hasOpening_issuerBase (issuer : String) :
    Template.hasOpening (Oidc.issuerBase issuer) = Template.hasOpening issuer :=
  occursIn_issuerBase '$' '{' rfl rfl (by decide) (by decide) (by decide) issuer

/-- Two spellings from which the endpoints have one base: they are the same, or name no server path
and differ in their final slashes only. -/
def SameBase (s t : String) : Prop :=
  s = t ∨ Text.occursIn serverPath.toList s.toList = false ∧
    Text.withoutFinalSlashes s = Text.withoutFinalSlashes t

theorem issuerWithPath_eq_iff {s t : String} (same : Oidc.issuerBase s = Oidc.issuerBase t) :
    issuerWithPath s .standard = issuerWithPath t .standard ↔ SameBase s t := by
  have alike : Text.occursIn serverPath.toList t.toList =
      Text.occursIn serverPath.toList s.toList := by
    rw [← serverPath_issuerBase t, ← same, serverPath_issuerBase]
  rw [issuerWithPath_standard, issuerWithPath_standard, alike, SameBase]
  cases Text.occursIn serverPath.toList s.toList with
  | true => simp
  | false =>
    simp only [Bool.false_eq_true, if_false, String.append_left_inj, true_and]
    exact ⟨.inr, fun either => either.elim (fun equal => equal ▸ rfl) id⟩

/-- Discovery asks for one document. -/
theorem discoveryUrl_of_same_base {s t : String} (same : Oidc.issuerBase s = Oidc.issuerBase t) :
    (Oidc.discoveryUrl s).toOption = (Oidc.discoveryUrl t).toOption := by
  rw [Oidc.discoveryUrl, Oidc.discoveryUrl, same]
  cases Url.parse (Oidc.issuerBase t ++ "/" ++ Oidc.discoveryPath) <;> rfl

/-! ### Endpoints -/

/-- The environment with the derived layers of an issuer about which nothing is known. -/
def withFallback (env : Environment) : Environment :=
  install (derivedLayers (.fallback Vendor.issuerWithPath)) env

/-- An environment with an issuer that resolves to the text, from which the base of the endpoints
is derived. -/
structure Spelled (env : Environment) (issuer : String) : Prop where
  fixed : env.Fixed
  free : env.contains Vendor.issuerWithPath = some false
  resolved : (withFallback env).resolved Vendor.issuer = some (some (.string issuer))

namespace Spelled

variable {env : Environment} {issuer key path : String}

/-- An endpoint reads as the expansion of the base of the issuer, with its path behind it. -/
theorem getResolved_eq (spelled : Spelled env issuer) (listed : (key, path) ∈ endpointPaths)
    (free : env.contains key = some false) :
    (withFallback env).getResolved (.scalar .text) key = (do
      let base ← Expansion.text (withFallback env).property (nestingLimit - 1)
        (issuerWithPath issuer .standard)
      pure (base ++ path)) := by
  obtain ⟨i, given, -, resolved, values⟩ :=
    reads_install spelled.fixed (.fallback Vendor.issuerWithPath) 0
  have unset : ∀ key, env.contains key = some false →
      (withFallback env).property key =
        some (derivedValue (.fallback Vendor.issuerWithPath) i key) := by
    intro key free
    have read := values key
    rwa [Environment.configured_of_not_contains spelled.fixed free, Option.none_or] at read
  have base := derivedValue_issuerWithPath (.fallback Vendor.issuerWithPath)
    (Option.some.inj (resolved.symm.trans spelled.resolved))
  have hasIssuer : [Vendor.issuer].all i.has = true := by
    have assembled := assembled_install spelled.fixed (.fallback Vendor.issuerWithPath)
    have installed : i.given = configured (withFallback env).sources :=
      given.trans (funext (configured_install env _)).symm
    rw [List.all_cons, List.all_nil,
      has_of_resolved assembled installed (by decide) spelled.resolved]
    rfl
  have row : derivedValue (.fallback Vendor.issuerWithPath) i key =
      some (.string (Oidc.endpointTemplate Vendor.issuerWithPath path)) := by
    rw [Templated.fallback.derivedValue_eq i listed, Inputs.during, if_pos hasIssuer]
  have plainPath : ∀ entry ∈ endpointPaths, Template.hasOpening entry.2 = false := by decide
  -- The endpoint is a template over the base, and the base is a string of its own.
  exact getResolved_endpointTemplate_expands (by decide) (plainPath _ listed)
    ((unset key free).trans (congrArg some row))
    ((unset Vendor.issuerWithPath spelled.free).trans (congrArg some base))

theorem getResolved_of_plain (spelled : Spelled env issuer)
    (plain : Template.hasOpening issuer = false) (listed : (key, path) ∈ endpointPaths)
    (free : env.contains key = some false) :
    (withFallback env).getResolved (.scalar .text) key =
      pure (issuerWithPath issuer .standard ++ path) := by
  rw [spelled.getResolved_eq listed free,
    Expansion.text_of_plain (plain_issuerWithPath plain .standard), pure_bind]

end Spelled

/-- **What discovery takes no notice of shows in the endpoints.** For two issuers that are the same
to discovery, and any two environments that have them and leave an endpoint to be derived: the
endpoint reads as the expansion of the issuer's own base with its path behind it, and, where the
issuers have no references left, alike in both environments if and only if the issuers are the same
or differ in final slashes only and name no server path. -/
theorem endpoints_agree_iff {s t : String} (same : Oidc.issuerBase s = Oidc.issuerBase t) :
    (Oidc.discoveryUrl s).toOption = (Oidc.discoveryUrl t).toOption ∧
    ∀ {one other : Environment}, Spelled one s → Spelled other t →
      ∀ key path, (key, path) ∈ endpointPaths →
        one.contains key = some false → other.contains key = some false →
        (withFallback one).getResolved (.scalar .text) key = (do
          let base ← Expansion.text (withFallback one).property (nestingLimit - 1)
            (issuerWithPath s .standard)
          pure (base ++ path)) ∧
        (Template.hasOpening s = false →
          ((withFallback one).getResolved (.scalar .text) key =
            (withFallback other).getResolved (.scalar .text) key ↔ SameBase s t)) := by
  refine ⟨discoveryUrl_of_same_base same, ?_⟩
  intro one other first second key path listed free free'
  refine ⟨first.getResolved_eq listed free, fun plain => ?_⟩
  have plain' : Template.hasOpening t = false := by
    rw [← hasOpening_issuerBase, ← same, hasOpening_issuerBase, plain]
  rw [first.getResolved_of_plain plain listed free, second.getResolved_of_plain plain' listed free',
    Reading.pure_inj, String.append_left_inj, issuerWithPath_eq_iff same]

/-! ### A server path with a final slash -/

/-- An issuer and nothing else. -/
def spelledAs (issuer : String) : Environment :=
  .ofSettings [(Vendor.issuer, .string issuer)]

theorem configured_spelledAs (issuer key : String) :
    configured (spelledAs issuer).sources key =
      if key = Vendor.issuer then some (.string issuer) else none :=
  configured_ofSettings_singleton ..

theorem fixed_spelledAs (issuer : String) : (spelledAs issuer).Fixed :=
  (Environment.static_ofSettings _).fixed

theorem contains_spelledAs {issuer key : String} (other : key ≠ Vendor.issuer) :
    (spelledAs issuer).contains key = some false := by
  rw [Environment.contains_of_fixed (fixed_spelledAs issuer), configured_spelledAs, if_neg other]
  rfl

/-- Every text without references can be the issuer. -/
theorem spelled_spelledAs {issuer : String} (plain : Template.hasOpening issuer = false) :
    Spelled (spelledAs issuer) issuer where
  fixed := fixed_spelledAs issuer
  free := contains_spelledAs (by decide)
  resolved := by
    obtain ⟨i, -, -, -, values⟩ :=
      reads_install (fixed_spelledAs issuer) (.fallback Vendor.issuerWithPath) 1
    have held := values Vendor.issuer
    rw [configured_spelledAs, if_pos rfl, Option.some_or] at held
    exact Environment.reads_resolved_of_plain (by decide) held plain

def slashedServer : String := "https://x.okta.com/oauth2/default/"

def bareServer : String := "https://x.okta.com/oauth2/default"

theorem endpoints_agree_iff_of_slashed_server :
    Oidc.issuerBase slashedServer = Oidc.issuerBase bareServer ∧
      Spelled (spelledAs slashedServer) slashedServer ∧
      Spelled (spelledAs bareServer) bareServer ∧
      (Standard.tokenUri, "/v1/token") ∈ endpointPaths ∧
      (spelledAs slashedServer).contains Standard.tokenUri = some false ∧
      (spelledAs bareServer).contains Standard.tokenUri = some false ∧
      Template.hasOpening slashedServer = false ∧
      (withFallback (spelledAs slashedServer)).getResolved (.scalar .text) Standard.tokenUri ≠
        (withFallback (spelledAs bareServer)).getResolved (.scalar .text) Standard.tokenUri := by
  have same : Oidc.issuerBase slashedServer = Oidc.issuerBase bareServer := by decide +kernel
  have plain : Template.hasOpening slashedServer = false := by decide
  have first : Spelled (spelledAs slashedServer) slashedServer := spelled_spelledAs plain
  have second : Spelled (spelledAs bareServer) bareServer := spelled_spelledAs (by decide)
  have listed : (Standard.tokenUri, "/v1/token") ∈ endpointPaths := by simp [endpointPaths]
  have free : ∀ issuer, (spelledAs issuer).contains Standard.tokenUri = some false :=
    fun issuer => contains_spelledAs (by decide)
  have agree := ((endpoints_agree_iff same).2 first second _ _ listed (free _) (free _)).2 plain
  have apart : ¬SameBase slashedServer bareServer := by
    rintro (equal | ⟨unnamed, -⟩)
    · revert equal
      decide
    · revert unnamed
      decide
  exact ⟨same, first, second, listed, free _, free _, plain, fun alike => apart (agree.mp alike)⟩

end ConfigStack.OAuth2
