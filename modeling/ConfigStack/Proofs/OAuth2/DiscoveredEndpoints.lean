import ConfigStack.Proofs.OAuth2.DerivedValues
import ConfigStack.Proofs.OAuth2.SettingUp
import ConfigStack.Proofs.SelfExpansion

/-!
# The endpoints of a discovery document

A successful set-up puts the strings of the document into the settings of a derived layer, where
they are templates like every other string. What is read for an endpoint is therefore the
expansion of the document's string in the whole environment: the string itself if it has no
opening of a reference, and else whatever the references in it stand for.
-/
namespace ConfigStack.OAuth2

open Oidc (Client Document Metadata Trail)

/-- The endpoints of a provider that a document may name and that properties are derived from. -/
inductive Endpoint where
  | authorization
  | token
  | userInfo
  | jwkSet
  deriving DecidableEq

namespace Endpoint

def key : Endpoint → String
  | .authorization => Standard.authorizationUri
  | .token => Standard.tokenUri
  | .userInfo => Standard.userInfoUri
  | .jwkSet => Standard.jwkSetUri

def named (document : Document) : Endpoint → Option String
  | .authorization => document.authorizationEndpoint
  | .token => document.tokenEndpoint
  | .userInfo => document.userinfoEndpoint
  | .jwkSet => document.jwksUri

def template (m : Metadata) : Endpoint → String
  | .authorization => m.authorizationUri
  | .token => m.tokenUri
  | .userInfo => m.userInfoUri
  | .jwkSet => m.jwkSetUri

end Endpoint

theorem template_discovered {document : Document} {endpoint : Endpoint} {s : String}
    (names : endpoint.named document = some s) (style : Oidc.IssuerStyle) (baseKey : String) :
    endpoint.template (.discovered document style baseKey) = s := by
  cases endpoint <;> exact Option.getD_eq_iff.mpr (.inl names)

theorem derivedValue_endpoint (m : Metadata) (i : Inputs) (endpoint : Endpoint) :
    derivedValue m i endpoint.key = i.during [Vendor.issuer] (.string (endpoint.template m)) := by
  cases endpoint <;> rfl

/-- With an issuer there, the value of an endpoint's own key is its template. -/
theorem property_endpoint {env : Environment} (fixed : env.Fixed)
    (issuer : env.contains Vendor.issuer = some true) {endpoint : Endpoint}
    (free : env.contains endpoint.key = some false) (m : Metadata) :
    (install (derivedLayers m) env).property endpoint.key =
      some (some (.string (endpoint.template m))) := by
  obtain ⟨i, given, -, -, values⟩ := reads_install fixed m 0
  rw [Environment.contains_of_fixed fixed, Option.some.injEq] at issuer free
  have unset : configured env.sources endpoint.key = none := by simpa using free
  have shown : i.during [Vendor.issuer] (.string (endpoint.template m)) =
      some (.string (endpoint.template m)) := by
    simp only [Inputs.during, Inputs.has, given, List.all_cons, List.all_nil, issuer]
    rfl
  have read := values endpoint.key
  rw [unset, Option.none_or, derivedValue_endpoint, shown] at read
  exact read

/-! ### Set-ups from a document -/

def providerKeys : List String :=
  [Standard.authorizationUri, Standard.tokenUri, Standard.userInfoUri, Standard.jwkSetUri,
    Standard.issuerUri]

/-- A set-up that succeeds, of an environment with an issuer and without keys of the provider, by a
client that answers with a document: the document names all endpoints, and one of them as `text`. -/
structure DiscoveredSetup (endpoint : Endpoint) (text : String) where
  env : Environment
  static : env.Static
  issuer : env.contains Vendor.issuer = some true
  free : ∀ key ∈ providerKeys, env.contains key = some false
  json : Json
  document : Document
  accepted : Document.ofJson json = .ok document
  names : ∀ e : Endpoint, (e.named document).isSome
  here : endpoint.named document = some text
  client : Client
  after : Environment
  trail : Trail
  succeeds : setUp (.given client) env = some (.ok after, trail)
  answers : ∀ url ∈ trail.requests, client url = .ok json

namespace DiscoveredSetup

variable {endpoint : Endpoint} {text : String}

theorem getResolved_eq (s : DiscoveredSetup endpoint text) :
    s.after.getResolved (.scalar .text) endpoint.key =
      Expansion.text s.after.property nestingLimit text := by
  obtain ⟨style, installed⟩ := after_of_success s.succeeds s.issuer s.answers s.accepted
  have free : s.env.contains endpoint.key = some false :=
    s.free endpoint.key (by cases endpoint <;> decide)
  have held := property_endpoint s.static.fixed s.issuer free
    (.discovered s.document style Vendor.issuerWithPath)
  rw [template_discovered s.here, ← installed] at held
  exact Environment.getResolved_text_of_string held

/-- A reference in the document to a plain setting of the environment is replaced by the setting,
whatever the setting is for. -/
theorem getResolved_reference {before key after value : String}
    (plainBefore : Template.hasOpening before = false)
    (plainAfter : Template.hasOpening after = false) (referable : Template.Referable key)
    (s : DiscoveredSetup endpoint (before ++ Template.reference key ++ after))
    (held : s.after.property key = some (some (.string value)))
    (plain : Template.hasOpening value = false) :
    s.after.getResolved (.scalar .text) endpoint.key = pure (before ++ value ++ after) := by
  rw [s.getResolved_eq]
  exact Expansion.text_reference_of_plain plainBefore plainAfter referable held plain 31

end DiscoveredSetup

/-! ### A document with one text to try -/

/-- An issuer, and a text that is as plain as it. -/
def plainIssuer : String := "https://a.b"

def issuerOnly : Environment :=
  .ofSettings [(Vendor.issuer, .string plainIssuer)]

/-- A text for one endpoint, and the plain text for the others. -/
def Endpoint.trying (endpoint : Endpoint) (text : String) (e : Endpoint) : String :=
  if e = endpoint then text else plainIssuer

def tryingJson (endpoint : Endpoint) (text : String) : Json :=
  .object
    [("authorization_endpoint", .string (endpoint.trying text .authorization)),
      ("token_endpoint", .string (endpoint.trying text .token)),
      ("userinfo_endpoint", .string (endpoint.trying text .userInfo)),
      ("jwks_uri", .string (endpoint.trying text .jwkSet))]

def tryingDocument (endpoint : Endpoint) (text : String) : Document where
  authorizationEndpoint := some (endpoint.trying text .authorization)
  tokenEndpoint := some (endpoint.trying text .token)
  userinfoEndpoint := some (endpoint.trying text .userInfo)
  jwksUri := some (endpoint.trying text .jwkSet)

theorem ofJson_trying (endpoint : Endpoint) (text : String) :
    Document.ofJson (tryingJson endpoint text) = .ok (tryingDocument endpoint text) := rfl

theorem named_trying (endpoint : Endpoint) (text : String) (e : Endpoint) :
    e.named (tryingDocument endpoint text) = some (endpoint.trying text e) := by
  cases e <;> rfl

theorem static_issuerOnly : issuerOnly.Static :=
  Environment.static_ofSettings _

theorem configured_issuerOnly (key : String) :
    configured issuerOnly.sources key =
      if key = Vendor.issuer then some (.string plainIssuer) else none :=
  configured_ofSettings_singleton ..

theorem plainIssuer_plain : Template.hasOpening plainIssuer = false := by decide

theorem exists_discoveryUrl : ∃ url, Oidc.discoveryUrl plainIssuer = .ok url := by
  have accepted : (Oidc.discoveryUrl plainIssuer).isOk = true := by decide +kernel
  cases located : Oidc.discoveryUrl plainIssuer with
  | ok url => exact ⟨url, rfl⟩
  | error e =>
    rw [located] at accepted
    cases accepted

theorem getResolved_issuerOnly :
    issuerOnly.getResolved (.scalar .text) Vendor.issuer = pure plainIssuer := by
  have held : issuerOnly.property Vendor.issuer = some (some (.string plainIssuer)) := by
    rw [Environment.property_of_fixed static_issuerOnly.fixed, configured_issuerOnly, if_pos rfl]
  rw [Environment.getResolved_text_of_string held, Expansion.text_of_plain plainIssuer_plain]

theorem configuredClassifier_issuerOnly :
    configuredClassifier issuerOnly = some Oidc.DomainClassifier.default := by
  rw [configuredClassifier, Environment.property_of_fixed static_issuerOnly.fixed,
    configured_issuerOnly, if_neg (by decide)]
  rfl

/-- Every text can come to be an endpoint's. -/
theorem exists_trying (endpoint : Endpoint) (text : String) :
    ∃ s : DiscoveredSetup endpoint text,
      s.env = issuerOnly ∧ s.document = tryingDocument endpoint text := by
  obtain ⟨url, located⟩ := exists_discoveryUrl
  let client : Client := fun _ => .ok (tryingJson endpoint text)
  have fetched : Oidc.fetchDocument client url = .ok (tryingDocument endpoint text) :=
    ofJson_trying endpoint text
  have success := setUp_given (Environment.getOptional_of_read getResolved_issuerOnly)
    configuredClassifier_issuerOnly client
  simp only [Oidc.fetch, located, fetched, concluded] at success
  have fixed := static_issuerOnly.fixed
  have issuer : issuerOnly.contains Vendor.issuer = some true := by
    rw [Environment.contains_of_fixed fixed, configured_issuerOnly, if_pos rfl]
    rfl
  have free : ∀ key ∈ providerKeys, issuerOnly.contains key = some false := by
    intro key provider
    have other : key ≠ Vendor.issuer := by
      rintro rfl
      revert provider
      decide
    rw [Environment.contains_of_fixed fixed, configured_issuerOnly, if_neg other]
    rfl
  have names : ∀ e : Endpoint, (e.named (tryingDocument endpoint text)).isSome := by
    intro e
    rw [named_trying]
    rfl
  have here : endpoint.named (tryingDocument endpoint text) = some text := by
    rw [named_trying, Endpoint.trying, if_pos rfl]
  exact ⟨⟨issuerOnly, static_issuerOnly, issuer, free, _, _, ofJson_trying endpoint text, names,
    here, client, _, _, success, fun _ _ => rfl⟩, rfl, rfl⟩

theorem bare_plainIssuer (property : String → Option (Option Value)) :
    Expansion.Bare property plainIssuer :=
  Expansion.bare_of_plain plainIssuer_plain (by decide)

theorem bare_issuerWithPath (property : String → Option (Option Value)) (style : Oidc.IssuerStyle) :
    Expansion.Bare property (issuerWithPath plainIssuer style) := by
  cases style with
  | standard => exact Expansion.bare_of_plain (by decide) (by decide)
  | alternate => exact bare_plainIssuer property

/-- A reference to the issuer is bare where the issuer is. -/
theorem bare_reference {property : String → Option (Option Value)}
    (held : property Vendor.issuer = some (some (.string plainIssuer))) :
    Expansion.Bare property (Template.reference Vendor.issuer) := by
  intro levels result gives
  cases levels with
  | zero =>
    rw [Expansion.text_zero (Template.hasOpening_reference_alone _)] at gives
    exact absurd gives.symm (Reading.pure_ne_throw _ _)
  | succ below =>
    rw [Expansion.text_reference_alone (by decide), Expansion.reference_of_string held,
      Expansion.text_of_plain plainIssuer_plain] at gives
    rw [← Reading.pure_inj.mp gives]
    decide

/-- The values of the derived keys next to the text that is tried are bare. -/
theorem derivedValue_trying {endpoint : Endpoint} {text : String} {style : Oidc.IssuerStyle}
    {baseKey : String} {i : Inputs} (given : i.given = configured issuerOnly.sources)
    (scopes : i.scopes = none) (issuer : i.issuer = some (.string plainIssuer)) {key : String}
    {v : Value}
    (value :
      derivedValue (.discovered (tryingDocument endpoint text) style baseKey) i key = some v) :
    v = .string text ∨ v = .string plainIssuer ∨
      v = .string (issuerWithPath plainIssuer style) ∨ v = sameAs Vendor.issuer := by
  have unset : ∀ key, key ≠ Vendor.issuer → i.given key = none := by
    intro key other
    rw [given, configured_issuerOnly, if_neg other]
  -- Only the issuer is configured, so nothing is shown that requires anything else.
  have needed : ∀ {keys value}, i.during keys value = some v →
      ∀ key ∈ keys, key = Vendor.issuer := by
    intro keys value shown key member
    by_contra other
    have has := (Inputs.eq_of_during shown).2 key member
    rw [Inputs.has, unset key other] at has
    cases has
  have ofNamed : ∀ {e}, some v = i.during [Vendor.issuer] (.string (endpoint.trying text e)) →
      v = .string text ∨ v = .string plainIssuer ∨
        v = .string (issuerWithPath plainIssuer style) ∨ v = sameAs Vendor.issuer := by
    intro e shown
    rw [(Inputs.eq_of_during shown.symm).1, Endpoint.trying]
    split
    · exact .inl rfl
    · exact .inr (.inl rfl)
  have ofSame : some v = i.during [Vendor.issuer] (sameAs Vendor.issuer) →
      v = sameAs Vendor.issuer := fun shown => (Inputs.eq_of_during shown.symm).1
  have row := mem_of_derivedValue value
  simp only [derivedValues, List.mem_cons, Prod.mk.injEq, List.not_mem_nil, or_false] at row
  rcases row with ⟨-, base⟩ | ⟨-, id⟩ | ⟨-, secret⟩ | ⟨-, scope⟩ | ⟨-, redirect⟩ | ⟨-, method⟩ |
    ⟨-, shown⟩ | ⟨-, shown⟩ | ⟨-, shown⟩ | ⟨-, shown⟩ | ⟨-, same⟩ | ⟨-, same⟩ | ⟨-, shown⟩ |
    ⟨-, opaqueId⟩ | ⟨-, opaqueSecret⟩ | ⟨-, opaqueUri⟩
  · rw [Inputs.issuerText, issuer] at base
    exact .inr (.inr (.inl (Option.some.inj base)))
  · rw [unset _ (by decide)] at id
    cases id
  · rw [unset _ (by decide)] at secret
    cases secret
  · rw [Inputs.ownScopes, scopes, Option.bind_none, Option.none_or] at scope
    exact absurd (needed scope.symm Vendor.clientId (by decide)) (by decide)
  · exact absurd (needed redirect.symm Vendor.redirectUri (by decide)) (by decide)
  · rw [Inputs.duringWithoutSecret] at method
    split at method
    · cases method
    · exact absurd (needed method.symm Vendor.clientId (by decide)) (by decide)
  · exact ofNamed shown
  · exact ofNamed shown
  · exact ofNamed shown
  · exact ofNamed shown
  · exact .inr (.inr (.inr (ofSame same)))
  · exact .inr (.inr (.inr (ofSame same)))
  · exact ofNamed shown
  -- The document names no introspection endpoint.
  · cases opaqueId
  · cases opaqueSecret
  · cases opaqueUri

/-- After the set-up of the text, whatever has a value next to the text itself is bare. -/
theorem values_trying (endpoint : Endpoint) (text : String) (style : Oidc.IssuerStyle)
    {after : Environment}
    (installed : after = install (derivedLayers
      (.discovered (tryingDocument endpoint text) style Vendor.issuerWithPath)) issuerOnly)
    (key : String) (v : Value) (held : after.property key = some (some v)) :
    v = .string text ∨ ∃ s, v = .string s ∧ Expansion.Bare after.property s := by
  subst installed
  have fixed := static_issuerOnly.fixed
  have assembled := assembled_install fixed
    (.discovered (tryingDocument endpoint text) style Vendor.issuerWithPath)
  obtain ⟨i, given, scopes, issuer, values⟩ := reads_install fixed
    (.discovered (tryingDocument endpoint text) style Vendor.issuerWithPath) 0
  have noScopes : i.scopes = none := by
    rw [Environment.reads_resolved_of_absent, Option.some.injEq] at scopes
    · exact scopes.symm
    · rw [reads_property_of_assembled assembled (by decide), configured_install,
        configured_issuerOnly, if_neg (by decide)]
  have plain : i.issuer = some (.string plainIssuer) := by
    rw [Environment.reads_resolved_of_plain (by decide) _ plainIssuer_plain,
      Option.some.injEq] at issuer
    · exact issuer.symm
    · rw [reads_property_of_assembled assembled (by decide), configured_install,
        configured_issuerOnly, if_pos rfl]
  have issuerHeld := values Vendor.issuer
  rw [configured_issuerOnly, if_pos rfl, Option.some_or] at issuerHeld
  have read := (values key).symm.trans held
  rw [Option.some.injEq, configured_issuerOnly] at read
  by_cases same : key = Vendor.issuer
  · rw [if_pos same, Option.some_or, Option.some.injEq] at read
    exact .inr ⟨plainIssuer, read.symm, bare_plainIssuer _⟩
  · rw [if_neg same, Option.none_or] at read
    rcases derivedValue_trying given noScopes plain read with own | rfl | rfl | rfl
    · exact .inl own
    · exact .inr ⟨_, rfl, bare_plainIssuer _⟩
    · exact .inr ⟨_, rfl, bare_issuerWithPath _ style⟩
    · exact .inr ⟨_, rfl, bare_reference issuerHeld⟩

/-- **Discovered endpoints are expanded.** After a set-up from a document, an endpoint resolves to
the expansion of the document's text among all that is configured and derived. It is the text as
the document has it in every such set-up if and only if the text has no opening of a reference. -/
theorem endpoint_verbatim_iff (endpoint : Endpoint) (text : String) :
    (∀ s : DiscoveredSetup endpoint text,
        s.after.getResolved (.scalar .text) endpoint.key =
          Expansion.text s.after.property nestingLimit text) ∧
      ((∀ s : DiscoveredSetup endpoint text,
          s.after.getResolved (.scalar .text) endpoint.key = pure text) ↔
        Template.hasOpening text = false) := by
  refine ⟨DiscoveredSetup.getResolved_eq, ?_, ?_⟩
  · intro verbatim
    -- One set-up in which the text is not kept is enough, and it can be made for every text.
    by_contra opens
    rw [Bool.not_eq_false] at opens
    obtain ⟨s, env, document⟩ := exists_trying endpoint text
    obtain ⟨style, installed⟩ := after_of_success s.succeeds s.issuer s.answers s.accepted
    rw [env, document] at installed
    have kept := verbatim s
    rw [s.getResolved_eq] at kept
    exact Expansion.text_ne_self opens (values_trying endpoint text style installed) _ kept
  · intro plain s
    rw [s.getResolved_eq, Expansion.text_of_plain plain]

end ConfigStack.OAuth2
