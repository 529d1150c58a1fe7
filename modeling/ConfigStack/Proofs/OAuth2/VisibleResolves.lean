import ConfigStack.Proofs.OAuth2.DerivedValues
import ConfigStack.Proofs.Resolved
import ConfigStack.Proofs.StringSet

/-!
# Visible derived keys resolve

Among plain vendor properties a derived value has at most one reference: to the issuer, to the base
of its endpoints, to the path for redirects, to the client id or to the client secret. A layer
shows such a value only while it finds what it requires, and what it requires is what its values
refer to; but the layer for opaque tokens requires a client secret and refers to the client id too.
-/
namespace ConfigStack.OAuth2

open Oidc (Document Metadata)

/-- A text without references, or a path under the base of the issuer's endpoints. -/
def EndpointText (text : String) : Prop :=
  Template.hasOpening text = false ∨
    ∃ path, Template.hasOpening path = false ∧
      text = Oidc.endpointTemplate Vendor.issuerWithPath path

/-- Metadata that is the fallback, or comes from a document without references in its endpoints. -/
def PlainMetadata (m : Metadata) : Prop :=
  m = .fallback Vendor.issuerWithPath ∨
    ∃ document style, m = .discovered document style Vendor.issuerWithPath ∧
      ∀ named ∈ [document.authorizationEndpoint, document.tokenEndpoint, document.userinfoEndpoint,
        document.jwksUri, document.introspectionEndpoint],
        ∀ text, named = some text → Template.hasOpening text = false

/-- Every vendor property that is there is a string without references. -/
def PlainVendor (env : Environment) : Prop :=
  ∀ key ∈ Vendor.all, ∀ v, env.property key = some (some v) →
    ∃ text, v = .string text ∧ Template.hasOpening text = false

theorem endpointText_template {path : String} (plain : Template.hasOpening path = false) :
    EndpointText (Oidc.endpointTemplate Vendor.issuerWithPath path) :=
  .inr ⟨path, plain, rfl⟩

theorem endpointText_getD {named : Option String}
    (plain : ∀ text, named = some text → Template.hasOpening text = false) {path : String}
    (plainPath : Template.hasOpening path = false) :
    EndpointText (named.getD (Oidc.endpointTemplate Vendor.issuerWithPath path)) := by
  cases named with
  | none => exact endpointText_template plainPath
  | some text => exact .inl (plain text rfl)

/-- What metadata must be like for the values derived from it to refer to nothing but the base of
the endpoints. -/
structure Harmless (m : Metadata) : Prop where
  authorization : EndpointText m.authorizationUri
  token : EndpointText m.tokenUri
  userInfo : EndpointText m.userInfoUri
  jwkSet : EndpointText m.jwkSetUri
  introspection : ∀ uri, m.introspectionUri = some uri → EndpointText uri
  scopes : ∀ scope ∈ m.scopes, Template.hasOpening scope = false
  authMethod : Template.hasOpening m.authMethod = false

theorem plain_defaultScopes :
    ∀ scope ∈ Oidc.defaultScopes, Template.hasOpening scope = false := by
  decide

theorem plain_authMethodFor (accepted : Option (List String)) :
    Template.hasOpening (Oidc.authMethodFor accepted) = false := by
  cases accepted with
  | none => decide
  | some methods =>
    rw [Oidc.authMethodFor]
    split <;> decide

theorem harmless_of_plain {m : Metadata} (plain : PlainMetadata m) : Harmless m := by
  rcases plain with rfl | ⟨document, style, rfl, plain⟩
  · exact {
      authorization := endpointText_template (by decide)
      token := endpointText_template (by decide)
      userInfo := endpointText_template (by decide)
      jwkSet := endpointText_template (by decide)
      introspection := by
        rintro uri ⟨⟩
        exact endpointText_template (by decide)
      scopes := plain_defaultScopes
      authMethod := by decide }
  · exact {
      authorization := endpointText_getD (plain _ (by simp)) (by decide)
      token := endpointText_getD (plain _ (by simp)) (by decide)
      userInfo := endpointText_getD (plain _ (by simp)) (by decide)
      jwkSet := endpointText_getD (plain _ (by simp)) (by decide)
      introspection := fun uri named =>
        .inl (plain document.introspectionEndpoint (by simp) uri named)
      scopes := plain_defaultScopes
      authMethod := plain_authMethodFor document.authMethods }

/-! ### Values that resolve -/

def Resolves (property : String → Option (Option Value)) (v : Value) : Prop :=
  ∃ expanded, Expansion.value property v = pure expanded

section Resolves

variable {property : String → Option (Option Value)}

theorem resolves_string {text : String} :
    Resolves property (.string text) ↔
      ∃ expanded, Expansion.text property nestingLimit text = pure expanded := by
  constructor
  · rintro ⟨v, same⟩
    rw [Expansion.value] at same
    obtain ⟨expanded, first, -⟩ := Reading.bind_eq_pure.mp same
    exact ⟨expanded, first⟩
  · rintro ⟨expanded, same⟩
    refine ⟨.string expanded, ?_⟩
    rw [Expansion.value, same]
    rfl

theorem resolves_of_plain {text : String} (plain : Template.hasOpening text = false) :
    Resolves property (.string text) :=
  resolves_string.mpr ⟨text, Expansion.text_of_plain plain nestingLimit⟩

theorem resolves_reference {before key after text : String}
    (plainBefore : Template.hasOpening before = false)
    (plainAfter : Template.hasOpening after = false) (referable : Template.Referable key)
    (held : property key = some (some (.string text)))
    (plain : Template.hasOpening text = false) :
    Resolves property (.string (before ++ Template.reference key ++ after)) :=
  resolves_string.mpr
    ⟨_, Expansion.text_reference_of_plain plainBefore plainAfter referable held plain 31⟩

theorem resolves_sameAs {key text : String} (referable : Template.Referable key)
    (held : property key = some (some (.string text)))
    (plain : Template.hasOpening text = false) : Resolves property (sameAs key) := by
  refine resolves_string.mpr ⟨text, ?_⟩
  rw [nestingLimit, Expansion.text_reference_alone referable, Expansion.reference_of_string held,
    Expansion.text_of_plain plain]

theorem not_resolves_sameAs {key : String} (referable : Template.Referable key)
    (absent : property key = some none) : ¬Resolves property (sameAs key) := by
  rw [sameAs, resolves_string]
  rintro ⟨expanded, same⟩
  rw [nestingLimit, Expansion.text_reference_alone referable,
    Expansion.reference_of_absent absent] at same
  exact Reading.pure_ne_throw expanded _ same.symm

theorem resolves_ofStrings {items : List String}
    (plain : ∀ item ∈ items, Template.hasOpening item = false) :
    Resolves property (.ofStrings items) := by
  have each : Expansion.values property (items.map .string) = pure (items.map .string) := by
    refine Expansion.values_eq_pure_iff.mpr <| List.forall₂_same.mpr ?_
    -- Each item is a text of its own and stays as it is.
    rw [List.forall_mem_map]
    intro item member
    rw [Expansion.value, Expansion.text_of_plain (plain item member), pure_bind]
  refine ⟨.ofStrings items, ?_⟩
  rw [Value.ofStrings, Expansion.value, each]
  rfl

theorem resolves_endpointText {text base : String} (shape : EndpointText text)
    (held : property Vendor.issuerWithPath = some (some (.string base)))
    (plain : Template.hasOpening base = false) : Resolves property (.string text) := by
  rcases shape with own | ⟨path, plainPath, rfl⟩
  · exact resolves_of_plain own
  · have whole : Oidc.endpointTemplate Vendor.issuerWithPath path =
        "" ++ Template.reference Vendor.issuerWithPath ++ path := by
      rw [String.empty_append]
      rfl
    rw [whole]
    exact resolves_reference (by decide) plainPath (by decide) held plain

end Resolves

/-! ### The rows of the derived keys -/

/-- What derived values are made of is plain, and what they refer to reads as plain text. -/
structure PlainInputs (property : String → Option (Option Value)) (i : Inputs) : Prop where
  given : ∀ key ∈ [Vendor.clientId, Vendor.clientSecret], ∀ v, i.given key = some v →
    ∃ text, v = .string text ∧ Template.hasOpening text = false
  vendor : ∀ key ∈ [Vendor.issuer, Vendor.clientId, Vendor.clientSecret, Vendor.redirectUri],
    i.has key = true →
      ∃ text, property key = some (some (.string text)) ∧ Template.hasOpening text = false
  absent : i.has Vendor.clientId = false → property Vendor.clientId = some none
  base : i.has Vendor.issuer = true →
    ∃ text, property Vendor.issuerWithPath = some (some (.string text)) ∧
      Template.hasOpening text = false
  issuer : ∀ text, i.issuerText = some text → Template.hasOpening text = false
  scopes : ∀ v, i.ownScopes = some v →
    ∃ items, v = .ofStrings items ∧ ∀ item ∈ items, Template.hasOpening item = false

theorem plain_issuerWithPath {issuer : String} (plain : Template.hasOpening issuer = false)
    (style : Oidc.IssuerStyle) : Template.hasOpening (issuerWithPath issuer style) = false := by
  rw [issuerWithPath]
  split
  · exact plain
  · rw [Template.hasOpening, String.toList_append, Text.withoutFinalSlashes, String.toList_ofList]
    apply Text.occursIn_append
    · exact Text.occursIn_eq_false_of_infix (Text.dropEndWhile_isPrefix ..).isInfix plain
    · decide
    · decide

/-- The client id of opaque tokens resolves if and only if there is a client id. -/
theorem resolves_opaqueClientId {property : String → Option (Option Value)} {m : Metadata}
    {i : Inputs} (plain : PlainInputs property i) {v : Value}
    (value : derivedValue m i Standard.opaqueClientId = some v) :
    Resolves property v ↔ i.has Vendor.clientId = true := by
  change (m.introspectionUri.bind fun _ =>
    i.during [Vendor.issuer, Vendor.clientSecret] (sameAs Vendor.clientId)) = some v at value
  obtain ⟨uri, -, shown⟩ := Option.bind_eq_some_iff.mp value
  obtain ⟨rfl, -⟩ := Inputs.eq_of_during shown
  constructor
  · intro resolves
    by_contra missing
    rw [Bool.not_eq_true] at missing
    exact not_resolves_sameAs (by decide) (plain.absent missing) resolves
  · intro has
    obtain ⟨text, held, own⟩ := plain.vendor Vendor.clientId (by simp) has
    exact resolves_sameAs (by decide) held own

/-- Every other derived value resolves whenever it is there. -/
theorem resolves_derivedValue {property : String → Option (Option Value)} {m : Metadata}
    {i : Inputs} (plain : PlainInputs property i) (harmless : Harmless m) {key : String} {v : Value}
    (value : derivedValue m i key = some v) (other : key ≠ Standard.opaqueClientId) :
    Resolves property v := by
  have ofGiven : ∀ k ∈ [Vendor.clientId, Vendor.clientSecret], some v = i.given k →
      Resolves property v := by
    intro k member same
    obtain ⟨text, rfl, own⟩ := plain.given k member v same.symm
    exact resolves_of_plain own
  have ofEndpoint : ∀ {keys text}, some v = i.during keys (.string text) → Vendor.issuer ∈ keys →
      EndpointText text → Resolves property v := by
    intro keys text shown needed shape
    obtain ⟨rfl, has⟩ := Inputs.eq_of_during shown.symm
    obtain ⟨base, held, own⟩ := plain.base (has _ needed)
    exact resolves_endpointText shape held own
  -- What a value refers to is among what its layer requires.
  have ofSame : ∀ {keys k}, some v = i.during keys (sameAs k) → k ∈ keys →
      k ∈ [Vendor.issuer, Vendor.clientId, Vendor.clientSecret, Vendor.redirectUri] →
      Template.Referable k → Resolves property v := by
    intro keys k shown needed vendor referable
    obtain ⟨rfl, has⟩ := Inputs.eq_of_during shown.symm
    obtain ⟨text, held, own⟩ := plain.vendor k vendor (has _ needed)
    exact resolves_sameAs referable held own
  have row := mem_of_derivedValue value
  simp only [derivedValues, List.mem_cons, Prod.mk.injEq, List.not_mem_nil, or_false] at row
  rcases row with ⟨-, base⟩ | ⟨-, id⟩ | ⟨-, secret⟩ | ⟨-, scope⟩ | ⟨-, redirect⟩ | ⟨-, method⟩ |
    ⟨-, authorization⟩ | ⟨-, token⟩ | ⟨-, userInfo⟩ | ⟨-, jwkSet⟩ | ⟨-, issuer⟩ | ⟨-, issuer⟩ |
    ⟨-, jwkSet⟩ | ⟨own, -⟩ | ⟨-, opaqueSecret⟩ | ⟨-, opaqueUri⟩
  · obtain ⟨text, own, rfl⟩ := Option.map_eq_some_iff.mp base.symm
    exact resolves_of_plain (plain_issuerWithPath (plain.issuer text own) m.style)
  · exact ofGiven _ (by simp) id
  · exact ofGiven _ (by simp) secret
  · rcases Option.or_eq_some_iff.mp scope.symm with own | ⟨-, default⟩
    · obtain ⟨items, rfl, each⟩ := plain.scopes v own
      exact resolves_ofStrings each
    · rw [(Inputs.eq_of_during default).1]
      exact resolves_ofStrings harmless.scopes
  · obtain ⟨rfl, has⟩ := Inputs.eq_of_during redirect.symm
    obtain ⟨text, held, own⟩ := plain.vendor Vendor.redirectUri (by simp) (has _ (by simp))
    rw [← String.append_empty (s := "\x7bbaseUrl\x7d" ++ Template.reference Vendor.redirectUri)]
    exact resolves_reference (by decide) (by decide) (by decide) held own
  · rw [Inputs.duringWithoutSecret] at method
    split at method
    · cases method
    · rw [(Inputs.eq_of_during method.symm).1]
      exact resolves_of_plain harmless.authMethod
  · exact ofEndpoint authorization (by simp) harmless.authorization
  · exact ofEndpoint token (by simp) harmless.token
  · exact ofEndpoint userInfo (by simp) harmless.userInfo
  · exact ofEndpoint jwkSet (by simp) harmless.jwkSet
  · exact ofSame issuer (by simp) (by simp) (by decide)
  · exact ofSame issuer (by simp) (by simp) (by decide)
  · exact ofEndpoint jwkSet (by simp) harmless.jwkSet
  -- The client id of opaque tokens is the one value that refers to what its layer does not require.
  · exact absurd own other
  · obtain ⟨uri, -, shown⟩ := Option.bind_eq_some_iff.mp opaqueSecret.symm
    exact ofSame shown.symm (by simp) (by simp) (by decide)
  · obtain ⟨uri, named, shown⟩ := Option.bind_eq_some_iff.mp opaqueUri.symm
    exact ofEndpoint shown.symm (by simp) (harmless.introspection uri named)

/-! ### Plain vendor properties -/

section Install

variable {env : Environment} (fixed : env.Fixed) (plain : PlainVendor env) (m : Metadata)

include fixed plain

theorem plain_configured {key : String} (vendor : key ∈ Vendor.all) {v : Value}
    (set : configured env.sources key = some v) :
    ∃ text, v = .string text ∧ Template.hasOpening text = false :=
  plain key vendor v (by rw [Environment.property_of_fixed fixed, set])

/-- A vendor property that no layer defines resolves to what is configured for it. -/
theorem reads_resolved_install {key : String} (vendor : key ∈ Vendor.all)
    (foreign : key ∉ derivedKeys) :
    (install (derivedLayers m) env).reads 0 (.resolved key) =
      some (configured env.sources key) := by
  have held := reads_property_of_assembled (assembled_install fixed m) foreign 1
  rw [configured_install] at held
  cases set : configured env.sources key with
  | none =>
    rw [set] at held
    exact Environment.reads_resolved_of_absent held
  | some v =>
    obtain ⟨text, rfl, own⟩ := plain_configured fixed plain vendor set
    rw [set] at held
    exact Environment.reads_resolved_of_plain (by decide) held own

theorem plainInputs_install :
    ∃ i : Inputs, i.given = configured env.sources ∧
      PlainInputs (install (derivedLayers m) env).property i ∧
      ∀ key, (install (derivedLayers m) env).property key =
        some ((configured env.sources key).or (derivedValue m i key)) := by
  obtain ⟨i, given, scopes, issuer, values⟩ := reads_install fixed m 0
  rw [reads_resolved_install fixed plain m (by decide) (by decide), Option.some.injEq]
    at scopes issuer
  have text : ∀ key ∈ Vendor.all, ∀ v, i.given key = some v →
      ∃ text, v = .string text ∧ Template.hasOpening text = false := by
    intro key vendor v set
    rw [given] at set
    exact plain_configured fixed plain vendor set
  have property : ∀ key, key ∉ derivedKeys →
      (install (derivedLayers m) env).property key = some (i.given key) := by
    intro key foreign
    have read := values key
    rw [derivedValue_eq_none m i foreign, Option.or_none, ← given] at read
    exact read
  have issuerText : ∀ text, i.issuerText = some text → Template.hasOpening text = false := by
    intro s own
    rw [Inputs.issuerText, ← issuer] at own
    obtain ⟨v, set, isText⟩ := Option.bind_eq_some_iff.mp own
    obtain ⟨found, rfl, plainText⟩ := plain_configured fixed plain (by decide) set
    obtain rfl : found = s := Option.some.inj isText
    exact plainText
  refine ⟨i, given, ?_, values⟩
  constructor
  case given =>
    intro key member
    exact text key (by revert key; decide)
  case vendor =>
    have known : ∀ key ∈ [Vendor.issuer, Vendor.clientId, Vendor.clientSecret, Vendor.redirectUri],
        key ∈ Vendor.all ∧ key ∉ derivedKeys := by decide
    intro key member has
    obtain ⟨v, set⟩ := Option.isSome_iff_exists.mp has
    obtain ⟨found, rfl, plainText⟩ := text key (known key member).1 v set
    exact ⟨found, by rw [property key (known key member).2, set], plainText⟩
  case absent =>
    intro missing
    rw [property _ (by decide)]
    exact congrArg some (by simpa [Inputs.has] using missing)
  case base =>
    intro has
    have read := values Vendor.issuerWithPath
    -- The base of the endpoints may be configured; otherwise it is derived from the issuer.
    cases set : configured env.sources Vendor.issuerWithPath with
    | some v =>
      obtain ⟨found, rfl, plainText⟩ := plain_configured fixed plain (by decide) set
      rw [set, Option.some_or] at read
      exact ⟨found, read, plainText⟩
    | none =>
      obtain ⟨v, setIssuer⟩ := Option.isSome_iff_exists.mp has
      obtain ⟨found, rfl, plainText⟩ := text Vendor.issuer (by decide) v setIssuer
      have own : i.issuer = some (.string found) := by rw [← issuer, ← given, setIssuer]
      rw [set, Option.none_or, derivedValue_issuerWithPath m own] at read
      exact ⟨_, read, plain_issuerWithPath plainText m.style⟩
  case issuer => exact issuerText
  case scopes =>
    intro v own
    obtain ⟨found, set, listed⟩ := Option.bind_eq_some_iff.mp own
    rw [← scopes] at set
    obtain ⟨s, rfl, plainText⟩ := plain_configured fixed plain (by decide) set
    -- The items are cut out of a plain string.
    split at listed
    · cases listed
    · refine ⟨_, (Option.some.inj listed).symm, fun item member => ?_⟩
      exact Text.occursIn_eq_false_of_infix (StringSet.infix_of_mem_stringSet member) plainText

end Install

/-- **Visible derived keys resolve, but for one.** Among plain vendor properties, with the layers of
plain metadata installed, a key that is derived and visible resolves, unless it is the client id of
opaque tokens: that is visible without a client id, and resolves if and only if there is one. -/
theorem visible_resolves_iff (env : Environment) (fixed : env.Fixed) (plain : PlainVendor env)
    (m : Metadata) (plainMetadata : PlainMetadata m) (key : String)
    (free : env.contains key = some false)
    (visible : (install (derivedLayers m) env).contains key = some true) :
    (∃ v, (install (derivedLayers m) env).getResolved .value key = pure v) ↔
      (key = Standard.opaqueClientId → env.contains Vendor.clientId = some true) := by
  obtain ⟨i, given, inputs, values⟩ := plainInputs_install fixed plain m
  obtain ⟨v, held⟩ := Environment.property_of_contains visible
  have value : derivedValue m i key = some v := by
    have unset := Environment.property_of_not_contains free
    rw [Environment.property_of_fixed fixed, Option.some.injEq] at unset
    rw [values, unset, Option.none_or, Option.some.injEq] at held
    exact held
  have clientId : env.contains Vendor.clientId = some true ↔ i.has Vendor.clientId = true := by
    rw [Environment.contains_of_fixed fixed, Option.some.injEq, Inputs.has, given]
  rw [Environment.getResolved_value_of_held held, clientId]
  by_cases own : key = Standard.opaqueClientId
  · rw [own] at value
    exact (resolves_opaqueClientId inputs value).trans (by simp [own])
  · have resolves := resolves_derivedValue inputs (harmless_of_plain plainMetadata) value own
    exact iff_of_true resolves fun same => absurd same own

/-- An issuer and a client secret, without a client id. -/
def issuerAndSecret : Environment :=
  .ofSettings [(Vendor.issuer, .string "https://a.b"), (Vendor.clientSecret, .string "c")]

theorem configured_issuerAndSecret (key : String) :
    configured issuerAndSecret.sources key =
      if key = Vendor.clientSecret then some (.string "c")
      else if key = Vendor.issuer then some (.string "https://a.b") else none := by
  rw [issuerAndSecret, configured_ofSettings, List.reverse_cons, List.reverse_singleton,
    List.singleton_append, Table.lookup_cons, Table.lookup_cons, List.lookup_nil]

/-- The client id of opaque tokens is visible there and does not resolve. -/
theorem visible_resolves_iff_without_clientId :
    issuerAndSecret.Fixed ∧ PlainVendor issuerAndSecret ∧
      PlainMetadata (.fallback Vendor.issuerWithPath) ∧
      issuerAndSecret.contains Standard.opaqueClientId = some false ∧
      (install (derivedLayers (.fallback Vendor.issuerWithPath)) issuerAndSecret).contains
        Standard.opaqueClientId = some true ∧
      ¬∃ v, (install (derivedLayers (.fallback Vendor.issuerWithPath)) issuerAndSecret).getResolved
        .value Standard.opaqueClientId = pure v := by
  have fixed : issuerAndSecret.Fixed := (Environment.static_ofSettings _).fixed
  have plain : PlainVendor issuerAndSecret := by
    intro key vendor v held
    rw [Environment.property_of_fixed fixed, configured_issuerAndSecret, Option.some.injEq] at held
    split at held
    · exact ⟨"c", (Option.some.inj held).symm, by decide⟩
    split at held
    · exact ⟨"https://a.b", (Option.some.inj held).symm, by decide⟩
    · cases held
  have free : issuerAndSecret.contains Standard.opaqueClientId = some false := by
    rw [Environment.contains_of_fixed fixed, configured_issuerAndSecret, if_neg (by decide),
      if_neg (by decide)]
    rfl
  have without : issuerAndSecret.contains Vendor.clientId = some false := by
    rw [Environment.contains_of_fixed fixed, configured_issuerAndSecret, if_neg (by decide),
      if_neg (by decide)]
    rfl
  have visible :
      (install (derivedLayers (.fallback Vendor.issuerWithPath)) issuerAndSecret).contains
        Standard.opaqueClientId = some true := by
    obtain ⟨i, given, -, -, values⟩ := reads_install fixed (.fallback Vendor.issuerWithPath) 0
    have derived : derivedValue (.fallback Vendor.issuerWithPath) i Standard.opaqueClientId =
        some (sameAs Vendor.clientId) := by
      change i.during [Vendor.issuer, Vendor.clientSecret] _ = _
      simp only [Inputs.during, Inputs.has, given, configured_issuerAndSecret, List.all_cons,
        List.all_nil]
      rfl
    have read := values Standard.opaqueClientId
    have coherent := Environment.reads_coherent
      (install (derivedLayers (.fallback Vendor.issuerWithPath)) issuerAndSecret) 0
      Standard.opaqueClientId
    rw [read, derived, Option.map_some, Option.isSome_or, Option.isSome_some, Bool.or_true]
      at coherent
    exact coherent
  have condition := visible_resolves_iff issuerAndSecret fixed plain
    (.fallback Vendor.issuerWithPath) (.inl rfl) Standard.opaqueClientId free visible
  refine ⟨fixed, plain, .inl rfl, free, visible, ?_⟩
  rw [condition, without]
  simp

end ConfigStack.OAuth2
