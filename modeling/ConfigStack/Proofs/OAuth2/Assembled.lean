import ConfigStack.OAuth2.Derivation
import ConfigStack.Proofs.Configured
import Mathlib.Tactic.Tauto

/-!
# Environments with derived layers

An assembled environment consists of sources that look at nothing else and of derived layers, of
whatever metadata and in whatever order. No derived layer defines a vendor property except the
base of the endpoints, so what the layers require is decided by what is configured; only the
standard client secret is looked for behind an alias. A read can therefore nest without end only
through resolving, and that stops at the limit of open expansions. So every read of an assembled
environment ends, after a number of nested questions that does not depend on what is configured
(`answered_within`).
-/
namespace ConfigStack.OAuth2

open Oidc (IssuerStyle Metadata)

/-- The keys of the endpoints and of what a resource server needs. -/
def endpointKeys : List String :=
  [Standard.resourceIssuerUri, Standard.resourceJwkSetUri, Standard.authorizationUri,
    Standard.tokenUri, Standard.userInfoUri, Standard.jwkSetUri, Standard.issuerUri]

def opaqueKeys : List String :=
  [Standard.opaqueClientId, Standard.opaqueClientSecret, Standard.opaqueIntrospectionUri]

/-- Every key that some derived layer may define. -/
def derivedKeys : List String :=
  Vendor.issuerWithPath :: Standard.all

/-- The derived layers that define a key, in the order of their priority. -/
def definers (m : Metadata) (key : String) : List Layer :=
  if key ∈ [Standard.clientId, Standard.clientSecret] then [clientAliases]
  else if key = Standard.scope then [configuredScopes, defaultScopes m]
  else if key = Vendor.issuerWithPath then [endpointBase m.style]
  else if key ∈ endpointKeys then [endpoints m]
  else if key ∈ opaqueKeys then (opaqueTokens m).toList
  else if key = Standard.redirectUri then [redirect]
  else if key = Standard.clientAuthMethod then [publicClient m]
  else []

theorem mem_definedKeys_conditional (name : String) (values : List (String × Value))
    (required forbidden : List String) (key : String) :
    key ∈ (conditional name values required forbidden).definedKeys ↔ key ∈ values.map (·.1) :=
  Table.mem_sortedKeys_ofList values key

theorem mem_definedKeys_clientAliases (key : String) :
    key ∈ clientAliases.definedKeys ↔ key ∈ [Standard.clientId, Standard.clientSecret] :=
  Table.mem_sortedKeys_ofList _ key

theorem mem_definedKeys_configuredScopes (key : String) :
    key ∈ configuredScopes.definedKeys ↔ key = Standard.scope :=
  List.mem_singleton

theorem mem_definedKeys_defaultScopes (m : Metadata) (key : String) :
    key ∈ (defaultScopes m).definedKeys ↔ key = Standard.scope :=
  (mem_definedKeys_conditional ..).trans List.mem_singleton

theorem mem_definedKeys_endpointBase (style : IssuerStyle) (key : String) :
    key ∈ (endpointBase style).definedKeys ↔ key = Vendor.issuerWithPath :=
  List.mem_singleton

theorem mem_definedKeys_endpoints (m : Metadata) (key : String) :
    key ∈ (endpoints m).definedKeys ↔ key ∈ endpointKeys :=
  mem_definedKeys_conditional ..

theorem mem_definedKeys_redirect (key : String) :
    key ∈ redirect.definedKeys ↔ key = Standard.redirectUri :=
  (mem_definedKeys_conditional ..).trans List.mem_singleton

theorem mem_definedKeys_publicClient (m : Metadata) (key : String) :
    key ∈ (publicClient m).definedKeys ↔ key = Standard.clientAuthMethod :=
  (mem_definedKeys_conditional ..).trans List.mem_singleton

theorem filter_opaqueTokens (m : Metadata) (key : String) :
    (opaqueTokens m).toList.filter (fun l => key ∈ l.definedKeys) =
      if key ∈ opaqueKeys then (opaqueTokens m).toList else [] := by
  unfold opaqueTokens
  cases m.introspectionUri with
  | none => rw [Option.map_none, Option.toList_none, List.filter_nil, ite_self]
  | some uri =>
    rw [Option.map_some, Option.toList_some, List.filter_cons, List.filter_nil]
    simp only [decide_eq_true_eq, mem_definedKeys_conditional]
    rfl

theorem mem_derivedKeys_iff (key : String) :
    key ∈ derivedKeys ↔
      key ∈ [Standard.clientId, Standard.clientSecret] ∨ key = Standard.scope ∨
        key = Vendor.issuerWithPath ∨ key ∈ endpointKeys ∨ key ∈ opaqueKeys ∨
        key = Standard.redirectUri ∨ key = Standard.clientAuthMethod := by
  simp only [derivedKeys, Standard.all, endpointKeys, opaqueKeys, List.mem_cons, List.not_mem_nil,
    or_false]
  tauto

theorem definers_eq_nil (m : Metadata) {key : String} (foreign : key ∉ derivedKeys) :
    definers m key = [] := by
  simp only [mem_derivedKeys_iff, not_or] at foreign
  simp only [definers, foreign, if_false]

/-- Each derived key has one layer that defines it, and the scopes have two. -/
theorem filter_derivedLayers (m : Metadata) (key : String) :
    (derivedLayers m).filter (fun l => key ∈ l.definedKeys) = definers m key := by
  rw [derivedLayers, List.filter_append, List.filter_append, filter_opaqueTokens]
  simp only [List.filter_cons, List.filter_nil, decide_eq_true_eq, mem_definedKeys_clientAliases,
    mem_definedKeys_configuredScopes, mem_definedKeys_defaultScopes, mem_definedKeys_endpointBase,
    mem_definedKeys_endpoints, mem_definedKeys_redirect, mem_definedKeys_publicClient]
  by_cases derived : key ∈ derivedKeys
  · revert key
    simp only [derivedKeys, Standard.all, List.mem_cons, List.not_mem_nil, or_false]
    -- Key by key: the names are fixed, so which layers define one is a computation.
    rintro key (rfl | rfl | rfl | rfl | rfl | rfl | rfl | rfl | rfl | rfl | rfl | rfl | rfl |
      rfl | rfl | rfl) <;> first | rfl | exact List.append_nil _
  · rw [definers_eq_nil m derived]
    simp only [mem_derivedKeys_iff, not_or] at derived
    simp only [derived, if_false, List.append_nil]

theorem mem_of_definers {m : Metadata} {l : Layer} {key : String} (defining : l ∈ definers m key) :
    l ∈ derivedLayers m := by
  rw [← filter_derivedLayers, List.mem_filter] at defining
  exact defining.1

theorem mem_definers {m : Metadata} {l : Layer} {key : String} (member : l ∈ derivedLayers m)
    (own : key ∈ l.definedKeys) : l ∈ definers m key := by
  rw [← filter_derivedLayers, List.mem_filter]
  exact ⟨member, by simpa using own⟩

theorem mem_derivedKeys {m : Metadata} {l : Layer} {key : String} (member : l ∈ derivedLayers m)
    (own : key ∈ l.definedKeys) : key ∈ derivedKeys := by
  by_contra foreign
  have defining := mem_definers member own
  rw [definers_eq_nil m foreign] at defining
  simp at defining

/-! ### What derived layers ask -/

/-- A question that a derived layer may ask: about a key that no derived layer defines, about the
standard client secret, or how a key resolves. -/
def Prerequisite : Query → Prop
  | .contains key => key ∉ derivedKeys ∨ key = Standard.clientSecret
  | .property key => key ∉ derivedKeys
  | .resolved _ => True

theorem clientAliases_get (key : String) :
    clientAliases.get key =
      if key = Standard.clientSecret then .property Vendor.clientSecret
      else if key = Standard.clientId then .property Vendor.clientId
      else .done none := by
  simp only [clientAliases, Layer.get, Table.get?_ofList, List.reverse_cons, List.reverse_nil,
    List.nil_append, List.cons_append, Table.lookup_cons, List.lookup_nil]
  by_cases secret : key = Standard.clientSecret
  · rw [if_pos secret, if_pos secret]
  · rw [if_neg secret, if_neg secret]
    by_cases id : key = Standard.clientId
    · rw [if_pos id, if_pos id]
    · rw [if_neg id, if_neg id]

theorem asksOnly_clientAliases (key : String) :
    (clientAliases.get key).AsksOnly Prerequisite := by
  have vendor : Vendor.clientSecret ∉ derivedKeys ∧ Vendor.clientId ∉ derivedKeys := by decide
  rw [clientAliases_get]
  split
  · exact ⟨vendor.1, fun _ => trivial⟩
  split
  · exact ⟨vendor.2, fun _ => trivial⟩
  · trivial

theorem asksOnly_configuredScopes (key : String) :
    (configuredScopes.get key).AsksOnly Prerequisite := by
  simp only [configuredScopes, Layer.get]
  split
  · refine ⟨trivial, fun scopes => ?_⟩
    cases scopes <;> trivial
  · trivial

theorem asksOnly_endpointBase (style : IssuerStyle) (key : String) :
    ((endpointBase style).get key).AsksOnly Prerequisite := by
  simp only [endpointBase, Layer.get]
  split
  · refine ⟨trivial, fun issuer => ?_⟩
    rcases issuer with _ | v
    · trivial
    · cases v <;> trivial
  · trivial

theorem asksOnly_conditional {name : String} {values : List (String × Value)}
    {required forbidden : List String} (needs : ∀ k ∈ required, k ∉ derivedKeys)
    (excludes : ∀ k ∈ forbidden, k = Standard.clientSecret) (key : String) :
    ((conditional name values required forbidden).get key).AsksOnly Prerequisite :=
  ConditionalLayer.asksOnly_get (fun k member => .inl (needs k member))
    (fun k member => .inr (excludes k member)) key

/-- What holds of the aliases, the two computed layers and all conditional layers with prerequisites
of the vendor holds of every derived layer. -/
theorem forall_derivedLayers {holds : Layer → Prop} {m : Metadata}
    (ofAliases : holds clientAliases) (ofScopes : holds configuredScopes)
    (ofBase : holds (endpointBase m.style))
    (ofConditional : ∀ name values required forbidden, (∀ k ∈ required, k ∉ derivedKeys) →
      (∀ k ∈ forbidden, k = Standard.clientSecret) →
        holds (conditional name values required forbidden)) :
    ∀ l ∈ derivedLayers m, holds l := by
  intro l member
  simp only [derivedLayers, List.mem_append, List.mem_cons, List.not_mem_nil, or_false, or_assoc,
    Option.mem_toList] at member
  rcases member with rfl | rfl | rfl | rfl | rfl | opaqueToken | rfl | rfl
  · exact ofAliases
  · exact ofScopes
  · exact ofConditional _ _ _ _ (by decide) (by simp)
  · exact ofBase
  · exact ofConditional _ _ _ _ (by decide) (by simp)
  · obtain ⟨uri, -, rfl⟩ := Option.map_eq_some_iff.mp opaqueToken
    exact ofConditional _ _ _ _ (by decide) (by simp)
  · exact ofConditional _ _ _ _ (by decide) (by simp)
  · exact ofConditional _ _ _ _ (by decide) (by simp)

theorem not_static_of_derived {m : Metadata} {l : Layer} (member : l ∈ derivedLayers m)
    (own : StaticLayer) : l ≠ .static own := by
  revert l
  apply forall_derivedLayers
  · nofun
  · nofun
  · nofun
  · nofun

/-- A derived layer has to ask about exactly the keys that it is among the definers of. -/
theorem asking_iff_definers {m : Metadata} {l : Layer} (member : l ∈ derivedLayers m)
    (key : String) : key ∈ (Source.layer l).askingOn ↔ l ∈ definers m key := by
  rcases Source.ownValue_or_asking l with ⟨own, rfl⟩ | asks
  · exact absurd rfl (not_static_of_derived member own)
  · rw [← (asks key).2, ← filter_derivedLayers, List.mem_filter, decide_eq_true_eq]
    exact (and_iff_right member).symm

/-- The derived layers ask about nothing but prerequisites. -/
theorem asksOnly_derivedLayers {m : Metadata} {l : Layer} (member : l ∈ derivedLayers m)
    (key : String) : (l.get key).AsksOnly Prerequisite := by
  revert l
  apply forall_derivedLayers
  · exact asksOnly_clientAliases key
  · exact asksOnly_configuredScopes key
  · exact asksOnly_endpointBase m.style key
  · intro name values required forbidden needs excludes
    exact asksOnly_conditional needs excludes key

/-! ### Every read ends -/

/-- An environment of sources that look at nothing else and of derived layers. -/
def Assembled (env : Environment) : Prop :=
  ∀ s ∈ env.sources, s.Fixed ∨ ∃ m, ∃ l ∈ derivedLayers m, s = .layer l

theorem install_eq (layers : List Layer) (env : Environment) :
    install layers env = { env with sources := env.sources ++ layers.map .layer } := by
  rw [install, ← Environment.foldl_addLast, List.foldl_map]

theorem sources_install (layers : List Layer) (env : Environment) :
    (install layers env).sources = env.sources ++ layers.map .layer := by
  rw [install_eq]

/-- The derived layers behind sources that look at nothing else make an assembled environment. -/
theorem assembled_install {env : Environment} (fixed : env.Fixed) (m : Metadata) :
    Assembled (install (derivedLayers m) env) := by
  intro s member
  rw [sources_install, List.mem_append, List.mem_map] at member
  rcases member with given | ⟨l, derived, rfl⟩
  · exact .inl (fixed s given)
  · exact .inr ⟨m, l, derived, rfl⟩

/-- How many questions a read of an assembled environment may nest, whatever is configured: two for
each expansion that can still be opened, one to resolve a key and one for its value, and at the
limit a key, a prerequisite of it, and the vendor's secret behind the standard one. -/
def readDepth (opened : Nat) : Nat :=
  2 * (nestingLimit - opened) + 3

section Assembled

variable {env : Environment} (assembled : Assembled env)

include assembled

theorem not_asking_of_assembled {key : String} (foreign : key ∉ derivedKeys) :
    ∀ s ∈ env.sources, key ∉ s.askingOn := by
  intro s member asking
  rcases assembled s member with fixed | ⟨m, l, derived, rfl⟩
  · exact Source.not_asking_of_fixed fixed key asking
  · exact foreign (mem_derivedKeys derived (Source.mem_definedKeys_of_asking asking))

/-- A key that no derived layer defines has the value that is configured. -/
theorem reads_property_of_assembled {key : String} (foreign : key ∉ derivedKeys) (opened : Nat) :
    env.reads opened (.property key) = some (configured env.sources key) :=
  Environment.reads_property_of_not_asking (not_asking_of_assembled assembled foreign) opened

/-- A search ends if all that is asked by the derived layers that define the key is answered. -/
theorem firstValue_answered {oracle : Oracle} {key : String} {allowed : Query → Prop}
    (answered : ∀ q, allowed q → ∃ a, oracle q = some a)
    (within : ∀ m, ∀ l ∈ definers m key, (l.get key).AsksOnly allowed) :
    ∃ found, firstValue oracle key env.sources = some found := by
  apply settled_self_iff.mp
  apply settled_compositional.firstValue
  intro s member
  have asks : (s.get key).AsksOnly allowed := by
    rcases assembled s member with fixed | ⟨m, l, derived, rfl⟩
    · rw [Source.get_of_not_asking (Source.not_asking_of_fixed fixed key)]
      trivial
    -- A derived layer that does not define the key asks nothing about it.
    · by_cases own : key ∈ l.definedKeys
      · exact within m l (mem_definers derived own)
      · rw [Source.get, Layer.get_of_not_defined own]
        trivial
  apply settled_compositional.inquiry _ asks
  exact fun q asked => settled_self_iff.mpr (answered q asked)

/-- The standard client secret is looked for behind the aliases, which ask for the vendor's. -/
theorem clientSecret_answered (steps opened : Nat) :
    ∃ found, answer env.sources (steps + 2) opened (.property Standard.clientSecret) =
      some found := by
  have vendor : Vendor.clientSecret ∉ derivedKeys := by decide
  have vendorAnswered : ∀ q, q = Query.property Vendor.clientSecret →
      ∃ a, answer env.sources (steps + 1) opened q = some a := by
    rintro q rfl
    exact ⟨_, firstValue_of_not_asking _ (not_asking_of_assembled assembled vendor)⟩
  apply firstValue_answered assembled vendorAnswered
  intro m l member
  have only : l = clientAliases := List.mem_singleton.mp member
  rw [only, clientAliases_get, if_pos rfl]
  exact ⟨rfl, fun _ => trivial⟩

/-- Where resolving is answered, every question is with one more nested in it. -/
theorem answered_of_resolved {steps opened : Nat}
    (resolved : ∀ key, ∃ found, answer env.sources (steps + 2) opened (.resolved key) = some found)
    (q : Query) : ∃ a, answer env.sources (steps + 3) opened q = some a := by
  -- First what derived layers ask, then what they are asked.
  have prerequisites : ∀ q, Prerequisite q →
      ∃ a, answer env.sources (steps + 2) opened q = some a := by
    intro q asked
    have foreignValue : ∀ key, key ∉ derivedKeys → answer env.sources (steps + 2) opened
        (.property key) = some (configured env.sources key) := fun key foreign =>
      firstValue_of_not_asking _ (not_asking_of_assembled assembled foreign)
    cases q with
    | contains key =>
      rw [coherent_answer env.sources (steps + 2) opened key]
      rcases asked with foreign | rfl
      · rw [foreignValue key foreign]
        exact ⟨_, rfl⟩
      · obtain ⟨found, same⟩ := clientSecret_answered assembled steps opened
        rw [same]
        exact ⟨_, rfl⟩
    | property key => exact ⟨_, foreignValue key asked⟩
    | resolved key => exact resolved key
  have property : ∀ key, ∃ found,
      answer env.sources (steps + 3) opened (.property key) = some found :=
    fun key => firstValue_answered assembled prerequisites fun m l member =>
      asksOnly_derivedLayers (mem_of_definers member) key
  cases q with
  | contains key =>
    obtain ⟨found, same⟩ := property key
    rw [coherent_answer env.sources (steps + 3) opened key, same]
    exact ⟨_, rfl⟩
  | property key => exact property key
  | resolved key =>
    obtain ⟨found, same⟩ := resolved key
    exact ⟨found, answer_extends env.sources (steps + 2) opened (.resolved key) found same⟩

theorem answered_within (opened : Nat) (q : Query) :
    ∃ a, answer env.sources (readDepth opened) opened q = some a := by
  -- Downwards from the limit, where nothing is resolved any more.
  induction left : nestingLimit - opened generalizing opened q with
  | zero =>
    rw [readDepth, left]
    apply answered_of_resolved assembled
    intro key
    rw [answer_succ]
    exact ⟨none, if_pos (by omega)⟩
  | succ left' ih =>
    have inside : nestingLimit - (opened + 1) = left' := by omega
    have deeper : ∀ q, ∃ a, answer env.sources (2 * left' + 3) (opened + 1) q = some a := by
      intro q
      have found := ih (opened + 1) q inside
      rwa [readDepth, inside] at found
    have resolved : ∀ key, ∃ found,
        answer env.sources (2 * left' + 2 + 2) opened (.resolved key) = some found := by
      intro key
      rw [answer_succ, nested, if_neg (by omega)]
      apply settled_self_iff.mp
      apply settled_compositional.resolveWith
      exact fun k => settled_self_iff.mpr (deeper (.property k))
    rw [readDepth, left]
    exact answered_of_resolved assembled resolved q

/-- **Every read of an assembled environment has an answer**, with any number of expansions open
around it. -/
theorem reads_answered (opened : Nat) (q : Query) : ∃ a, env.reads opened q = some a := by
  obtain ⟨a, found⟩ := answered_within assembled opened q
  exact ⟨a, (env.reads_eq_some_iff opened q a).mpr ⟨_, found⟩⟩

end Assembled

/-- **Every read ends.** With the derived layers of any metadata behind static layers and process
variables, whatever these hold, every key is contained or not, has a value or none, resolves or
does not, and is read as any target with a result or a reason. No question takes more than
`readDepth` questions nested in each other, which does not depend on what is configured. -/
theorem every_read_ends (env : Environment) (fixed : env.Fixed) (m : Metadata) (key : String) :
    (∃ present, (install (derivedLayers m) env).contains key = some present) ∧
      (∃ found, (install (derivedLayers m) env).property key = some found) ∧
      (∃ found, (install (derivedLayers m) env).resolved key = some found) ∧
      (∀ target, ∃ result,
        ((install (derivedLayers m) env).getResolved target key).run = some result) ∧
      ∀ opened q, ∃ a,
        answer (install (derivedLayers m) env).sources (readDepth opened) opened q = some a := by
  have assembled := assembled_install fixed m
  have answered := reads_answered assembled 0
  refine ⟨answered (.contains key), answered (.property key), answered (.resolved key), ?_, ?_⟩
  · intro target
    exact Environment.readResolved_ends (convert target) (fun k => answered (.property k)) key
  · exact answered_within assembled

/-- An issuer and scopes that refer to what is derived from them, and two keys that refer to each
other. -/
def selfReferring : Environment :=
  .ofSettings
    [(Vendor.issuer, sameAs Vendor.issuerWithPath), (Vendor.scopes, sameAs Standard.scope),
      (Vendor.clientId, sameAs Vendor.clientSecret), (Vendor.clientSecret, sameAs Vendor.clientId)]

theorem every_read_ends_of_selfReferring :
    selfReferring.Fixed ∧
      let installed := install (derivedLayers (.fallback Vendor.issuerWithPath)) selfReferring
      (∃ result, (installed.getResolved (.scalar .text) Standard.authorizationUri).run =
        some result) ∧
        ∃ found, answer installed.sources 67 0 (.resolved Vendor.issuer) = some found := by
  have fixed : selfReferring.Fixed := (Environment.static_ofSettings _).fixed
  obtain ⟨-, -, -, reads, within⟩ :=
    every_read_ends selfReferring fixed (.fallback Vendor.issuerWithPath) Standard.authorizationUri
  exact ⟨fixed, reads (.scalar .text), within 0 (.resolved Vendor.issuer)⟩

end ConfigStack.OAuth2
