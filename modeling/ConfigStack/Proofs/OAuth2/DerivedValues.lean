import ConfigStack.Proofs.OAuth2.Assembled

/-!
# The values of derived keys

What the derived layers ask comes to five things: which keys are configured, with which values,
whether there is a standard client secret, and how the vendor's scopes and issuer resolve. Given
these, `derivedValues` is one row for each derived key with the value it has, if it has one. The
layers are searched for a key that is not configured itself, and what they give is what its row
says (`derived_values`).
-/
namespace ConfigStack.OAuth2

open Oidc (IssuerStyle Metadata)

/-- What derived values depend on: the values that are configured, and how the vendor's scopes and
issuer resolve. -/
structure Inputs where
  given : String → Option Value
  scopes : Option Value
  issuer : Option Value

namespace Inputs

variable (i : Inputs)

def has (key : String) : Bool :=
  (i.given key).isSome

/-- Whether the client has a secret under its standard name: one of its own, or the vendor's. -/
def hasSecret : Bool :=
  i.has Standard.clientSecret || i.has Vendor.clientSecret

/-- A value that is there while all the keys are configured. -/
def during (keys : List String) (v : Value) : Option Value :=
  if keys.all i.has then some v else none

/-- A value that is there while all the keys are configured and the client has no secret. -/
def duringWithoutSecret (keys : List String) (v : Value) : Option Value :=
  if i.hasSecret then none else i.during keys v

/-- The scopes the operator configured, if they resolve and there are any. -/
def ownScopes : Option Value :=
  i.scopes.bind fun v => if v.stringSet.isEmpty then none else some (.ofStrings v.stringSet)

def issuerText : Option String :=
  i.issuer.bind Value.text?

theorem ownScopes_eq_some_iff (v : Value) :
    i.ownScopes = some v ↔
      ∃ w, i.scopes = some w ∧ w.stringSet ≠ [] ∧ .ofStrings w.stringSet = v := by
  rw [ownScopes, Option.bind_eq_some_iff]
  refine exists_congr fun w => and_congr_right fun _ => ?_
  rw [Option.ite_none_left_eq_some, Bool.not_eq_true, List.isEmpty_eq_false_iff,
    Option.some.injEq]

theorem isSome_ownScopes_iff :
    i.ownScopes.isSome = true ↔ ∃ w, i.scopes = some w ∧ w.stringSet ≠ [] := by
  rw [Option.isSome_iff_exists]
  simp only [ownScopes_eq_some_iff]
  exact ⟨fun ⟨_, w, same, listed, _⟩ => ⟨w, same, listed⟩,
    fun ⟨w, same, listed⟩ => ⟨_, w, same, listed, rfl⟩⟩

theorem issuerText_eq_some_iff (s : String) :
    i.issuerText = some s ↔ i.issuer = some (.string s) := by
  rw [issuerText, Option.bind_eq_some_iff]
  simp only [Value.text?_eq_some_iff, exists_eq_right]

end Inputs

/-- A row for each derived key: its value where it is not configured itself. -/
def derivedValues (m : Metadata) (i : Inputs) : List (String × Option Value) :=
  [(Vendor.issuerWithPath, i.issuerText.map fun s => .string (issuerWithPath s m.style)),
    (Standard.clientId, i.given Vendor.clientId),
    (Standard.clientSecret, i.given Vendor.clientSecret),
    (Standard.scope,
      i.ownScopes.or (i.during [Vendor.issuer, Vendor.clientId] (.ofStrings m.scopes))),
    (Standard.redirectUri,
      i.during [Vendor.redirectUri]
        (.string ("\x7bbaseUrl\x7d" ++ Template.reference Vendor.redirectUri))),
    (Standard.clientAuthMethod,
      i.duringWithoutSecret [Vendor.issuer, Vendor.clientId] (.string m.authMethod)),
    (Standard.authorizationUri, i.during [Vendor.issuer] (.string m.authorizationUri)),
    (Standard.tokenUri, i.during [Vendor.issuer] (.string m.tokenUri)),
    (Standard.userInfoUri, i.during [Vendor.issuer] (.string m.userInfoUri)),
    (Standard.jwkSetUri, i.during [Vendor.issuer] (.string m.jwkSetUri)),
    (Standard.issuerUri, i.during [Vendor.issuer] (sameAs Vendor.issuer)),
    (Standard.resourceIssuerUri, i.during [Vendor.issuer] (sameAs Vendor.issuer)),
    (Standard.resourceJwkSetUri, i.during [Vendor.issuer] (.string m.jwkSetUri)),
    (Standard.opaqueClientId, m.introspectionUri.bind fun _ =>
      i.during [Vendor.issuer, Vendor.clientSecret] (sameAs Vendor.clientId)),
    (Standard.opaqueClientSecret, m.introspectionUri.bind fun _ =>
      i.during [Vendor.issuer, Vendor.clientSecret] (sameAs Vendor.clientSecret)),
    (Standard.opaqueIntrospectionUri, m.introspectionUri.bind fun uri =>
      i.during [Vendor.issuer, Vendor.clientSecret] (.string uri))]

/-- The rows that refer to a vendor's property do so in these words. -/
theorem texts_of_references :
    sameAs Vendor.issuer = .string "$\x7bokta.oauth2.issuer\x7d" ∧
      sameAs Vendor.clientId = .string "$\x7bokta.oauth2.client-id\x7d" ∧
      sameAs Vendor.clientSecret = .string "$\x7bokta.oauth2.client-secret\x7d" ∧
      "\x7bbaseUrl\x7d" ++ Template.reference Vendor.redirectUri =
        "\x7bbaseUrl\x7d$\x7bokta.oauth2.redirect-uri\x7d" :=
  ⟨rfl, rfl, rfl, rfl⟩

/-- The value of a key that is not configured itself: none but for the derived keys. -/
def derivedValue (m : Metadata) (i : Inputs) (key : String) : Option Value :=
  ((derivedValues m i).lookup key).join

theorem keys_derivedValues (m : Metadata) (i : Inputs) :
    (derivedValues m i).map (·.1) = derivedKeys := rfl

theorem derivedValue_eq_none (m : Metadata) (i : Inputs) {key : String}
    (foreign : key ∉ derivedKeys) : derivedValue m i key = none := by
  have unlisted : (derivedValues m i).lookup key = none := by
    rw [List.lookup_eq_none_iff]
    intro row member
    have other : key ≠ row.1 := by
      rintro rfl
      exact foreign (keys_derivedValues m i ▸ List.mem_map_of_mem member)
    simpa using other
  rw [derivedValue, unlisted]
  rfl

theorem derivedValue_issuerWithPath (m : Metadata) {i : Inputs} {s : String}
    (issuer : i.issuer = some (.string s)) :
    derivedValue m i Vendor.issuerWithPath = some (.string (issuerWithPath s m.style)) := by
  change i.issuerText.map _ = _
  rw [(i.issuerText_eq_some_iff s).mpr issuer]
  rfl

theorem clientAliases_agree {oracle : Oracle} {i : Inputs}
    (property : ∀ key, key ∉ derivedKeys → oracle (.property key) = some (i.given key))
    (m : Metadata) {key : String} (own : key ∈ [Standard.clientId, Standard.clientSecret]) :
    firstValue oracle key ([clientAliases].map .layer) = some (derivedValue m i key) := by
  have vendor : Vendor.clientSecret ∉ derivedKeys ∧ Vendor.clientId ∉ derivedKeys := by decide
  rw [List.map_singleton, firstValue_singleton, Source.get, clientAliases_get]
  simp only [List.mem_cons, List.not_mem_nil, or_false] at own
  rcases own with rfl | rfl
  · rw [if_neg (by decide), if_pos rfl, Inquiry.run_property, property _ vendor.2]
    rfl
  · rw [if_pos rfl, Inquiry.run_property, property _ vendor.1]
    rfl

/-- A derived value stands in a row of its key. -/
theorem mem_of_derivedValue {m : Metadata} {i : Inputs} {key : String} {v : Value}
    (value : derivedValue m i key = some v) : (key, some v) ∈ derivedValues m i := by
  have listed : (derivedValues m i).lookup key = some (some v) := by
    rw [derivedValue] at value
    cases found : (derivedValues m i).lookup key with
    | none =>
      rw [found] at value
      cases value
    | some row =>
      rw [found] at value
      exact congrArg some value
  obtain ⟨before, after, same, -⟩ := List.lookup_eq_some_iff.mp listed
  rw [same]
  simp

theorem Inputs.eq_of_during {i : Inputs} {keys : List String} {v found : Value}
    (shown : i.during keys v = some found) :
    found = v ∧ ∀ key ∈ keys, i.has key = true := by
  rw [during] at shown
  split at shown
  next all => exact ⟨(Option.some.inj shown).symm, List.all_eq_true.mp all⟩
  next => cases shown

/-- What requires keys that the environment contains is there. -/
theorem Inputs.during_of_contains {env : Environment} (fixed : env.Fixed) {i : Inputs}
    (given : i.given = configured env.sources) {keys : List String}
    (present : ∀ key ∈ keys, env.contains key = some true) (v : Value) :
    i.during keys v = some v := by
  rw [during, if_pos]
  rw [List.all_eq_true]
  intro key required
  have set := present key required
  rw [Environment.contains_of_fixed fixed, Option.some.injEq] at set
  rw [has, given, set]

/-- The oracle's answers to what derived layers ask are those of the inputs. -/
structure Answers (oracle : Oracle) (i : Inputs) : Prop where
  property : ∀ key, key ∉ derivedKeys → oracle (.property key) = some (i.given key)
  contains : ∀ key, key ∉ derivedKeys → oracle (.contains key) = some (i.has key)
  secret : oracle (.contains Standard.clientSecret) = some i.hasSecret
  scopes : oracle (.resolved Vendor.scopes) = some i.scopes
  issuer : oracle (.resolved Vendor.issuer) = some i.issuer

section Answers

variable {oracle : Oracle} {i : Inputs} (answers : Answers oracle i)

include answers

theorem run_conditional {name : String} {values : List (String × Value)}
    {required forbidden : List String} (needs : ∀ k ∈ required, k ∉ derivedKeys)
    (excludes : ∀ k ∈ forbidden, k = Standard.clientSecret) (key : String) :
    ((conditional name values required forbidden).get key).run oracle =
      some (if required.all i.has && !forbidden.any (fun _ => i.hasSecret)
        then values.reverse.lookup key else none) := by
  rw [← Table.get?_ofList]
  refine ConditionalLayer.run_get_of_answered key ?_ ?_
  · intro k member
    exact answers.contains k (needs k member)
  · intro k member
    rw [excludes k member]
    exact answers.secret

/-- A conditional layer that forbids nothing shows its values during what it requires. -/
theorem run_during {name : String} {values : List (String × Value)} {required : List String}
    (needs : ∀ k ∈ required, k ∉ derivedKeys) (key : String) :
    ((conditional name values required).get key).run oracle =
      some ((values.reverse.lookup key).bind (i.during required)) := by
  have nothing : ∀ k ∈ ([] : List String), k = Standard.clientSecret := by simp
  rw [run_conditional answers needs nothing]
  simp only [List.any_nil, Bool.not_false, Bool.and_true]
  cases values.reverse.lookup key with
  | none => rw [ite_self, Option.bind_none]
  | some v => rfl

theorem run_configuredScopes :
    (configuredScopes.get Standard.scope).run oracle = some i.ownScopes := by
  simp only [configuredScopes, Layer.get, if_pos, Inquiry.run_monadBind, Inquiry.run_resolved,
    answers.scopes, Option.bind_some, Inputs.ownScopes]
  cases i.scopes with
  | none => rfl
  | some v => rfl

theorem scopes_agree (m : Metadata) :
    firstValue oracle Standard.scope ([configuredScopes, defaultScopes m].map .layer) =
      some (derivedValue m i Standard.scope) := by
  rw [List.map_cons, List.map_singleton, firstValue_cons, Source.get, run_configuredScopes answers,
    firstValue_singleton, Source.get, defaultScopes, run_during answers (by decide)]
  change _ = some (i.ownScopes.or _)
  cases i.ownScopes with
  | none => rfl
  | some v => rfl

theorem endpointBase_agrees (m : Metadata) :
    firstValue oracle Vendor.issuerWithPath ([endpointBase m.style].map .layer) =
      some (derivedValue m i Vendor.issuerWithPath) := by
  rw [List.map_singleton, firstValue_singleton, Source.get]
  simp only [endpointBase, Layer.get, if_pos, Inquiry.run_monadBind, Inquiry.run_resolved,
    answers.issuer, Option.bind_some]
  change _ = some (i.issuerText.map _)
  rw [Inputs.issuerText]
  rcases i.issuer with _ | v
  · rfl
  · cases v <;> rfl

theorem endpoints_agree (m : Metadata) {key : String} (own : key ∈ endpointKeys) :
    firstValue oracle key ([endpoints m].map .layer) = some (derivedValue m i key) := by
  rw [List.map_singleton, firstValue_singleton, Source.get, endpoints,
    run_during answers (by decide)]
  simp only [endpointKeys, List.mem_cons, List.not_mem_nil, or_false] at own
  rcases own with rfl | rfl | rfl | rfl | rfl | rfl | rfl <;> rfl

theorem opaqueTokens_agree (m : Metadata) {key : String} (own : key ∈ opaqueKeys) :
    firstValue oracle key ((opaqueTokens m).toList.map .layer) = some (derivedValue m i key) := by
  unfold opaqueTokens
  simp only [opaqueKeys, List.mem_cons, List.not_mem_nil, or_false] at own
  rcases own with rfl | rfl | rfl
  -- The layer is there, and the rows have values, for an issuer with an introspection endpoint.
  all_goals
    change _ = some (m.introspectionUri.bind _)
    cases m.introspectionUri with
    | none => rfl
    | some uri =>
      rw [Option.map_some, Option.toList_some, List.map_singleton, firstValue_singleton,
        Source.get, run_during answers (by decide)]
      rfl

theorem redirect_agrees (m : Metadata) :
    firstValue oracle Standard.redirectUri ([redirect].map .layer) =
      some (derivedValue m i Standard.redirectUri) := by
  rw [List.map_singleton, firstValue_singleton, Source.get, redirect,
    run_during answers (by decide)]
  rfl

theorem publicClient_agrees (m : Metadata) :
    firstValue oracle Standard.clientAuthMethod ([publicClient m].map .layer) =
      some (derivedValue m i Standard.clientAuthMethod) := by
  rw [List.map_singleton, firstValue_singleton, Source.get, publicClient,
    run_conditional answers (by decide) (by simp)]
  change _ = some (i.duringWithoutSecret _ _)
  rw [Inputs.duringWithoutSecret, List.any_cons, List.any_nil, Bool.or_false]
  cases i.hasSecret with
  | true => rw [Bool.not_true, Bool.and_false]; rfl
  | false => rw [Bool.not_false, Bool.and_true]; rfl

theorem firstValue_derivedLayers (m : Metadata) (key : String) :
    firstValue oracle key ((derivedLayers m).map .layer) = some (derivedValue m i key) := by
  rw [firstValue_layers, filter_derivedLayers]
  -- Along the cascade of `definers`: whichever layers define the key agree with its row.
  by_cases derived : key ∈ derivedKeys
  case neg =>
    rw [definers_eq_nil m derived, derivedValue_eq_none m i derived]
    rfl
  rw [mem_derivedKeys_iff] at derived
  unfold definers
  split
  next own => exact clientAliases_agree answers.property m own
  split
  next own => rw [own]; exact scopes_agree answers m
  split
  next own => rw [own]; exact endpointBase_agrees answers m
  split
  next own => exact endpoints_agree answers m own
  split
  next own => exact opaqueTokens_agree answers m own
  split
  next own => rw [own]; exact redirect_agrees answers m
  split
  next own => rw [own]; exact publicClient_agrees answers m
  next => simp_all

end Answers

/-! ### Derived layers wherever they stand -/

theorem clientAliases_mem (m : Metadata) : clientAliases ∈ derivedLayers m :=
  List.mem_cons_self

/-- Behind the aliases the standard secret is there if it is configured under one of its names,
wherever the aliases stand. -/
theorem answers_of_assembled {env : Environment} (assembled : Assembled env)
    (aliased : .layer clientAliases ∈ env.sources) {opened : Nat} {scopes issuer : Option Value}
    (asked : env.reads opened (.resolved Vendor.scopes) = some scopes ∧
      env.reads opened (.resolved Vendor.issuer) = some issuer) :
    Answers (env.reads opened) ⟨configured env.sources, scopes, issuer⟩ := by
  have property : ∀ key, key ∉ derivedKeys →
      env.reads opened (.property key) = some (configured env.sources key) :=
    fun key foreign => reads_property_of_assembled assembled foreign opened
  have coherent := env.reads_coherent opened
  constructor
  case property => exact property
  case contains =>
    intro key foreign
    rw [coherent, property key foreign]
    rfl
  case secret =>
    have asks : Standard.clientSecret ∈ (Source.layer clientAliases).askingOn := by decide
    have vendor : Vendor.clientSecret ∉ derivedKeys := by decide
    have alike : ∀ s ∈ env.sources, Standard.clientSecret ∈ s.askingOn →
        (s.contains Standard.clientSecret).run (env.reads opened) =
          some (configured env.sources Vendor.clientSecret).isSome := by
      intro s member asking
      rcases assembled s member with fixed | ⟨m, l, derived, rfl⟩
      · exact absurd asking (Source.not_asking_of_fixed fixed _)
      · have only : l = clientAliases :=
          List.mem_singleton.mp ((asking_iff_definers derived _).mp asking)
        rw [only, Source.run_contains coherent, Source.get, clientAliases_get, if_pos rfl,
          Inquiry.run_property, property _ vendor]
        rfl
    have present : env.sources.any (fun s => Standard.clientSecret ∈ s.askingOn) = true :=
      List.any_eq_true.mpr ⟨_, aliased, by simpa using asks⟩
    rw [Environment.reads_contains, anyDefines_of_asking alike, present, Bool.true_and]
    rfl
  case scopes => exact asked.1
  case issuer => exact asked.2

/-- A key that one derived layer defines is given its row's value by it. -/
theorem run_get_of_definers {oracle : Oracle} {i : Inputs} (answers : Answers oracle i)
    {m : Metadata} {key : String} {l : Layer} (alone : definers m key = [l]) :
    (l.get key).run oracle = some (derivedValue m i key) := by
  have found := firstValue_derivedLayers answers m key
  rwa [firstValue_layers, filter_derivedLayers, alone, List.map_singleton,
    firstValue_singleton] at found

/-! ### Derived layers behind what is configured -/

theorem ownValue_derivedLayers {m : Metadata} {l : Layer} (member : l ∈ derivedLayers m)
    (key : String) : (Source.layer l).ownValue key = none := by
  revert l
  apply forall_derivedLayers
  · rfl
  · rfl
  · rfl
  · intro name values required forbidden needs excludes
    rfl

/-- Derived layers configure nothing. -/
theorem configured_install (env : Environment) (m : Metadata) (key : String) :
    configured (install (derivedLayers m) env).sources key = configured env.sources key := by
  have silent :
      ((derivedLayers m).map Source.layer).findSome? (fun s => s.ownValue key) = none := by
    rw [List.findSome?_eq_none_iff]
    intro s member
    obtain ⟨l, derived, rfl⟩ := List.mem_map.mp member
    exact ownValue_derivedLayers derived key
  rw [sources_install, configured, List.findSome?_append, silent, Option.or_none, configured]

section Install

variable {env : Environment} (fixed : env.Fixed) (m : Metadata) (opened : Nat)

include fixed

/-- What is configured for a key comes before what is derived. -/
theorem reads_property_install (key : String) (derived : Option Value)
    (search : firstValue ((install (derivedLayers m) env).reads opened) key
      ((derivedLayers m).map .layer) = some derived) :
    (install (derivedLayers m) env).reads opened (.property key) =
      some ((configured env.sources key).or derived) := by
  rw [Environment.reads_property, sources_install, firstValue_append,
    firstValue_of_not_asking _ fun s member => Source.not_asking_of_fixed (fixed s member) key,
    Option.bind_some]
  cases configured env.sources key with
  | none => exact search
  -- The search does not get to the layers.
  | some v => rfl

theorem answers_install {scopes issuer : Option Value}
    (asked : (install (derivedLayers m) env).reads opened (.resolved Vendor.scopes) = some scopes ∧
      (install (derivedLayers m) env).reads opened (.resolved Vendor.issuer) = some issuer) :
    Answers ((install (derivedLayers m) env).reads opened)
      ⟨configured env.sources, scopes, issuer⟩ := by
  have aliased : Source.layer clientAliases ∈ (install (derivedLayers m) env).sources := by
    rw [sources_install]
    exact List.mem_append_right _ (List.mem_map_of_mem (clientAliases_mem m))
  have answers := answers_of_assembled (assembled_install fixed m) aliased asked
  rwa [funext (configured_install env m)] at answers

/-- At every number of open expansions a key reads as what is configured for it, or else as what
its row says. -/
theorem reads_install :
    ∃ i : Inputs, i.given = configured env.sources ∧
      (install (derivedLayers m) env).reads opened (.resolved Vendor.scopes) = some i.scopes ∧
      (install (derivedLayers m) env).reads opened (.resolved Vendor.issuer) = some i.issuer ∧
      ∀ key, (install (derivedLayers m) env).reads opened (.property key) =
        some ((configured env.sources key).or (derivedValue m i key)) := by
  have assembled := assembled_install fixed m
  obtain ⟨scopes, resolvedScopes⟩ := reads_answered assembled opened (.resolved Vendor.scopes)
  obtain ⟨issuer, resolvedIssuer⟩ := reads_answered assembled opened (.resolved Vendor.issuer)
  have answers := answers_install fixed m opened ⟨resolvedScopes, resolvedIssuer⟩
  refine ⟨⟨configured env.sources, scopes, issuer⟩, rfl, resolvedScopes, resolvedIssuer, ?_⟩
  intro key
  exact reads_property_install fixed m opened key _ (firstValue_derivedLayers answers m key)

end Install

/-- **The derived values.** With the derived layers of any metadata behind static layers and
process variables, every key that these do not contain has the value in its row, and is contained
if there is one; a key without a row is neither. -/
theorem derived_values (env : Environment) (fixed : env.Fixed) (m : Metadata) :
    ∃ i : Inputs,
      (∀ key, env.property key = some (i.given key)) ∧
      (install (derivedLayers m) env).resolved Vendor.scopes = some i.scopes ∧
      (install (derivedLayers m) env).resolved Vendor.issuer = some i.issuer ∧
      ∀ key, env.contains key = some false →
        (install (derivedLayers m) env).property key = some (derivedValue m i key) ∧
        (install (derivedLayers m) env).contains key = some (derivedValue m i key).isSome := by
  obtain ⟨i, given, scopes, issuer, values⟩ := reads_install fixed m 0
  have property : ∀ key, env.property key = some (i.given key) := by
    rw [given]
    exact Environment.property_of_fixed fixed
  refine ⟨i, property, scopes, issuer, fun key free => ?_⟩
  have unset : configured env.sources key = none := by
    have absent := Environment.property_of_not_contains free
    rw [property, given] at absent
    exact Option.some.inj absent
  have value : (install (derivedLayers m) env).property key = some (derivedValue m i key) := by
    have read := values key
    rw [unset, Option.none_or] at read
    exact read
  exact ⟨value, by rw [Environment.contains_eq, value]; rfl⟩

/-- An issuer from a file and a client id from a process variable. -/
def publicClientExample : Environment :=
  ⟨"default",
    [.variables ⟨[("OKTA_OAUTH2_CLIENT_ID", "abc")]⟩,
      .layer (.static ⟨"application.yaml", .ofList [(Vendor.issuer, .string "https://a.b")]⟩)]⟩

theorem derived_values_of_public_client :
    publicClientExample.Fixed ∧
      (install (derivedLayers (.fallback Vendor.issuerWithPath)) publicClientExample).property
        Standard.clientId = some (some (.string "abc")) ∧
      (install (derivedLayers (.fallback Vendor.issuerWithPath)) publicClientExample).property
        Standard.clientAuthMethod = some (some (.string "none")) ∧
      (install (derivedLayers (.fallback Vendor.issuerWithPath)) publicClientExample).contains
        Standard.opaqueClientId = some false := by
  have fixed : publicClientExample.Fixed := by
    intro s member
    simp only [publicClientExample, List.mem_cons, List.not_mem_nil, or_false] at member
    rcases member with rfl | rfl <;> trivial
  obtain ⟨i, given, -, -, values⟩ :=
    derived_values publicClientExample fixed (.fallback Vendor.issuerWithPath)
  have own : ∀ key, i.given key = configured publicClientExample.sources key := by
    intro key
    have same := given key
    rw [Environment.property_of_fixed fixed] at same
    exact (Option.some.inj same).symm
  have free : ∀ key ∈ [Standard.clientId, Standard.clientAuthMethod, Standard.opaqueClientId],
      publicClientExample.contains key = some false := by
    simp only [Environment.contains_of_fixed fixed]
    decide +kernel
  refine ⟨fixed, ?_, ?_, ?_⟩
  · rw [(values Standard.clientId (free _ (by decide))).1]
    change some (i.given Vendor.clientId) = _
    rw [own]
    rfl
  · rw [(values Standard.clientAuthMethod (free _ (by decide))).1]
    change some (i.duringWithoutSecret _ _) = _
    simp only [Inputs.duringWithoutSecret, Inputs.hasSecret, Inputs.during, Inputs.has, own,
      List.all_cons, List.all_nil]
    rfl
  · rw [(values Standard.opaqueClientId (free _ (by decide))).2]
    change some (Option.isSome (i.during _ _)) = _
    simp only [Inputs.during, Inputs.has, own, List.all_cons, List.all_nil]
    rfl

end ConfigStack.OAuth2
