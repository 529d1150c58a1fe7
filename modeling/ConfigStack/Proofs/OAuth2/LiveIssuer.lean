import ConfigStack.Proofs.OAuth2.Changes
import ConfigStack.Proofs.OAuth2.VisibleResolves

/-!
# Endpoints of the live issuer

Metadata without endpoints of its own have templates over the base of the issuer's endpoints, and
the base is computed from the issuer as it resolves at the read. So an endpoint is a path under
the issuer that there is by then, whatever was added since the derived layers were put in place.
-/
namespace ConfigStack.OAuth2

open Oidc (Document IssuerStyle Metadata)

/-- Metadata of which every endpoint that properties are derived from is a template: those of an
issuer about which nothing is known, and those of a document that names no such endpoint. -/
inductive Templated : Metadata → Prop where
  | fallback : Templated (.fallback Vendor.issuerWithPath)
  | discovered (document : Document) (style : IssuerStyle)
      (noAuthorization : document.authorizationEndpoint = none)
      (noToken : document.tokenEndpoint = none) (noUserInfo : document.userinfoEndpoint = none)
      (noJwkSet : document.jwksUri = none) :
      Templated (.discovered document style Vendor.issuerWithPath)

/-- The keys of the endpoints, and the path of each under the base. -/
def endpointPaths : List (String × String) :=
  [(Standard.authorizationUri, "/v1/authorize"), (Standard.tokenUri, "/v1/token"),
    (Standard.userInfoUri, "/v1/userinfo"), (Standard.jwkSetUri, "/v1/keys"),
    (Standard.resourceJwkSetUri, "/v1/keys")]

theorem Templated.derivedValue_eq {m : Metadata} (templated : Templated m) (i : Inputs)
    {key path : String} (listed : (key, path) ∈ endpointPaths) :
    derivedValue m i key = i.during [Vendor.issuer]
      (.string (Oidc.endpointTemplate Vendor.issuerWithPath path)) := by
  have ofTemplates :
      m.authorizationUri = Oidc.endpointTemplate Vendor.issuerWithPath "/v1/authorize" ∧
      m.tokenUri = Oidc.endpointTemplate Vendor.issuerWithPath "/v1/token" ∧
      m.userInfoUri = Oidc.endpointTemplate Vendor.issuerWithPath "/v1/userinfo" ∧
      m.jwkSetUri = Oidc.endpointTemplate Vendor.issuerWithPath "/v1/keys" := by
    cases templated with
    | fallback => exact ⟨rfl, rfl, rfl, rfl⟩
    | discovered document style noAuthorization noToken noUserInfo noJwkSet =>
      simp only [Metadata.discovered, noAuthorization, noToken, noUserInfo, noJwkSet,
        Option.getD_none, and_self]
  obtain ⟨authorization, token, userInfo, jwkSet⟩ := ofTemplates
  simp only [endpointPaths, List.mem_cons, Prod.mk.injEq, List.not_mem_nil, or_false] at listed
  rcases listed with ⟨rfl, rfl⟩ | ⟨rfl, rfl⟩ | ⟨rfl, rfl⟩ | ⟨rfl, rfl⟩ | ⟨rfl, rfl⟩
  · rw [← authorization]; rfl
  · rw [← token]; rfl
  · rw [← userInfo]; rfl
  · rw [← jwkSet]; rfl
  · rw [← jwkSet]; rfl

theorem definers_of_endpointPaths (m : Metadata) {key path : String}
    (listed : (key, path) ∈ endpointPaths) : definers m key = [endpoints m] := by
  simp only [endpointPaths, List.mem_cons, Prod.mk.injEq, List.not_mem_nil, or_false] at listed
  rcases listed with ⟨rfl, -⟩ | ⟨rfl, -⟩ | ⟨rfl, -⟩ | ⟨rfl, -⟩ | ⟨rfl, -⟩ <;> rfl

def IsStatic (s : Source) : Prop :=
  ∃ l, s = .layer (.static l)

section Template

variable {env : Environment} {key base path text : String}
  (referable : Template.Referable base) (plainPath : Template.hasOpening path = false)
  (held : env.property key = some (some (.string (Oidc.endpointTemplate base path))))
  (under : env.property base = some (some (.string text)))

include referable plainPath held under

/-- An endpoint template reads as the expansion of its base, with its path behind it. -/
theorem getResolved_endpointTemplate_expands :
    env.getResolved (.scalar .text) key = (do
      let base ← Expansion.text env.property (nestingLimit - 1) text
      pure (base ++ path)) := by
  have nothing : Template.hasOpening "" = false := by decide
  have expands := Expansion.text_reference_of_string nothing plainPath referable under
    (nestingLimit - 1)
  simp only [String.empty_append] at expands
  rw [Environment.getResolved_text_of_string held]
  exact expands

theorem getResolved_endpointTemplate (plain : Template.hasOpening text = false) :
    env.getResolved (.scalar .text) key = pure (text ++ path) := by
  rw [getResolved_endpointTemplate_expands referable plainPath held under,
    Expansion.text_of_plain plain, pure_bind]

end Template

/-- **Endpoints of the live issuer.** For every environment of static layers, metadata whose
endpoints are templates, and run of further static layers that come in before or behind the derived
ones. If no static layer has a value for an endpoint or for the base of the endpoints, and the
issuer resolves at the moment to a string without placeholders, then every endpoint reads as its
path under the base of that issuer. -/
theorem endpoints_follow_issuer {env : Environment} (static : env.Static) {m : Metadata}
    (templated : Templated m) {changes : List Change}
    (additions : ∀ change ∈ changes, change.Brings IsStatic (· = m)) {live : Environment}
    (reached : live = changed env (.install m :: changes))
    (free : ∀ l, .layer (.static l) ∈ live.sources →
      ∀ key ∈ Vendor.issuerWithPath :: endpointPaths.map (·.1), l.settings.get? key = none)
    {s : String} (issuer : live.resolved Vendor.issuer = some (some (.string s)))
    (plain : Template.hasOpening s = false) :
    ∀ key path, (key, path) ∈ endpointPaths →
      live.getResolved (.scalar .text) key = pure (issuerWithPath s m.style ++ path) := by
  intro key path listed
  have fixed : ∀ s, IsStatic s → s.Fixed := by
    rintro _ ⟨l, rfl⟩
    trivial
  have start : Composed IsStatic (· = m) env := fun s member => .inl (static s member)
  have composed : Composed IsStatic (· = m) live := by
    rw [reached]
    exact start.changed (List.forall_mem_cons.mpr ⟨rfl, additions⟩)
  have installed : ∀ l ∈ derivedLayers m, .layer l ∈ live.sources := by
    intro l derived
    rw [reached]
    exact mem_sources_of_install List.mem_cons_self derived
  have unset : ∀ key ∈ Vendor.issuerWithPath :: endpointPaths.map (·.1),
      configured live.sources key = none := by
    intro key own
    refine composed.configured_eq_none ?_
    rintro _ member ⟨l, rfl⟩
    exact free l member key own
  have assembled := composed.assembled fixed
  obtain ⟨i, given, resolved, answers⟩ :=
    exists_answers assembled (installed _ (clientAliases_mem m))
  have base := derivedValue_issuerWithPath m (Option.some.inj (resolved.symm.trans issuer))
  have hasIssuer : [Vendor.issuer].all i.has = true := by
    rw [List.all_cons, List.all_nil, has_of_resolved assembled given (by decide) issuer]
    rfl
  have row : derivedValue m i key =
      some (.string (Oidc.endpointTemplate Vendor.issuerWithPath path)) := by
    rw [templated.derivedValue_eq i listed, Inputs.during, if_pos hasIssuer]
  have plainPath : ∀ entry ∈ endpointPaths, Template.hasOpening entry.2 = false := by decide
  -- The endpoint is a template over the base, and the base stands there already resolved.
  exact getResolved_endpointTemplate (by decide) (plainPath _ listed)
    (property_of_definers composed fixed answers (definers_of_endpointPaths m listed) installed
      (unset _ (List.mem_cons_of_mem _ (List.mem_map_of_mem listed))) row)
    (property_of_definers composed fixed answers rfl installed (unset _ List.mem_cons_self) base)
    (plain_issuerWithPath plain m.style)

/-! ### An overridden issuer -/

def application : StaticLayer :=
  ⟨"application.yaml", .ofList [(Vendor.issuer, .string "https://x.okta.com")]⟩

def override : StaticLayer :=
  ⟨"override", .ofList [(Vendor.issuer, sameAs "app.issuer")]⟩

def referred : StaticLayer :=
  ⟨"referred", .ofList [("app.issuer", .string "https://y.okta.com/")]⟩

def overrides : List Change :=
  [.addFirst (.layer (.static override)), .addLast (.layer (.static referred))]

/-- After the set-up a layer in front refers the issuer to another key, and one behind has that
key. -/
def overridden : Environment :=
  changed ⟨"test", [.layer (.static application)]⟩
    (.install (.fallback Vendor.issuerWithPath) :: overrides)

theorem static_of_overridden {l : StaticLayer} (member : .layer (.static l) ∈ overridden.sources) :
    l ∈ [override, application, referred] := by
  have sources : overridden.sources =
      [.layer (.static override), .layer (.static application)] ++
        (derivedLayers (.fallback Vendor.issuerWithPath)).map .layer ++
          [.layer (.static referred)] := rfl
  rw [sources, List.mem_append, List.mem_append, List.mem_map] at member
  rcases member with (front | ⟨other, derived, same⟩) | last
  · simp only [List.mem_cons, Source.layer.injEq, Layer.static.injEq, List.not_mem_nil,
      or_false] at front ⊢
    tauto
  · exact absurd (Source.layer.inj same) (not_static_of_derived derived l)
  · simp only [List.mem_cons, Source.layer.injEq, Layer.static.injEq, List.not_mem_nil,
      or_false] at last ⊢
    tauto

theorem endpoints_follow_issuer_of_override :
    (∀ change ∈ overrides, change.Brings IsStatic (· = .fallback Vendor.issuerWithPath)) ∧
      (∀ l, .layer (.static l) ∈ overridden.sources →
        ∀ key ∈ Vendor.issuerWithPath :: endpointPaths.map (·.1), l.settings.get? key = none) ∧
      overridden.resolved Vendor.issuer = some (some (.string "https://y.okta.com/")) ∧
      Template.hasOpening "https://y.okta.com/" = false ∧
      overridden.getResolved (.scalar .text) Standard.tokenUri =
        pure "https://y.okta.com/oauth2/v1/token" := by
  have static : (⟨"test", [.layer (.static application)]⟩ : Environment).Static := by
    intro s member
    exact ⟨application, List.mem_singleton.mp member⟩
  have additions : ∀ change ∈ overrides,
      change.Brings IsStatic (· = .fallback Vendor.issuerWithPath) := by
    simp [overrides, Change.Brings, IsStatic]
  have free : ∀ l, .layer (.static l) ∈ overridden.sources →
      ∀ key ∈ Vendor.issuerWithPath :: endpointPaths.map (·.1), l.settings.get? key = none := by
    intro l member key own
    have unset : ∀ l ∈ [override, application, referred],
        ∀ key ∈ Vendor.issuerWithPath :: endpointPaths.map (·.1),
          (l.settings.get? key).isNone = true := by decide +kernel
    exact Option.isNone_iff_eq_none.mp (unset l (static_of_overridden member) key own)
  have issuer : overridden.resolved Vendor.issuer =
      some (some (.string "https://y.okta.com/")) := by
    have text : (overridden.resolved Vendor.issuer).map (·.bind Value.text?) =
        some (some "https://y.okta.com/") := by decide +kernel
    obtain ⟨found, same, held⟩ := Option.map_eq_some_iff.mp text
    obtain ⟨v, rfl, read⟩ := Option.bind_eq_some_iff.mp held
    rw [same, Value.text?_eq_some_iff.mp read]
  have plain : Template.hasOpening "https://y.okta.com/" = false := by decide
  have reached : overridden = changed ⟨"test", [.layer (.static application)]⟩
      (.install (.fallback Vendor.issuerWithPath) :: overrides) := rfl
  have follows := endpoints_follow_issuer static .fallback additions reached free issuer plain
    Standard.tokenUri "/v1/token" (by simp [endpointPaths])
  have base : issuerWithPath "https://y.okta.com/"
      (Metadata.fallback Vendor.issuerWithPath).style = "https://y.okta.com/oauth2" := by decide
  rw [base] at follows
  exact ⟨additions, free, issuer, plain, follows⟩

end ConfigStack.OAuth2
