import ConfigStack.Proofs.Dependence
import ConfigStack.Proofs.Extension
import ConfigStack.Proofs.OAuth2.DerivedValues

/-!
# Circular configuration

A key depends on the keys that its value refers to; the standard scope and the base of the
endpoints depend on the vendor's keys that they are computed from. A key that depends on itself
does not resolve: references nest a level at a time, what is computed is resolved with one more
expansion open, and both have a limit. At that limit, though, nothing resolves any more, and a
computed layer without a value leaves its key to the layers behind. Behind the vendor's scopes stand
those of the metadata, so a circle that leads through the standard scope may have a value where
these are shown (`circular_fails_unless_defaults`).
-/
namespace ConfigStack.OAuth2

open Oidc (Metadata)
open Relation (ReflTransGen TransGen)

/-! ### Values at a number of open expansions -/

/-- The values of the keys with the derived layers in place and expansions open around them. -/
def valuesAt (env : Environment) (m : Metadata) (opened : Nat) (key : String) :
    Option (Option Value) :=
  (install (derivedLayers m) env).reads opened (.property key)

/-- The scopes of the metadata are shown: for a client with an issuer, and without a scope of its
own under the standard name. -/
def DefaultsShown (env : Environment) : Prop :=
  env.contains Vendor.issuer = some true ∧ env.contains Vendor.clientId = some true ∧
    env.contains Standard.scope = some false

/-- A key that no layer derives has its value with any number of expansions open. -/
theorem valuesAt_of_foreign {env : Environment} (fixed : env.Fixed) (m : Metadata) (opened : Nat)
    {key : String} (foreign : key ∉ derivedKeys) :
    valuesAt env m opened key = env.property key := by
  rw [valuesAt, reads_property_of_assembled (assembled_install fixed m) foreign,
    configured_install, Environment.property_of_fixed fixed]

/-- Only two derived values depend on how the vendor's properties resolve. -/
theorem derivedValue_of_given (m : Metadata) {i j : Inputs} (given : i.given = j.given)
    {key : String} (notBase : key ≠ Vendor.issuerWithPath) (notScope : key ≠ Standard.scope) :
    derivedValue m i key = derivedValue m j key := by
  obtain ⟨g, scopes, issuer⟩ := i
  obtain rfl : g = j.given := given
  simp only [derivedValue, derivedValues, Table.lookup_cons, if_neg notBase, if_neg notScope]
  rfl

/-- The more resolves, the more has a derived value, but for scopes that take the place of those of
the metadata. -/
theorem derivedValue_mono {m : Metadata} {i j : Inputs} (given : i.given = j.given)
    (scopes : ∀ w, i.scopes = some w → j.scopes = some w)
    (issuer : ∀ w, i.issuer = some w → j.issuer = some w) {key : String} {v : Value}
    (hidden : key = Standard.scope →
      i.during [Vendor.issuer, Vendor.clientId] (.ofStrings m.scopes) = none)
    (value : derivedValue m i key = some v) : derivedValue m j key = some v := by
  by_cases base : key = Vendor.issuerWithPath
  · subst base
    obtain ⟨s, text, made⟩ :=
      Option.map_eq_some_iff.mp (show i.issuerText.map _ = some v from value)
    have textToo : j.issuerText = some s :=
      (j.issuerText_eq_some_iff s).mpr (issuer _ ((i.issuerText_eq_some_iff s).mp text))
    exact Option.map_eq_some_iff.mpr ⟨s, textToo, made⟩
  by_cases scope : key = Standard.scope
  · subst scope
    have own : i.ownScopes = some v := by
      have row : i.ownScopes.or _ = some v := value
      rwa [hidden rfl, Option.or_none] at row
    obtain ⟨w, same, listed⟩ := (i.ownScopes_eq_some_iff v).mp own
    have ownToo := (j.ownScopes_eq_some_iff v).mpr ⟨w, scopes w same, listed⟩
    exact Option.or_eq_some_iff.mpr (.inl ownToo)
  · rwa [← derivedValue_of_given m given base scope]

section Install

variable {env : Environment} (fixed : env.Fixed) (m : Metadata) {opened : Nat}

/-- What is resolved is resolved with more expansions left, if values are kept. -/
theorem reads_resolved_kept
    (keeps : ∀ key v, valuesAt env m (opened + 2) key = some (some v) →
      valuesAt env m (opened + 1) key = some (some v)) {key : String} {w : Value}
    (resolved : (install (derivedLayers m) env).reads (opened + 1) (.resolved key) =
      some (some w)) :
    (install (derivedLayers m) env).reads opened (.resolved key) = some (some w) := by
  obtain ⟨within, v, held, expands⟩ := Environment.reads_resolved_eq_some_iff.mp resolved
  exact Environment.reads_resolved_eq_some_iff.mpr
    ⟨Nat.lt_of_succ_lt within, v, keeps key v held, Expansion.value_mono keeps expands⟩

include fixed

theorem during_of_not_defaultsShown (hidden : ¬DefaultsShown env) {i : Inputs}
    (given : i.given = configured env.sources)
    (unset : configured env.sources Standard.scope = none) (v : Value) :
    i.during [Vendor.issuer, Vendor.clientId] v = none := by
  rw [Inputs.during, if_neg]
  intro both
  simp only [Inputs.has, given, List.all_cons, List.all_nil, Bool.and_true, Bool.and_eq_true]
    at both
  refine hidden ⟨?_, ?_, ?_⟩
  · rw [Environment.contains_of_fixed fixed, both.1]
  · rw [Environment.contains_of_fixed fixed, both.2]
  · rw [Environment.contains_of_fixed fixed, unset]
    rfl

/-- Where the scopes of the metadata are not shown, values are kept if what is resolved is. -/
theorem valuesAt_of_resolved (hidden : ¬DefaultsShown env)
    (kept : ∀ key w, (install (derivedLayers m) env).reads (opened + 1) (.resolved key) =
        some (some w) →
      (install (derivedLayers m) env).reads opened (.resolved key) = some (some w))
    {key : String} {v : Value} (held : valuesAt env m (opened + 1) key = some (some v)) :
    valuesAt env m opened key = some (some v) := by
  obtain ⟨i, given, scopes, issuer, values⟩ := reads_install fixed m (opened + 1)
  obtain ⟨j, givenToo, scopesToo, issuerToo, valuesToo⟩ := reads_install fixed m opened
  rw [valuesAt, values, Option.some.injEq] at held
  rw [valuesAt, valuesToo, Option.some.injEq]
  cases configuredKey : configured env.sources key with
  | some own => rwa [configuredKey] at held
  | none =>
    rw [configuredKey, Option.none_or] at held
    rw [Option.none_or]
    refine derivedValue_mono (given.trans givenToo.symm) ?_ ?_ ?_ held
    · intro w same
      exact Option.some.inj (scopesToo.symm.trans (kept _ w (same ▸ scopes)))
    · intro w same
      exact Option.some.inj (issuerToo.symm.trans (kept _ w (same ▸ issuer)))
    · rintro rfl
      exact during_of_not_defaultsShown fixed hidden given configuredKey _

theorem valuesAt_of_succ (hidden : ¬DefaultsShown env) {key : String} {v : Value}
    (held : valuesAt env m (opened + 1) key = some (some v)) :
    valuesAt env m opened key = some (some v) := by
  -- Downwards from the limit, where nothing resolves.
  induction left : nestingLimit - opened generalizing opened key v with
  | zero =>
    refine valuesAt_of_resolved fixed m hidden (fun k w resolved => ?_) held
    have within := (Environment.reads_resolved_eq_some_iff.mp resolved).1
    omega
  | succ left' ih =>
    refine valuesAt_of_resolved fixed m hidden (fun k w resolved => ?_) held
    exact reads_resolved_kept m (fun k v later => ih later (by omega)) resolved

/-- A key whose values with expansions open are its value. -/
def Lasting (env : Environment) (m : Metadata) (key : String) : Prop :=
  ∀ opened v, valuesAt env m opened key = some (some v) → valuesAt env m 0 key = some (some v)

theorem lasting_of_not_defaultsShown (hidden : ¬DefaultsShown env) (key : String) :
    Lasting env m key := by
  intro opened v held
  induction opened with
  | zero => exact held
  | succ opened ih => exact ih (valuesAt_of_succ fixed m hidden held)

theorem lasting_of_given {key : String} (notBase : key ≠ Vendor.issuerWithPath)
    (notScope : key ≠ Standard.scope) : Lasting env m key := by
  intro opened v held
  obtain ⟨i, given, -, -, values⟩ := reads_install fixed m opened
  obtain ⟨j, givenToo, -, -, valuesToo⟩ := reads_install fixed m 0
  rw [valuesAt, values] at held
  rw [valuesAt, valuesToo, ← held,
    derivedValue_of_given m (given.trans givenToo.symm) notBase notScope]

end Install

/-! ### Dependence -/

/-- The key depends on the other: its value refers to it, or is computed from it. -/
inductive DependsOn (env : Environment) (m : Metadata) : String → String → Prop where
  | refers {key other : String} {v : Value}
    (held : (install (derivedLayers m) env).property key = some (some v))
    (refers : Expansion.Refers v other) : DependsOn env m key other
  | scopes (unset : env.contains Standard.scope = some false) :
    DependsOn env m Standard.scope Vendor.scopes
  | issuer (unset : env.contains Vendor.issuerWithPath = some false) :
    DependsOn env m Vendor.issuerWithPath Vendor.issuer

/-- A dependence that there is no way around: what depends is not a standard scope behind which
there are scopes of the metadata. -/
def Binding (env : Environment) (m : Metadata) (key other : String) : Prop :=
  DependsOn env m key other ∧ (key = Standard.scope → ¬DefaultsShown env)

/-- A dependence by the value that the key has, and keeps with expansions open. -/
def Referring (env : Environment) (m : Metadata) (key other : String) : Prop :=
  Lasting env m key ∧ Expansion.ValueRefers (valuesAt env m 0) key other

/-- A dependence that is there with any number of expansions open. -/
inductive Steady (env : Environment) (m : Metadata) : String → String → Prop where
  | refers {key other : String} (referring : Referring env m key other) : Steady env m key other
  | scopes (unset : env.contains Standard.scope = some false) (hidden : ¬DefaultsShown env) :
    Steady env m Standard.scope Vendor.scopes
  | issuer (unset : env.contains Vendor.issuerWithPath = some false) :
    Steady env m Vendor.issuerWithPath Vendor.issuer

/-- What the base of a key has left: the levels here, and a full number of them for each expansion
that may still be opened. -/
def Ranked (env : Environment) (m : Metadata) (rank : Nat) (key : String) : Prop :=
  ∃ opened levels, Expansion.Base (valuesAt env m opened) levels key ∧ levels ≤ nestingLimit ∧
    rank = (nestingLimit + 1) * (nestingLimit - opened) + levels

/-- A value that is computed from a key makes a base of the key, one expansion further in. -/
theorem ranked_of_resolved {env : Environment} {m : Metadata} {opened : Nat} {key : String}
    {w : Value}
    (resolved : (install (derivedLayers m) env).reads opened (.resolved key) = some (some w))
    (levels : Nat) :
    ∃ below < (nestingLimit + 1) * (nestingLimit - opened) + levels, Ranked env m below key := by
  obtain ⟨within, v, held, expands⟩ := Environment.reads_resolved_eq_some_iff.mp resolved
  refine ⟨_, ?_, opened + 1, nestingLimit, Expansion.base_of_value held expands, Nat.le_refl _, rfl⟩
  have inside : nestingLimit - opened = nestingLimit - (opened + 1) + 1 := by omega
  rw [inside, Nat.mul_add_one]
  omega

section Ranks

variable {env : Environment} (fixed : env.Fixed) (m : Metadata)

include fixed

theorem derivedValue_of_unset {opened : Nat} {key : String} {v : Value}
    (unset : env.contains key = some false) (held : valuesAt env m opened key = some (some v)) :
    ∃ i : Inputs, i.given = configured env.sources ∧ configured env.sources key = none ∧
      (install (derivedLayers m) env).reads opened (.resolved Vendor.scopes) = some i.scopes ∧
      (install (derivedLayers m) env).reads opened (.resolved Vendor.issuer) = some i.issuer ∧
      derivedValue m i key = some v := by
  obtain ⟨i, given, scopes, issuer, values⟩ := reads_install fixed m opened
  have free := Environment.configured_of_not_contains fixed unset
  rw [valuesAt, values, free, Option.none_or, Option.some.injEq] at held
  exact ⟨i, given, free, scopes, issuer, held⟩

theorem ranked_of_steady (n : Nat) (key other : String) (steady : Steady env m key other)
    (ranked : Ranked env m n key) : ∃ below < n, Ranked env m below other := by
  obtain ⟨opened, levels, base, within, rfl⟩ := ranked
  obtain ⟨v, here, -⟩ := id base
  cases steady with
  | refers referring =>
    -- One level goes, with as many expansions open.
    obtain ⟨lasting, w, held, refers⟩ := referring
    have same : some (some v) = some (some w) := (lasting opened v here).symm.trans held
    obtain ⟨below, fewer, baseToo⟩ := base.step ⟨w, here.trans same, refers⟩
    exact ⟨_, Nat.add_lt_add_left fewer _, opened, below, baseToo,
      Nat.le_of_lt (Nat.lt_of_lt_of_le fewer within), rfl⟩
  | scopes unset hidden =>
    -- With nothing of the metadata to fall back to, the value is computed from scopes that resolve.
    obtain ⟨i, given, free, scopes, -, value⟩ := derivedValue_of_unset fixed m unset here
    have row : i.ownScopes.or _ = some v := value
    rw [during_of_not_defaultsShown fixed hidden given free, Option.or_none] at row
    obtain ⟨w, same, -⟩ := (i.ownScopes_eq_some_iff v).mp row
    exact ranked_of_resolved (same ▸ scopes) levels
  | issuer unset =>
    obtain ⟨i, -, -, -, issuer, value⟩ := derivedValue_of_unset fixed m unset here
    obtain ⟨s, text, -⟩ := Option.map_eq_some_iff.mp (show i.issuerText.map _ = some v from value)
    exact ranked_of_resolved ((i.issuerText_eq_some_iff s).mp text ▸ issuer) levels

theorem steady_of_not_defaultsShown (hidden : ¬DefaultsShown env) {key other : String}
    (depends : DependsOn env m key other) : Steady env m key other := by
  cases depends with
  | refers held refers =>
    exact .refers ⟨lasting_of_not_defaultsShown fixed m hidden key, _, held, refers⟩
  | scopes unset => exact .scopes unset hidden
  | issuer unset => exact .issuer unset

theorem referring_of_binding (shown : DefaultsShown env) (key other : String)
    (binding : Binding env m key other) (notBase : key ≠ Vendor.issuerWithPath) :
    Referring env m key other := by
  obtain ⟨depends, around⟩ := binding
  have notScope : key ≠ Standard.scope := fun scope => around scope shown
  cases depends with
  | refers held refers => exact ⟨lasting_of_given fixed m notBase notScope, _, held, refers⟩
  | scopes => exact absurd rfl notScope
  | issuer => exact absurd rfl notBase

/-- A key on a circle of steady dependences, or on the way to one, is no base. -/
theorem not_base_of_steady {key around : String}
    (leads : ReflTransGen (Steady env m) key around)
    (circle : TransGen (Steady env m) around around) :
    ¬Expansion.Base (valuesAt env m 0) nestingLimit key := by
  intro base
  have start : Ranked env m _ key := ⟨0, nestingLimit, base, Nat.le_refl _, rfl⟩
  obtain ⟨n, reached⟩ := Expansion.ranked_of_path (ranked_of_steady fixed m) leads start
  exact Expansion.not_ranked_on_cycle (ranked_of_steady fixed m) circle reached

omit fixed in
theorem not_base_of_referring {key around next : String}
    (leads : ReflTransGen (Referring env m) key around)
    (out : Expansion.ValueRefers (valuesAt env m 0) around next)
    (back : ReflTransGen (Referring env m) next around) :
    ¬Expansion.Base (valuesAt env m 0) nestingLimit key := by
  -- All of it is by references, so no expansion has to be opened and the levels alone shrink.
  intro base
  have step : ∀ n a b, Expansion.ValueRefers (valuesAt env m 0) a b →
      Expansion.Base (valuesAt env m 0) n a →
        ∃ below < n, Expansion.Base (valuesAt env m 0) below b :=
    fun n a b refers base => base.step refers
  have referring : ∀ a b, Referring env m a b → Expansion.ValueRefers (valuesAt env m 0) a b :=
    fun a b => And.right
  obtain ⟨n, reached⟩ := Expansion.ranked_of_path step (ReflTransGen.mono referring _ _ leads) base
  exact Expansion.not_ranked_on_cycle step
    (.head' out (ReflTransGen.mono referring _ _ back)) reached

theorem not_base_on_circle {key : String} (circle : TransGen (Binding env m) key key) :
    ¬Expansion.Base (valuesAt env m 0) nestingLimit key := by
  by_cases shown : DefaultsShown env
  case neg =>
    -- Values are kept with expansions open, so every dependence is there with any number of them.
    refine not_base_of_steady fixed m .refl (TransGen.mono (fun a b binding => ?_) _ _ circle)
    exact steady_of_not_defaultsShown fixed m shown binding.1
  -- The circle keeps away from the standard scope, and only the base of the endpoints may have
  -- another value with expansions open: the circle is taken apart there.
  have steadily : ∀ a b, Referring env m a b → Steady env m a b := fun a b => .refers
  rcases Expansion.cycle_or_hub (referring_of_binding fixed m shown) circle with
    around | ⟨leads, next, first, back⟩
  · exact not_base_of_steady fixed m .refl (TransGen.mono steadily _ _ around)
  · have out : Steady env m Vendor.issuerWithPath next ∨
        Expansion.ValueRefers (valuesAt env m 0) Vendor.issuerWithPath next := by
      obtain ⟨depends, aside⟩ := first
      generalize Vendor.issuerWithPath = base at depends aside
      cases depends with
      | refers held refers => exact .inr ⟨_, held, refers⟩
      | scopes => exact absurd shown (aside rfl)
      | issuer unset => exact .inl (.issuer unset)
    rcases out with steady | refers
    · exact not_base_of_steady fixed m (ReflTransGen.mono steadily _ _ leads)
        (.head' steady (ReflTransGen.mono steadily _ _ back))
    · exact not_base_of_referring m leads refers back

end Ranks

/-! ### Scopes that refer to the standard scope -/

/-- What the scopes that are asked for by default are joined to lists them again. -/
theorem stringSet_defaultScopes :
    (Value.string "openid,profile,email").stringSet = Oidc.defaultScopes := by
  decide

theorem refers_sameAs {key : String} (referable : Template.Referable key) :
    Expansion.Refers (sameAs key) key := by
  refine .string ⟨⟨[], key.toList⟩, ?_, ?_⟩
  · rw [Template.ofText_reference_alone referable]
    exact List.mem_singleton_self _
  · rw [Segment.key, referable.2, String.ofList_toList]

/-- The vendor's scopes, if they are to be those of the standard scope, expand to the default ones
where it has these. -/
theorem text_sameAs_scope {property : String → Option (Option Value)}
    (held : property Standard.scope = some (some (.ofStrings Oidc.defaultScopes))) :
    Expansion.text property nestingLimit (Template.reference Standard.scope) =
      pure "openid,profile,email" := by
  have joined : Expansion.TextOf property Standard.scope "openid,profile,email" :=
    ⟨_, held, .list _⟩
  exact (Expansion.text_reference_alone_eq_pure_iff (by decide) 31).mpr
    ⟨_, joined, Expansion.text_of_plain (by decide) 31⟩

section Scopes

variable {env : Environment} (fixed : env.Fixed) (m : Metadata) (shown : DefaultsShown env)

include fixed shown

/-- The standard scope lists what the vendor's scopes do, or what the metadata does. -/
theorem valuesAt_scope (opened : Nat) :
    ∃ i : Inputs,
      (install (derivedLayers m) env).reads opened (.resolved Vendor.scopes) = some i.scopes ∧
      valuesAt env m opened Standard.scope =
        some (some (i.ownScopes.getD (.ofStrings m.scopes))) := by
  obtain ⟨issuer, clientId, unset⟩ := shown
  obtain ⟨i, given, resolved, -, values⟩ := reads_install fixed m opened
  have during := Inputs.during_of_contains fixed given
    (List.forall_mem_cons.mpr ⟨issuer, List.forall_mem_singleton.mpr clientId⟩)
    (.ofStrings m.scopes)
  refine ⟨i, resolved, ?_⟩
  rw [valuesAt, values, Environment.configured_of_not_contains fixed unset, Option.none_or]
  change some (i.ownScopes.or (i.during _ _)) = _
  rw [during]
  cases i.ownScopes <;> rfl

/-- Where the vendor's scopes are to be those of the standard scope, this has the default ones with
any number of expansions open: at the limit they are the metadata's, and before it the vendor's
list them over again. -/
theorem valuesAt_scope_of_circle (scopes : m.scopes = Oidc.defaultScopes)
    (own : env.property Vendor.scopes = some (some (sameAs Standard.scope))) (opened : Nat) :
    valuesAt env m opened Standard.scope = some (some (.ofStrings Oidc.defaultScopes)) := by
  induction left : nestingLimit - opened generalizing opened with
  | zero =>
    obtain ⟨i, resolved, value⟩ := valuesAt_scope fixed m shown opened
    rw [Environment.reads_resolved, if_pos (by omega), Option.some.injEq] at resolved
    rw [value, Inputs.ownScopes, ← resolved, scopes]
    rfl
  | succ left' ih =>
    obtain ⟨i, resolved, value⟩ := valuesAt_scope fixed m shown opened
    have further : valuesAt env m (opened + 1) Vendor.scopes =
        some (some (sameAs Standard.scope)) :=
      (valuesAt_of_foreign fixed m _ (by decide)).trans own
    have expands : Expansion.value (valuesAt env m (opened + 1)) (sameAs Standard.scope) =
        pure (.string "openid,profile,email") := by
      rw [sameAs, Expansion.value, text_sameAs_scope (ih (opened + 1) (by omega)), pure_bind]
    have inner := Environment.reads_resolved_eq_some_iff.mpr
      ⟨show opened < nestingLimit by omega, _, further, expands⟩
    have listed : i.scopes = some (.string "openid,profile,email") :=
      Option.some.inj (resolved.symm.trans inner)
    have nonempty : Oidc.defaultScopes ≠ [] := by decide
    rw [value, (i.ownScopes_eq_some_iff _).mpr
      ⟨_, listed, stringSet_defaultScopes ▸ nonempty, rfl⟩, stringSet_defaultScopes]
    rfl

end Scopes

/-- **Circular configuration.** A key that depends on itself, without a standard scope on the way
behind which there are scopes of the metadata, is read as no target. But with such a scope on the
way it may be: scopes that are to be those of the standard scope are the default ones. -/
theorem circular_fails_unless_defaults (env : Environment) (fixed : env.Fixed) (m : Metadata) :
    (∀ key, TransGen (Binding env m) key key → ∀ target, ∃ e,
      (install (derivedLayers m) env).getResolved target key = throw e) ∧
    (DefaultsShown env → m.scopes = Oidc.defaultScopes →
      env.property Vendor.scopes = some (some (sameAs Standard.scope)) →
        TransGen (DependsOn env m) Vendor.scopes Vendor.scopes ∧
        (install (derivedLayers m) env).getResolved (.scalar .text) Vendor.scopes =
          pure "openid,profile,email") := by
  have assembled := assembled_install fixed m
  refine ⟨fun key circle target => ?_, fun shown scopes own => ?_⟩
  · apply Environment.getResolved_fails fun k => reads_answered assembled 0 (.property k)
    intro result gives
    obtain ⟨v, required, rest⟩ := Reading.bind_eq_pure.mp gives
    obtain ⟨w, expands, -⟩ := Reading.bind_eq_pure.mp rest
    have held := Environment.require_eq_pure_iff.mp required
    exact not_base_on_circle fixed m circle (Expansion.base_of_value held expands)
  · have held : (install (derivedLayers m) env).property Vendor.scopes =
        some (some (sameAs Standard.scope)) :=
      (valuesAt_of_foreign fixed m 0 (by decide)).trans own
    constructor
    · exact .tail (.single (.refers held (refers_sameAs (by decide)))) (.scopes shown.2.2)
    · rw [Environment.getResolved_text_of_string held]
      exact text_sameAs_scope (valuesAt_scope_of_circle fixed m shown scopes own 0)

/-- An issuer that is to be the base derived from it, and scopes that are to be those of the
standard scope, for a client. -/
def circular : Environment :=
  .ofSettings
    [(Vendor.issuer, sameAs Vendor.issuerWithPath), (Vendor.clientId, .string "web"),
      (Vendor.scopes, sameAs Standard.scope)]

theorem circular_fails_unless_defaults_of_circular :
    circular.Fixed ∧
      let installed := install (derivedLayers (.fallback Vendor.issuerWithPath)) circular
      (∃ e, installed.getResolved (.scalar .text) Vendor.issuer = throw e) ∧
        installed.getResolved (.scalar .text) Vendor.scopes = pure "openid,profile,email" := by
  have fixed : circular.Fixed := (Environment.static_ofSettings _).fixed
  have contains := Environment.contains_of_fixed fixed
  have own := Environment.property_of_fixed fixed
  obtain ⟨fails, reads⟩ :=
    circular_fails_unless_defaults circular fixed (.fallback Vendor.issuerWithPath)
  have out : Binding circular (.fallback Vendor.issuerWithPath) Vendor.issuer
      Vendor.issuerWithPath := by
    have held := (valuesAt_of_foreign fixed (.fallback Vendor.issuerWithPath) 0
      (by decide)).trans (own Vendor.issuer)
    exact ⟨.refers held (refers_sameAs (by decide)), fun scope => absurd scope (by decide)⟩
  have back : Binding circular (.fallback Vendor.issuerWithPath) Vendor.issuerWithPath
      Vendor.issuer :=
    ⟨.issuer (contains Vendor.issuerWithPath), fun scope => absurd scope (by decide)⟩
  exact ⟨fixed, fails Vendor.issuer (.tail (.single out) back) (.scalar .text),
    (reads ⟨contains _, contains _, contains _⟩ rfl (own _)).2⟩

end ConfigStack.OAuth2
