import ConfigStack.Proofs.OAuth2.ScopeAnswer
import ConfigStack.Proofs.Splicing
import ConfigStack.Proofs.StringSet

/-!
# Lists of scopes behind a reference

Scopes may be set to a list, or to a reference to one. As a list they resolve item by item; behind
a reference they are one text, the items joined by commas, which is expanded as a whole. The set of
scopes is the same on both ways, as long as no item needs the last level of expansion: then the
joined text expands to the expanded items, joined, and the commas between them are cut again
(`list_through_reference`).
-/
namespace ConfigStack

namespace Expansion

variable {property : String → Option (Option Value)} {listKey : String} {items : List Value}
  (referable : Template.Referable listKey)
  (held : property listKey = some (some (.list items)))
  (within : ∀ item ∈ items, ExpandsWithin property 31 item)

include referable held within

/-- A list expands item by item, and a reference to it to the texts of the expanded items. -/
theorem exists_expanded_list :
    ∃ results, value property (.list items) = pure (.list results) ∧
      text property nestingLimit (Template.reference listKey) =
        pure (String.intercalate "," (results.filterMap Value.scalarText?)) := by
  obtain ⟨results, expands, joined⟩ := exists_expanded_items within (by decide)
  have named : TextOf property listKey _ := ⟨.list items, held, .list items⟩
  exact ⟨results, expands,
    (text_reference_alone_eq_pure_iff referable 31).mpr ⟨_, named, joined⟩⟩

end Expansion

namespace OAuth2

open Expansion (ExpandsWithin)

/-- The environments agree on every key but the vendor's scopes. -/
def AgreeButScopes (one other : Environment) : Prop :=
  ∀ key, key ≠ Vendor.scopes → other.property key = one.property key

/-- Among derived layers, the standard scope of environments that agree but for the vendor's scopes
is the same if these resolve to values with the same set. -/
theorem scope_of_same_set {one other : Environment} (fixed : one.Fixed) (fixedOther : other.Fixed)
    (agree : AgreeButScopes one other) {v w : Value}
    (resolves : one.getResolved .value Vendor.scopes = pure v)
    (resolvesOther : other.getResolved .value Vendor.scopes = pure w)
    (same : v.stringSet = w.stringSet) (m : Oidc.Metadata) :
    (install (derivedLayers m) other).property Standard.scope =
      (install (derivedLayers m) one).property Standard.scope := by
  -- The standard scope is derived from the vendor's scopes, as a set, and otherwise only from which
  -- keys are configured.
  obtain ⟨i, given, scopes, -, values⟩ := reads_install fixed m 0
  obtain ⟨j, givenOther, scopesOther, -, valuesOther⟩ := reads_install fixedOther m 0
  have agreed : ∀ key, key ≠ Vendor.scopes →
      configured other.sources key = configured one.sources key := by
    intro key different
    have read := agree key different
    rw [Environment.property_of_fixed fixed, Environment.property_of_fixed fixedOther] at read
    exact Option.some.inj read
  have found : i.scopes = some v := Option.some.inj
    (scopes.symm.trans (reads_resolved_of_configured fixed m (by decide) resolves))
  have foundOther : j.scopes = some w := Option.some.inj
    (scopesOther.symm.trans (reads_resolved_of_configured fixedOther m (by decide) resolvesOther))
  have listed : j.ownScopes = i.ownScopes := by
    rw [Inputs.ownScopes, Inputs.ownScopes, found, foundOther, Option.bind_some, Option.bind_some,
      same]
  have shown : ∀ scope, j.during [Vendor.issuer, Vendor.clientId] scope =
      i.during [Vendor.issuer, Vendor.clientId] scope := by
    intro scope
    simp only [Inputs.during, Inputs.has, List.all_cons, List.all_nil, given, givenOther,
      agreed Vendor.issuer (by decide), agreed Vendor.clientId (by decide)]
  have derived : derivedValue m j Standard.scope = derivedValue m i Standard.scope := by
    change j.ownScopes.or (j.during _ _) = i.ownScopes.or (i.during _ _)
    rw [listed, shown]
  refine (valuesOther Standard.scope).trans (Eq.trans ?_ (values Standard.scope).symm)
  rw [agreed Standard.scope (by decide), derived]

/-- **A list read through a reference.** Let a key hold a list in which each item expands within 31
levels, in an environment of static layers and process variables. The list resolves; every key that
is a reference to it reads as the texts of the resolved list with commas between them, and has the
same set of strings. If the vendor's scopes are such a reference, then the standard scope is the one
of any environment that has the list itself there and agrees on all other keys. -/
theorem list_through_reference (env : Environment) (fixed : env.Fixed) (listKey : String)
    (referable : Template.Referable listKey) (items : List Value)
    (held : env.property listKey = some (some (.list items)))
    (within : ∀ item ∈ items, ExpandsWithin env.property 31 item) :
    ∃ results, env.getResolved .value listKey = pure (.list results) ∧
      (∀ key, env.property key = some (some (.string (Template.reference listKey))) →
        env.getResolved (.scalar .text) key =
            pure (String.intercalate "," (results.filterMap Value.scalarText?)) ∧
          ∃ v, env.getResolved .value key = pure v ∧
            v.stringSet = (Value.list results).stringSet) ∧
      (env.property Vendor.scopes = some (some (.string (Template.reference listKey))) →
        ∀ other : Environment, other.Fixed →
          other.property Vendor.scopes = some (some (.list items)) → AgreeButScopes env other →
            ∀ m, (install (derivedLayers m) other).property Standard.scope =
              (install (derivedLayers m) env).property Standard.scope) := by
  obtain ⟨results, expands, referred⟩ := Expansion.exists_expanded_list referable held within
  have resolves : ∀ key, env.property key = some (some (.string (Template.reference listKey))) →
      env.getResolved .value key =
        pure (.string (String.intercalate "," (results.filterMap Value.scalarText?))) :=
    fun key refers => (Environment.getResolved_value_of_string refers).mpr ⟨_, referred, rfl⟩
  refine ⟨results, (Environment.getResolved_value_of_held held).trans expands,
    fun key refers => ⟨(Environment.getResolved_text_of_string refers).trans referred, _,
      resolves key refers, (StringSet.stringSet_list results).symm⟩, ?_⟩
  intro refers other fixedOther listed agree m
  -- An item may refer to the vendor's scopes, which are something else in the other environment.
  have relayed : Expansion.Relayed env.property other.property Vendor.scopes listKey := by
    refine ⟨agree, referable, ⟨_, refers, .scalar rfl⟩, ?_⟩
    rintro s ⟨v, same, spliced⟩
    obtain rfl := Option.some.inj (Option.some.inj (held.symm.trans same))
    exact ⟨_, listed, spliced⟩
  have resolvesOther : other.getResolved .value Vendor.scopes = pure (.list results) :=
    (Environment.getResolved_value_of_held listed).trans
      (Expansion.value_of_relayed relayed expands)
  exact scope_of_same_set fixed fixedOther agree (resolves _ refers) resolvesOther
    (StringSet.stringSet_list results).symm m

/-- A list with a reference among its items, nothing at all, several scopes in one, and a list. -/
def scopeItems : List Value :=
  [.string ("" ++ Template.reference "extra" ++ ""), .null, .string "openid , groups",
    .list [.string "x"]]

/-- A client whose scopes are set to the value, beside the list. -/
def scopesSetTo (v : Value) : Environment :=
  .ofSettings
    [(Vendor.issuer, .string "https://a.b"), (Vendor.clientId, .string "web"),
      ("extra", .string "groups"), ("app.scopes", .list scopeItems), (Vendor.scopes, v)]

theorem property_scopesSetTo (v : Value) (key : String) :
    (scopesSetTo v).property key = some (configured (scopesSetTo v).sources key) :=
  Environment.property_of_fixed (Environment.static_ofSettings _).fixed key

theorem agreeButScopes_scopesSetTo (v w : Value) :
    AgreeButScopes (scopesSetTo v) (scopesSetTo w) := by
  intro key other
  rw [property_scopesSetTo, property_scopesSetTo, scopesSetTo, scopesSetTo, configured_ofSettings,
    configured_ofSettings]
  simp only [List.reverse_cons, List.reverse_nil, List.nil_append, List.cons_append,
    Table.lookup_cons, if_neg other]

def referredScopes : Environment :=
  scopesSetTo (.string (Template.reference "app.scopes"))

theorem text_extra (levels : Nat) :
    Expansion.text referredScopes.property (levels + 1) ("" ++ Template.reference "extra" ++ "") =
      pure "groups" :=
  Expansion.text_reference_of_plain (by decide) (by decide) (by decide)
    (property_scopesSetTo _ "extra") (by decide) levels

theorem within_scopeItems :
    ∀ item ∈ scopeItems, ExpandsWithin referredScopes.property 31 item := by
  have single : ∀ raw t, Expansion.text referredScopes.property 31 raw = pure t →
      ExpandsWithin referredScopes.property 31 (.string raw) := by
    intro raw t gives s member
    rw [Value.strings, List.mem_singleton] at member
    exact ⟨t, member ▸ gives⟩
  have nothing : ExpandsWithin referredScopes.property 31 .null :=
    fun raw member => absurd member List.not_mem_nil
  have inner := Expansion.expandsWithin_list_iff.mpr <| List.forall_mem_singleton.mpr <|
    single "x" "x" (Expansion.text_of_plain (by decide) 31)
  simp only [scopeItems, List.forall_mem_cons]
  exact ⟨single _ _ (text_extra 30), nothing,
    single _ _ (Expansion.text_of_plain (by decide) 31), inner, List.forall_mem_nil _⟩

theorem value_scopeItems :
    Expansion.value referredScopes.property (.list scopeItems) =
      pure (.list [.string "groups", .null, .string "openid , groups", .list [.string "x"]]) := by
  have plain : ∀ s, Template.hasOpening s = false →
      Expansion.value referredScopes.property (.string s) = pure (.string s) := by
    intro s plain
    rw [Expansion.value, Expansion.text_of_plain plain, pure_bind]
  have first : Expansion.value referredScopes.property
      (.string ("" ++ Template.reference "extra" ++ "")) = pure (.string "groups") := by
    rw [Expansion.value, nestingLimit, text_extra, pure_bind]
  have inner : Expansion.value referredScopes.property (.list [.string "x"]) =
      pure (.list [.string "x"]) := by
    rw [Expansion.value, Expansion.values_eq_pure_iff.mpr (.cons (plain "x" (by decide)) .nil),
      pure_bind]
  have nothing : Expansion.value referredScopes.property .null = pure .null :=
    Expansion.value.eq_3 _ _ (by simp) (by simp)
  have each := Expansion.values_eq_pure_iff.mpr
    (.cons first (.cons nothing (.cons (plain "openid , groups" (by decide)) (.cons inner .nil))))
  rw [Expansion.value, scopeItems, each, pure_bind]

theorem list_through_reference_of_scopeItems :
    referredScopes.Fixed ∧ Template.Referable "app.scopes" ∧
      (∀ item ∈ scopeItems, ExpandsWithin referredScopes.property 31 item) ∧
      referredScopes.getResolved (.scalar .text) Vendor.scopes = pure "groups,openid , groups" ∧
      ∀ m, (install (derivedLayers m) (scopesSetTo (.list scopeItems))).property Standard.scope =
        (install (derivedLayers m) referredScopes).property Standard.scope := by
  have fixed : ∀ v, (scopesSetTo v).Fixed := fun v => (Environment.static_ofSettings _).fixed
  have held : referredScopes.property "app.scopes" = some (some (.list scopeItems)) :=
    property_scopesSetTo _ "app.scopes"
  have refers : referredScopes.property Vendor.scopes =
      some (some (.string (Template.reference "app.scopes"))) :=
    property_scopesSetTo _ Vendor.scopes
  obtain ⟨results, resolves, reads, same⟩ := list_through_reference referredScopes (fixed _)
    "app.scopes" (by decide) scopeItems held within_scopeItems
  rw [Environment.getResolved_value_of_held held, value_scopeItems, Reading.pure_inj,
    Value.list.injEq] at resolves
  subst resolves
  exact ⟨fixed _, by decide, within_scopeItems, (reads Vendor.scopes refers).1,
    same refers _ (fixed _) (property_scopesSetTo _ Vendor.scopes)
      (agreeButScopes_scopesSetTo _ _)⟩

end OAuth2

end ConfigStack
