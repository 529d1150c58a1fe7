import ConfigStack.Proofs.OAuth2.Assembled
import ConfigStack.Proofs.SearchAlike

/-!
# Rearranging and repeating derived layers

Only the scopes have two derived layers, one for those that are configured and one for the default;
every other derived key has one. So the derived layers can be put in place in any order that keeps
these two in theirs, and putting them in place once more changes nothing.
-/
namespace ConfigStack.OAuth2

open Oidc (Metadata)
open Environment (ReadsAlike)

/-- Every key but the scopes has at most one derived layer. -/
theorem definers_length_le_one (m : Metadata) {key : String} (other : key ≠ Standard.scope) :
    (definers m key).length ≤ 1 := by
  have opaqueTokens_length : (opaqueTokens m).toList.length ≤ 1 := by
    cases opaqueTokens m <;> simp
  rw [definers, if_neg other]
  repeat' split
  · exact Nat.le_refl 1
  · exact Nat.le_refl 1
  · exact Nat.le_refl 1
  · exact opaqueTokens_length
  · exact Nat.le_refl 1
  · exact Nat.le_refl 1
  · exact Nat.zero_le 1

/-- In an order that keeps the layers of the scopes in theirs, every key has the same layers in the
same order. -/
theorem filter_of_perm {m : Metadata} {layers : List Layer} (perm : layers.Perm (derivedLayers m))
    (scopesFirst : [configuredScopes, defaultScopes m].Sublist layers) (key : String) :
    layers.filter (fun l => key ∈ l.definedKeys) = definers m key := by
  have same : (layers.filter fun l => key ∈ l.definedKeys).Perm (definers m key) := by
    rw [← filter_derivedLayers]
    exact perm.filter _
  by_cases scope : key = Standard.scope
  · subst scope
    -- The two layers are a part of the list in their order, and it has no others.
    have both : [configuredScopes, defaultScopes m].filter
        (fun l => Standard.scope ∈ l.definedKeys) = [configuredScopes, defaultScopes m] := by
      simp [mem_definedKeys_configuredScopes, mem_definedKeys_defaultScopes]
    have part := scopesFirst.filter fun l => Standard.scope ∈ l.definedKeys
    rw [both] at part
    exact (part.eq_of_length same.length_eq.symm).symm
  · have short := definers_length_le_one m scope
    rcases one : definers m key with _ | ⟨l, rest⟩
    · rw [one] at same
      exact same.eq_nil
    · rw [one] at same short
      obtain rfl : rest = [] := List.length_eq_zero_iff.mp (by simpa using short)
      exact List.perm_singleton.mp same

/-- **Layers that share no key can be exchanged.** Two layers that stand next to each other and
define no key in common can be exchanged, in every environment, whatever layers it is made of and
whatever they compute: no read changes, and one that never ends still does not. Hence the derived
layers of any metadata can be put in place in any order in which the layer of the configured scopes
comes before that of the default scopes, and no read of any environment changes. -/
theorem disjoint_layers_commute :
    (∀ (profile : String) (above below : List Source) (x y : Layer),
      (∀ key ∈ x.definedKeys, key ∉ y.definedKeys) →
        ReadsAlike ⟨profile, above ++ [.layer x, .layer y] ++ below⟩
          ⟨profile, above ++ [.layer y, .layer x] ++ below⟩) ∧
      ∀ (env : Environment) (m : Metadata) (layers : List Layer),
        layers.Perm (derivedLayers m) →
          [configuredScopes, defaultScopes m].Sublist layers →
            ReadsAlike (install (derivedLayers m) env) (install layers env) := by
  constructor
  · intro profile above below x y disjoint
    apply Environment.readsAlike_of_searchAlike
    exact searchAlike_of_filter [x, y] [y, x] (filter_of_disjoint disjoint) above below
  · intro env m layers perm scopesFirst
    apply Environment.readsAlike_of_searchAlike
    have alike := searchAlike_of_filter (derivedLayers m) layers
      (fun key => (filter_derivedLayers m key).trans (filter_of_perm perm scopesFirst key).symm)
      env.sources []
    rwa [List.append_nil, List.append_nil, ← sources_install, ← sources_install] at alike

/-- The settings of a client without a secret. -/
def mobileApp : Environment :=
  .ofSettings [(Vendor.issuer, .string "https://a.b"), (Vendor.clientId, .string "app")]

/-- The aliases stand in front of the layer that the secret among them would hide, and may as well
stand behind it; and the redirect may come in front of all derived layers. -/
theorem disjoint_layers_commute_of_mobileApp :
    let m : Metadata := .fallback Vendor.issuerWithPath
    (∀ key ∈ clientAliases.definedKeys, key ∉ (publicClient m).definedKeys) ∧
      ReadsAlike
        ⟨"prod", mobileApp.sources ++ [.layer clientAliases, .layer (publicClient m)] ++ []⟩
        ⟨"prod", mobileApp.sources ++ [.layer (publicClient m), .layer clientAliases] ++ []⟩ ∧
      ∃ layers : List Layer, layers.Perm (derivedLayers m) ∧
        [configuredScopes, defaultScopes m].Sublist layers ∧ layers.head? = some redirect ∧
          ReadsAlike (install (derivedLayers m) mobileApp) (install layers mobileApp) := by
  intro m
  have disjoint : ∀ key ∈ clientAliases.definedKeys, key ∉ (publicClient m).definedKeys := by
    intro key own shared
    rw [mem_definedKeys_publicClient] at shared
    rw [mem_definedKeys_clientAliases, shared] at own
    revert own
    decide
  refine ⟨disjoint, disjoint_layers_commute.1 "prod" mobileApp.sources [] _ _ disjoint, ?_⟩
  let front : List Layer := redirect :: ([clientAliases, configuredScopes, defaultScopes m,
    endpointBase m.style, endpoints m] ++ (opaqueTokens m).toList ++ [publicClient m])
  have perm : front.Perm (derivedLayers m) := List.perm_middle.symm
  have scopesFirst : [configuredScopes, defaultScopes m].Sublist front :=
    (((List.nil_sublist _).cons_cons _).cons_cons _).cons _ |>.cons _
  exact ⟨front, perm, scopesFirst, rfl, disjoint_layers_commute.2 _ m front perm scopesFirst⟩

/-- **What an environment has can be added again.** A source that stands in the list already can be
added behind all others, whatever kinds of sources there are: no read changes. In particular the
derived layers can be put in place a second time. -/
theorem addLast_of_present (env : Environment) :
    (∀ s ∈ env.sources, ReadsAlike env (env.addLast s)) ∧
      ∀ m : Metadata, ReadsAlike (install (derivedLayers m) env)
        (install (derivedLayers m) (install (derivedLayers m) env)) := by
  constructor
  · intro s member
    apply Environment.readsAlike_of_searchAlike
    apply searchAlike_append
    intro again last
    rwa [List.mem_singleton.mp last]
  · intro m
    apply Environment.readsAlike_of_searchAlike
    rw [sources_install _ (install _ env)]
    apply searchAlike_append
    intro again last
    rw [sources_install]
    exact List.mem_append_right _ last

/-- The layer that a secret would hide, added once more to an environment that has it. -/
theorem addLast_of_present_of_mobileApp :
    let m : Metadata := .fallback Vendor.issuerWithPath
    let installed := install (derivedLayers m) mobileApp
    .layer (publicClient m) ∈ installed.sources ∧
      ReadsAlike installed (installed.addLast (.layer (publicClient m))) ∧
      ReadsAlike installed (install (derivedLayers m) installed) := by
  intro m installed
  have present : .layer (publicClient m) ∈ installed.sources := by
    rw [sources_install]
    exact List.mem_append_right _ (List.mem_map_of_mem (by simp [derivedLayers]))
  exact ⟨present, (addLast_of_present installed).1 _ present, (addLast_of_present mobileApp).2 m⟩

end ConfigStack.OAuth2
