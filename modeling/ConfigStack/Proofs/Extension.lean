import ConfigStack.OAuth2.Derivation
import ConfigStack.Proofs.ExpansionTree

/-!
# Sources added behind others

What an environment of static layers and process variables gives, it still gives when sources of
any kind are added behind it. For a value this is the order of the search. A value is expanded
against the whole of the larger environment, but its expansion tree names only keys that had
values before; so the tree of the smaller environment is one of the larger environment too, with
the same result.
-/
namespace ConfigStack

namespace Expansion

variable {property more : String → Option (Option Value)}

/-- Where every text that expands goes on to do so, and to the same, so does every value. -/
theorem value_of_texts
    (texts : ∀ raw t, text property nestingLimit raw = pure t → text more nestingLimit raw = pure t)
    {v expanded : Value} (gives : value property v = pure expanded) :
    value more v = pure expanded := by
  -- Along the recursion of the expansion through the items of lists.
  induction v using Expansion.value.induct
    (motive_2 := fun items => ∀ results, values property items = pure results →
      values more items = pure results) generalizing expanded with
  | case1 s =>
    rw [value, Reading.bind_eq_pure] at gives ⊢
    obtain ⟨t, first, rest⟩ := gives
    exact ⟨t, texts s t first, rest⟩
  | case2 items ih =>
    rw [value, Reading.bind_eq_pure] at gives ⊢
    obtain ⟨results, first, rest⟩ := gives
    exact ⟨results, ih results first, rest⟩
  | case3 v notString notList =>
    rw [value.eq_3 _ _ notString notList] at gives ⊢
    exact gives
  | case4 results gives => exact gives
  | case5 item rest first others results gives =>
    rw [values, Reading.bind_eq_pure] at gives ⊢
    obtain ⟨head, here, behind⟩ := gives
    obtain ⟨tail, later, joined⟩ := Reading.bind_eq_pure.mp behind
    exact ⟨head, first here, Reading.bind_eq_pure.mpr ⟨tail, others tail later, joined⟩⟩

variable (keeps : ∀ key v, property key = some (some v) → more key = some (some v))

include keeps

theorem Tree.Grounded.mono {tree : Tree} (grounded : tree.Grounded property) :
    tree.Grounded more := by
  induction tree with
  | plain rest => exact grounded
  | reference literal written inner after ihInner ihAfter =>
    obtain ⟨plain, unbraced, ⟨s, ⟨v, held, spliced⟩, same⟩, groundedInner, groundedAfter⟩ :=
      grounded
    exact ⟨plain, unbraced, ⟨s, ⟨v, keeps _ v held, spliced⟩, same⟩, ihInner groundedInner,
      ihAfter groundedAfter⟩

theorem text_mono {levels : Nat} {raw result : String}
    (gives : text property levels raw = pure result) : text more levels raw = pure result := by
  obtain ⟨tree, expands, same⟩ := text_eq_pure_iff.mp gives
  exact text_eq_pure_iff.mpr
    ⟨tree, ⟨expands.source, expands.grounded.mono keeps, expands.nesting⟩, same⟩

theorem value_mono {v expanded : Value} (gives : value property v = pure expanded) :
    value more v = pure expanded :=
  value_of_texts (fun _ _ => text_mono keeps) gives

end Expansion

namespace Environment

variable {env : Environment} (fixed : env.Fixed) (added : List Source) {key : String}

include fixed

theorem property_addLast {v : Value} (held : env.property key = some (some v)) :
    (added.foldl addLast env).property key = some (some v) := by
  rw [property_of_fixed fixed, Option.some.injEq] at held
  rw [foldl_addLast]
  -- The search is over before it comes to what was added.
  refine (reads_property _ 0 key).trans ?_
  rw [firstValue_append, firstValue_of_not_asking _ fun s member =>
    Source.not_asking_of_fixed (fixed s member) key, Option.bind_some, held]

theorem readResolved_addLast {α : Type} {read : Value → String → Except ConfigError α} {x : α}
    (gives : env.readResolved read key = pure x) :
    (added.foldl addLast env).readResolved read key = pure x := by
  obtain ⟨v, required, rest⟩ := Reading.bind_eq_pure.mp gives
  obtain ⟨expanded, expands, reads⟩ := Reading.bind_eq_pure.mp rest
  have held := property_addLast fixed added (require_eq_pure_iff.mp required)
  rw [readResolved_of_held read held, Reading.bind_eq_pure]
  exact ⟨expanded, Expansion.value_mono (fun k w => property_addLast fixed added) expands, reads⟩

end Environment

/-- **Added sources change nothing that was there.** With any sources added behind static layers
and process variables, a key that had a value has the same value, and a resolved read that had a
result, read as a target or in any other way, has the same result. -/
theorem kept_by_addLast (env : Environment) (fixed : env.Fixed) (added : List Source)
    (key : String) :
    (∀ v, env.property key = some (some v) →
      (added.foldl Environment.addLast env).property key = some (some v)) ∧
    (∀ (target : Target) (x : target.Result), env.getResolved target key = pure x →
      (added.foldl Environment.addLast env).getResolved target key = pure x) ∧
    ∀ (α : Type) (read : Value → String → Except ConfigError α) (x : α),
      env.readResolved read key = pure x →
        (added.foldl Environment.addLast env).readResolved read key = pure x :=
  ⟨fun _ held => Environment.property_addLast fixed added held,
    fun _ _ gives => Environment.readResolved_addLast fixed added gives,
    fun _ _ _ gives => Environment.readResolved_addLast fixed added gives⟩

/-- An endpoint of the operator's own, which names the issuer. -/
def ownEndpoint : Environment :=
  .ofSettings
    [(OAuth2.Vendor.issuer, .string "a.b"),
      (OAuth2.Standard.tokenUri,
        .string ("https://login." ++ Template.reference OAuth2.Vendor.issuer ++ "/token"))]

theorem kept_by_addLast_of_ownEndpoint :
    ownEndpoint.Fixed ∧
      (((OAuth2.derivedLayers (.fallback OAuth2.Vendor.issuerWithPath)).map Source.layer).foldl
        Environment.addLast ownEndpoint).getResolved (.scalar .text) OAuth2.Standard.tokenUri =
          pure "https://login.a.b/token" := by
  have fixed : ownEndpoint.Fixed := (Environment.static_ofSettings _).fixed
  have held := Environment.property_of_fixed fixed OAuth2.Standard.tokenUri
  have issuer := Environment.property_of_fixed fixed OAuth2.Vendor.issuer
  refine ⟨fixed, (kept_by_addLast ownEndpoint fixed _ OAuth2.Standard.tokenUri).2.1 _ _ ?_⟩
  refine (Environment.getResolved_text_of_string held).trans ?_
  exact Expansion.text_reference_of_plain (by decide) (by decide) (by decide) issuer (by decide) 31

end ConfigStack
