import ConfigStack.Proofs.Extension
import ConfigStack.Proofs.OAuth2.DerivedValues

/-!
# Which source answers the standard scope

Two derived layers define the standard scope: one gives the scopes of the vendor's property, and
the one behind it those of the metadata. The first is silent when the vendor's scopes do not
resolve, so for a client with an issuer the second answers then as well, and not only where no
scope is set (`scope_answered_by`).
-/
namespace ConfigStack

namespace Environment

/-- The source that answers a key: the first that gives a value for it. -/
def answering (env : Environment) (key : String) : Option Source :=
  env.sources.find? fun s => ((s.get key).run env.ask).join.isSome

/-- A key reads as what the source gives that answers it, if every source comes to an end. -/
theorem property_eq_answering {env : Environment} {key : String}
    (ends : ∀ s ∈ env.sources, ∃ found, (s.get key).run env.ask = some found) :
    env.property key = some ((env.answering key).bind fun s => ((s.get key).run env.ask).join) := by
  refine (reads_property env 0 key).trans ?_
  rw [answering]
  change firstValue env.ask key env.sources = _
  -- Both are searches through the sources, the first to the last.
  generalize env.sources = sources at ends ⊢
  induction sources with
  | nil => rfl
  | cons first rest ih =>
    obtain ⟨found, asked⟩ := ends first List.mem_cons_self
    have later := ih fun s member => ends s (List.mem_cons_of_mem first member)
    rw [firstValue_cons, asked, Option.bind_some, List.find?_cons, asked]
    cases found with
    | none => exact later
    | some v =>
      change _ = some (((first.get key).run env.ask).join)
      rw [asked]
      rfl

/-- Where nothing is configured, what answers stands behind the sources that look at nothing. -/
theorem answering_append {env : Environment} {key : String} {fixed added : List Source}
    (split : env.sources = fixed ++ added) (alone : ∀ s ∈ fixed, s.Fixed)
    (unset : configured fixed key = none) :
    env.answering key = added.find? fun s => ((s.get key).run env.ask).join.isSome := by
  have silent : fixed.find? (fun s => ((s.get key).run env.ask).join.isSome) = none := by
    rw [List.find?_eq_none]
    intro s member
    rw [Source.get_of_not_asking (Source.not_asking_of_fixed (alone s member) key),
      Inquiry.run_done, List.findSome?_eq_none_iff.mp unset s member]
    exact Bool.false_ne_true
  rw [answering, split, List.find?_append, silent, Option.none_or]

end Environment

namespace OAuth2

open Oidc (Metadata)

/-- For a client with an issuer and no scope under the standard name, that name is answered by the
vendor's scopes if they resolve and there are any, and else by those of the metadata. -/
theorem answering_scope {env : Environment} (fixed : env.Fixed) (m : Metadata)
    (issuer : env.contains Vendor.issuer = some true)
    (clientId : env.contains Vendor.clientId = some true)
    (unset : env.contains Standard.scope = some false) {i : Inputs}
    (given : i.given = configured env.sources)
    (answers : Answers (install (derivedLayers m) env).ask i) :
    (install (derivedLayers m) env).answering Standard.scope =
      some (.layer (if i.ownScopes.isSome then configuredScopes else defaultScopes m)) := by
  have nothing := Environment.configured_of_not_contains fixed unset
  have during := Inputs.during_of_contains fixed given
    (List.forall_mem_cons.mpr ⟨issuer, List.forall_mem_singleton.mpr clientId⟩)
    (.ofStrings m.scopes)
  rw [Environment.answering_append (sources_install _ env) fixed nothing]
  generalize (install (derivedLayers m) env).ask = oracle at answers ⊢
  -- The aliases do not define the key, and the default scopes are shown.
  have aliases : clientAliases.get Standard.scope = .done none := by
    rw [clientAliases_get, if_neg (by decide), if_neg (by decide)]
  have shown : ((defaultScopes m).get Standard.scope).run oracle =
      some (some (.ofStrings m.scopes)) := by
    rw [defaultScopes, run_during answers (by decide)]
    exact congrArg some during
  simp only [derivedLayers, List.cons_append, List.nil_append, List.map_cons, List.find?_cons,
    Source.get, aliases, Inquiry.run_done, run_configuredScopes answers, shown]
  cases i.ownScopes with
  | none => rfl
  | some v => rfl

/-- A key that resolves by what is configured alone resolves to the same among derived layers,
while an expansion may be opened. -/
theorem reads_resolved_of_configured {env : Environment} (fixed : env.Fixed) (m : Metadata)
    {opened : Nat} (within : opened < nestingLimit) {key : String} {v : Value}
    (gives : env.getResolved .value key = pure v) :
    (install (derivedLayers m) env).reads opened (.resolved key) = some (some v) := by
  obtain ⟨i, -, -, -, property⟩ := reads_install fixed m (opened + 1)
  have keeps : ∀ k w, env.property k = some (some w) →
      (install (derivedLayers m) env).reads (opened + 1) (.property k) = some (some w) := by
    intro k w held
    rw [Environment.property_of_fixed fixed, Option.some.injEq] at held
    rw [property, held, Option.some_or]
  obtain ⟨raw, required, -⟩ := Reading.bind_eq_pure.mp gives
  have held := Environment.require_eq_pure_iff.mp required
  rw [Environment.getResolved_value_of_held held] at gives
  exact Environment.reads_resolved_eq_some_iff.mpr
    ⟨within, raw, keeps key raw held, Expansion.value_mono keeps gives⟩

/-- Scopes that are absent have no value to resolve. -/
theorem resolved_scopes_of_absent {env : Environment} (fixed : env.Fixed) (m : Metadata)
    (absent : env.contains Vendor.scopes = some false) :
    (install (derivedLayers m) env).resolved Vendor.scopes = some none := by
  have unread := reads_property_of_assembled (assembled_install fixed m)
    (by decide : Vendor.scopes ∉ derivedKeys) 1
  rw [configured_install, Environment.configured_of_not_contains fixed absent] at unread
  exact Environment.reads_resolved_of_absent unread

theorem eq_defaultScopes_iff (own : Bool) (m : Metadata) :
    (if own = true then configuredScopes else defaultScopes m) = defaultScopes m ↔ own = false := by
  cases own with
  | true => exact ⟨nofun, nofun⟩
  | false => exact ⟨fun _ => rfl, fun _ => rfl⟩

theorem eq_configuredScopes_iff (own : Bool) (m : Metadata) :
    (if own = true then configuredScopes else defaultScopes m) = configuredScopes ↔
      own = true := by
  cases own with
  | true => exact ⟨fun _ => rfl, fun _ => rfl⟩
  | false => exact ⟨nofun, nofun⟩

/-- **Which layer answers the standard scope.** For a client with an issuer and without a standard
scope of its own, the scopes of the metadata answer exactly if the vendor's scopes are absent, or
list no scope, or are set and do not resolve; otherwise those that the vendor's property lists do.
For scopes that resolve by what is configured alone, the last case does not arise. -/
theorem scope_answered_by (env : Environment) (fixed : env.Fixed) (m : Metadata)
    (issuer : env.contains Vendor.issuer = some true)
    (clientId : env.contains Vendor.clientId = some true)
    (unset : env.contains Standard.scope = some false) :
    ((install (derivedLayers m) env).answering Standard.scope = some (.layer (defaultScopes m)) ↔
      env.contains Vendor.scopes = some false ∨
        (∃ v, (install (derivedLayers m) env).resolved Vendor.scopes = some (some v) ∧
          v.stringSet = []) ∨
        (env.contains Vendor.scopes = some true ∧
          (install (derivedLayers m) env).resolved Vendor.scopes = some none)) ∧
    ((install (derivedLayers m) env).answering Standard.scope = some (.layer configuredScopes) ↔
      ∃ v, (install (derivedLayers m) env).resolved Vendor.scopes = some (some v) ∧
        v.stringSet ≠ []) ∧
    ∀ v, env.getResolved .value Vendor.scopes = pure v →
      ((install (derivedLayers m) env).answering Standard.scope = some (.layer (defaultScopes m)) ↔
        v.stringSet = []) := by
  have assembled := assembled_install fixed m
  obtain ⟨scopes, resolved⟩ := reads_answered assembled 0 (.resolved Vendor.scopes)
  obtain ⟨base, resolvedIssuer⟩ := reads_answered assembled 0 (.resolved Vendor.issuer)
  have answers := answers_install fixed m 0 ⟨resolved, resolvedIssuer⟩
  have answering := answering_scope fixed m issuer clientId unset rfl answers
  have listed := Inputs.isSome_ownScopes_iff ⟨configured env.sources, scopes, base⟩
  generalize (Inputs.ownScopes _).isSome = own at answering listed
  simp only at listed
  change (install (derivedLayers m) env).resolved Vendor.scopes = some scopes at resolved
  simp only [answering, resolved, Option.some.injEq, Source.layer.injEq, eq_defaultScopes_iff,
    eq_configuredScopes_iff]
  have silent : own = false ↔ scopes = none ∨ ∃ v, scopes = some v ∧ v.stringSet = [] := by
    rw [← Bool.not_eq_true, listed]
    cases scopes with
    | none => exact ⟨fun _ => .inl rfl, fun _ => nofun⟩
    | some v => simp
  refine ⟨silent.trans ⟨?_, ?_⟩, listed, fun v gives => ?_⟩
  · rintro (none | empty)
    · rcases present : env.contains Vendor.scopes with _ | _ | _
      · rw [Environment.contains_of_fixed fixed] at present
        cases present
      · exact .inl rfl
      · exact .inr (.inr ⟨rfl, none⟩)
    · exact .inr (.inl empty)
  · rintro (absent | empty | ⟨-, none⟩)
    · have nothing := resolved_scopes_of_absent fixed m absent
      exact .inl (Option.some.inj (resolved.symm.trans nothing))
    · exact .inr empty
    · exact .inl none
  · have alone := reads_resolved_of_configured fixed m (by decide : 0 < nestingLimit) gives
    obtain rfl : scopes = some v := Option.some.inj (resolved.symm.trans alone)
    simp [silent]

/-- An issuer, a client, and scopes that refer to a key without a value. -/
def unresolvedScopes : Environment :=
  .ofSettings
    [(Vendor.issuer, .string "https://a.b"), (Vendor.clientId, .string "web"),
      (Vendor.scopes, .string ("" ++ Template.reference "missing" ++ ""))]

theorem scope_answered_by_of_unresolvedScopes :
    unresolvedScopes.contains Vendor.issuer = some true ∧
      unresolvedScopes.contains Vendor.clientId = some true ∧
      unresolvedScopes.contains Standard.scope = some false ∧
      ∀ m, (∃ e, (install (derivedLayers m) unresolvedScopes).getResolved .value Vendor.scopes =
          throw e) ∧
        (install (derivedLayers m) unresolvedScopes).answering Standard.scope =
          some (.layer (defaultScopes m)) := by
  have fixed : unresolvedScopes.Fixed := (Environment.static_ofSettings _).fixed
  have contains := Environment.contains_of_fixed fixed
  have issuer := contains Vendor.issuer
  have clientId := contains Vendor.clientId
  have unset := contains Standard.scope
  refine ⟨issuer, clientId, unset, fun m => ?_⟩
  have assembled := assembled_install fixed m
  have held := reads_property_of_assembled assembled (by decide : Vendor.scopes ∉ _)
  have missing := reads_property_of_assembled assembled (by decide : "missing" ∉ _)
  simp only [configured_install] at held missing
  have refused : ∀ opened, ∃ e, Expansion.value
      (fun k => (install (derivedLayers m) unresolvedScopes).reads opened (.property k))
        (.string ("" ++ Template.reference "missing" ++ "")) = throw e := by
    intro opened
    rw [Expansion.value]
    exact ⟨_, Reading.bind_eq_throw.mpr <| .inl <|
      Expansion.text_reference_of_absent rfl rfl (by decide) (missing opened) 31⟩
  constructor
  · rw [Environment.getResolved_value_of_held (held 0)]
    exact refused 0
  · apply (scope_answered_by unresolvedScopes fixed m issuer clientId unset).1.mpr
    refine .inr (.inr ⟨contains Vendor.scopes, ?_⟩)
    obtain ⟨e, fails⟩ := refused 1
    refine (Environment.reads_resolved_of_held (by decide) (held 1)).trans ?_
    exact congrArg (fun x => x.run.map Except.toOption) fails

end OAuth2

end ConfigStack
