import ConfigStack.Proofs.OAuth2.DerivedValues

/-!
# Changes of an environment

After the set-up an environment is still open to changes: sources come in before or behind what it
has, and the set-up itself may run again. No change takes anything away, so the derived layers
that were put in place stay there, and every source is one that was there, one that a change
brought, or a derived layer.
-/
namespace ConfigStack.OAuth2

open Oidc (Metadata)

inductive Change where
  | addFirst (s : Source)
  | addLast (s : Source)
  | install (m : Metadata)

/-- The environment after a change. -/
def Change.apply (env : Environment) : Change → Environment
  | .addFirst s => env.addFirst s
  | .addLast s => env.addLast s
  | .install m => OAuth2.install (derivedLayers m) env

/-- The sources that the change adds by themselves are of one kind, and the metadata whose layers it
puts in place of another. -/
def Change.Brings (kind : Source → Prop) (metadata : Metadata → Prop) : Change → Prop
  | .addFirst s => kind s
  | .addLast s => kind s
  | .install m => metadata m

/-- The environment after some changes. -/
def changed (env : Environment) (changes : List Change) : Environment :=
  changes.foldl Change.apply env

/-- Every source is of one kind, or a derived layer of metadata of another. -/
def Composed (kind : Source → Prop) (metadata : Metadata → Prop) (env : Environment) : Prop :=
  ∀ s ∈ env.sources, kind s ∨ ∃ m, metadata m ∧ ∃ l ∈ derivedLayers m, s = .layer l

section Changes

variable {kind : Source → Prop} {metadata : Metadata → Prop} {env : Environment}

/-! ### One change -/

theorem Composed.apply (composed : Composed kind metadata env) {change : Change}
    (brings : change.Brings kind metadata) : Composed kind metadata (change.apply env) := by
  intro s member
  cases change with
  | addFirst added =>
    rcases List.mem_cons.mp member with rfl | earlier
    · exact .inl brings
    · exact composed s earlier
  | addLast added =>
    rcases List.mem_append.mp member with earlier | last
    · exact composed s earlier
    · obtain rfl := List.mem_singleton.mp last
      exact .inl brings
  | install m =>
    rw [Change.apply, sources_install, List.mem_append] at member
    rcases member with earlier | derived
    · exact composed s earlier
    · obtain ⟨l, own, rfl⟩ := List.mem_map.mp derived
      exact .inr ⟨m, brings, l, own, rfl⟩

theorem mem_sources_apply {s : Source} (member : s ∈ env.sources) (change : Change) :
    s ∈ (change.apply env).sources := by
  cases change with
  | addFirst added => exact List.mem_cons_of_mem added member
  | addLast added => exact List.mem_append_left _ member
  | install m =>
    rw [Change.apply, sources_install]
    exact List.mem_append_left _ member

/-! ### A run of changes -/

theorem Composed.changed {changes : List Change} (composed : Composed kind metadata env)
    (brings : ∀ change ∈ changes, change.Brings kind metadata) :
    Composed kind metadata (changed env changes) := by
  induction changes generalizing env with
  | nil => exact composed
  | cons change rest ih =>
    rw [List.forall_mem_cons] at brings
    exact ih (composed.apply brings.1) brings.2

theorem mem_sources_changed {s : Source} (member : s ∈ env.sources) (changes : List Change) :
    s ∈ (changed env changes).sources := by
  induction changes generalizing env with
  | nil => exact member
  | cons change rest ih => exact ih (mem_sources_apply member change)

/-- What was put in place once is there at the end. -/
theorem mem_sources_of_install {changes : List Change} {m : Metadata}
    (installed : .install m ∈ changes) {l : Layer} (derived : l ∈ derivedLayers m) :
    .layer l ∈ (changed env changes).sources := by
  obtain ⟨before, after, rfl⟩ := List.append_of_mem installed
  rw [OAuth2.changed, List.foldl_append, List.foldl_cons]
  apply mem_sources_changed
  rw [Change.apply, sources_install]
  exact List.mem_append_right _ (List.mem_map_of_mem derived)

/-! ### What a composed environment answers -/

theorem Composed.assembled (composed : Composed kind metadata env)
    (fixed : ∀ s, kind s → s.Fixed) : Assembled env := by
  intro s member
  rcases composed s member with own | ⟨m, -, l, derived, rfl⟩
  · exact .inl (fixed s own)
  · exact .inr ⟨m, l, derived, rfl⟩

/-- Only a derived layer that defines a key has to ask about it. -/
theorem Composed.definer_of_asking (composed : Composed kind metadata env)
    (fixed : ∀ s, kind s → s.Fixed) {s : Source} (member : s ∈ env.sources) {key : String}
    (asking : key ∈ s.askingOn) :
    ∃ m, metadata m ∧ ∃ l ∈ definers m key, s = .layer l := by
  rcases composed s member with own | ⟨m, kept, l, derived, rfl⟩
  · exact absurd asking (Source.not_asking_of_fixed (fixed s own) key)
  · exact ⟨m, kept, l, (asking_iff_definers derived key).mp asking, rfl⟩

/-- Nobody configures a key that no source of the kind has a value for. -/
theorem Composed.configured_eq_none (composed : Composed kind metadata env) {key : String}
    (unset : ∀ s ∈ env.sources, kind s → s.ownValue key = none) :
    configured env.sources key = none := by
  rw [configured, List.findSome?_eq_none_iff]
  intro s member
  rcases composed s member with own | ⟨m, -, l, derived, rfl⟩
  · exact unset s member own
  · exact ownValue_derivedLayers derived key

/-- With the aliases in place there are inputs that give the derived layers their answers. -/
theorem exists_answers (assembled : Assembled env) (aliased : .layer clientAliases ∈ env.sources) :
    ∃ i : Inputs, i.given = configured env.sources ∧ env.resolved Vendor.issuer = some i.issuer ∧
      Answers (env.reads 0) i := by
  obtain ⟨scopes, readScopes⟩ := reads_answered assembled 0 (.resolved Vendor.scopes)
  obtain ⟨issuer, readIssuer⟩ := reads_answered assembled 0 (.resolved Vendor.issuer)
  exact ⟨⟨configured env.sources, scopes, issuer⟩, rfl, readIssuer,
    answers_of_assembled assembled aliased ⟨readScopes, readIssuer⟩⟩

/-- A key that nobody configures has the value in its row, wherever the layer stands that defines
it. -/
theorem property_of_definers {m : Metadata} (composed : Composed kind (· = m) env)
    (fixed : ∀ s, kind s → s.Fixed) {i : Inputs} (answers : Answers (env.reads 0) i)
    {key : String} {l : Layer} (alone : definers m key = [l])
    (installed : ∀ l ∈ derivedLayers m, .layer l ∈ env.sources)
    (unset : configured env.sources key = none) {v : Value} (row : derivedValue m i key = some v) :
    env.property key = some (some v) := by
  have alike : ∀ s ∈ env.sources, key ∈ s.askingOn →
      (s.get key).run (env.reads 0) = some (some v) := by
    intro s member asking
    obtain ⟨m', rfl, l', defines, rfl⟩ := composed.definer_of_asking fixed member asking
    rw [alone] at defines
    obtain rfl := List.mem_singleton.mp defines
    rw [Source.get, run_get_of_definers answers alone, row]
  have asked : ∃ s ∈ env.sources, key ∈ s.askingOn := by
    have defines : l ∈ definers m key := alone ▸ List.mem_singleton_self l
    have derived := mem_of_definers defines
    exact ⟨.layer l, installed l derived, (asking_iff_definers derived key).mpr defines⟩
  have read := env.reads_property 0 key
  rw [firstValue_of_asking unset alike asked] at read
  exact read

/-- A key that resolves is configured, if no derived layer defines it. -/
theorem has_of_resolved (assembled : Assembled env) {i : Inputs}
    (given : i.given = configured env.sources) {key : String} (foreign : key ∉ derivedKeys)
    {w : Value} (resolved : env.resolved key = some (some w)) : i.has key = true := by
  obtain ⟨-, v, held, -⟩ := Environment.reads_resolved_eq_some_iff.mp resolved
  rw [reads_property_of_assembled assembled foreign, ← given, Option.some.injEq] at held
  rw [Inputs.has, held]
  rfl

end Changes

end ConfigStack.OAuth2
