import ConfigStack.Proofs.OAuth2.Changes

/-!
# Public clients

The authentication method of a client without a secret is decided at every read, against all
sources there are by then. So it is never there beside a secret: a secret that some source brings,
under either of its names and before or behind the derived layers, takes the method away.
-/
namespace ConfigStack.OAuth2

open Oidc (Metadata)

/-- A source that looks at nothing else and has no authentication method of its own. -/
def Methodless (s : Source) : Prop :=
  s.Fixed ∧ s.ownValue Standard.clientAuthMethod = none

theorem isSome_duringWithoutSecret (i : Inputs) (keys : List String) (v : Value) :
    (i.duringWithoutSecret keys v).isSome = (keys.all i.has && !i.hasSecret) := by
  rw [Inputs.duringWithoutSecret, Inputs.during]
  cases i.hasSecret <;> cases keys.all i.has <;> rfl

section Composed

variable {env : Environment} {metadata : Metadata → Prop} {i : Inputs}

/-- Whichever metadata they are of, the layers for public clients show a method or show none
together. -/
theorem contains_clientAuthMethod (composed : Composed Methodless metadata env)
    (answers : Answers (env.reads 0) i) {m : Metadata}
    (installed : .layer (publicClient m) ∈ env.sources) :
    env.contains Standard.clientAuthMethod =
      some ([Vendor.issuer, Vendor.clientId].all i.has && !i.hasSecret) := by
  have unset : configured env.sources Standard.clientAuthMethod = none :=
    composed.configured_eq_none fun s _ methodless => methodless.2
  have alike : ∀ s ∈ env.sources, Standard.clientAuthMethod ∈ s.askingOn →
      (s.contains Standard.clientAuthMethod).run (env.reads 0) =
        some ([Vendor.issuer, Vendor.clientId].all i.has && !i.hasSecret) := by
    intro s member asking
    obtain ⟨m, -, l, defines, rfl⟩ :=
      composed.definer_of_asking (fun s methodless => methodless.1) member asking
    obtain rfl : l = publicClient m := List.mem_singleton.mp defines
    have given := run_get_of_definers answers
      (rfl : definers m Standard.clientAuthMethod = [publicClient m])
    -- The method may differ from layer to layer; whether there is one does not.
    rw [Source.run_contains (env.reads_coherent 0), Source.get, given, Option.map_some,
      ← isSome_duringWithoutSecret i _ (.string m.authMethod)]
    rfl
  have defines : publicClient m ∈ definers m Standard.clientAuthMethod :=
    List.mem_singleton_self _
  have asks : env.sources.any (fun s => Standard.clientAuthMethod ∈ s.askingOn) = true := by
    have asking := (asking_iff_definers (mem_of_definers defines) _).mpr defines
    exact List.any_eq_true.mpr ⟨_, installed, decide_eq_true asking⟩
  have read := env.reads_contains 0 Standard.clientAuthMethod
  rw [anyDefines_of_asking alike, unset, asks] at read
  exact read

/-- A secret is there exactly if some source brings one, under its standard name or the vendor's. -/
theorem contains_clientSecret_iff (given : i.given = configured env.sources)
    (answers : Answers (env.reads 0) i) :
    env.contains Standard.clientSecret = some true ↔
      ∃ s ∈ env.sources, (s.ownValue Standard.clientSecret).isSome ∨
        (s.ownValue Vendor.clientSecret).isSome := by
  have read : env.contains Standard.clientSecret = some i.hasSecret := answers.secret
  have brought : ∀ key, (configured env.sources key).isSome = true ↔
      ∃ s ∈ env.sources, (s.ownValue key).isSome = true := by
    intro key
    rw [configured, List.findSome?_isSome_iff]
  rw [read, Option.some.injEq, Inputs.hasSecret, Inputs.has, Inputs.has, given, Bool.or_eq_true,
    brought, brought, ← exists_or]
  simp only [← and_or_left]

end Composed

/-- **Secret or method.** For every run of changes of the empty environment that adds static layers
and process variables without a method of their own, and puts derived layers in place at least
once, of whatever metadata: the method is there if and only if an issuer and a client id are and
the standard secret is not. So the two are never there together, and any source with a secret,
wherever it was added, takes the method away. -/
theorem method_iff_no_secret (profile : String) (changes : List Change)
    (additions : ∀ change ∈ changes, change.Brings Methodless fun _ => True)
    (installed : ∃ m, .install m ∈ changes) :
    let env := changed (.new profile) changes
    (∀ key, ∃ present, env.contains key = some present) ∧
      (env.contains Standard.clientAuthMethod = some true ↔
        env.contains Vendor.issuer = some true ∧ env.contains Vendor.clientId = some true ∧
          env.contains Standard.clientSecret = some false) ∧
      ¬(env.contains Standard.clientSecret = some true ∧
        env.contains Standard.clientAuthMethod = some true) ∧
      ∀ s ∈ env.sources, (s.ownValue Standard.clientSecret).isSome ∨
          (s.ownValue Vendor.clientSecret).isSome →
        env.contains Standard.clientSecret = some true ∧
          env.contains Standard.clientAuthMethod = some false := by
  intro env
  obtain ⟨m, here⟩ := installed
  have nothing : Composed Methodless (fun _ => True) (.new profile) :=
    fun _ member => nomatch member
  have composed : Composed Methodless (fun _ => True) env := nothing.changed additions
  have assembled : Assembled env := composed.assembled fun s methodless => methodless.1
  have derived : ∀ l ∈ derivedLayers m, .layer l ∈ env.sources :=
    fun l own => mem_sources_of_install here own
  obtain ⟨i, given, -, answers⟩ := exists_answers assembled (derived _ (clientAliases_mem m))
  have issuer : env.contains Vendor.issuer = some (i.has Vendor.issuer) :=
    answers.contains _ (by decide)
  have id : env.contains Vendor.clientId = some (i.has Vendor.clientId) :=
    answers.contains _ (by decide)
  have secret : env.contains Standard.clientSecret = some i.hasSecret := answers.secret
  have defines : publicClient m ∈ definers m Standard.clientAuthMethod :=
    List.mem_singleton_self _
  have method := contains_clientAuthMethod composed answers (derived _ (mem_of_definers defines))
  have taken : env.contains Standard.clientSecret = some true →
      env.contains Standard.clientAuthMethod = some false := by
    intro visible
    rw [secret, Option.some.injEq] at visible
    rw [method, visible, Bool.not_true, Bool.and_false]
  refine ⟨fun key => reads_answered assembled 0 (.contains key), ?_, ?_, ?_⟩
  · rw [method, issuer, id, secret]
    simp [and_assoc]
  · rintro ⟨visible, shown⟩
    rw [taken visible] at shown
    cases shown
  · intro s member brings
    have visible := (contains_clientSecret_iff given answers).mpr ⟨s, member, brings⟩
    exact ⟨visible, taken visible⟩

/-- Derived layers first, and then settings of a client without a secret. -/
def publicRun : List Change :=
  [.install (.fallback Vendor.issuerWithPath),
    .addLast (.layer (.static ⟨"late",
      .ofList [(Vendor.issuer, .string "https://a.b"), (Vendor.clientId, .string "abc")]⟩))]

/-- A process variable with a secret that comes in before all other sources. -/
def lateSecret : Change :=
  .addFirst (.variables ⟨[("OKTA_OAUTH2_CLIENT_SECRET", "xyz")]⟩)

theorem method_iff_no_secret_of_late_secret :
    (∀ change ∈ publicRun ++ [lateSecret], change.Brings Methodless fun _ => True) ∧
      (∃ m, .install m ∈ publicRun) ∧
      (changed (.new "test") publicRun).contains Standard.clientAuthMethod = some true ∧
      (changed (.new "test") (publicRun ++ [lateSecret])).contains Standard.clientSecret =
        some true ∧
      (changed (.new "test") (publicRun ++ [lateSecret])).contains Standard.clientAuthMethod =
        some false := by
  have additions : ∀ change ∈ publicRun ++ [lateSecret],
      change.Brings Methodless fun _ => True := by
    intro change member
    simp only [publicRun, lateSecret, List.cons_append, List.nil_append, List.mem_cons,
      List.not_mem_nil, or_false] at member
    rcases member with rfl | rfl | rfl
    · trivial
    · exact ⟨trivial, rfl⟩
    · exact ⟨trivial, rfl⟩
  have installed : Change.install (.fallback Vendor.issuerWithPath) ∈ publicRun :=
    List.mem_cons_self
  have before := method_iff_no_secret "test" publicRun
    (fun change member => additions change (List.mem_append_left _ member)) ⟨_, installed⟩
  have after := method_iff_no_secret "test" (publicRun ++ [lateSecret]) additions
    ⟨_, List.mem_append_left _ installed⟩
  refine ⟨additions, ⟨_, installed⟩, ?_, ?_⟩
  · refine before.2.1.mpr ⟨?_, ?_, ?_⟩
    · decide +kernel
    · decide +kernel
    · decide +kernel
  · exact after.2.2.2 (.variables ⟨[("OKTA_OAUTH2_CLIENT_SECRET", "xyz")]⟩)
      List.mem_cons_self (.inr (by decide +kernel))

end ConfigStack.OAuth2
