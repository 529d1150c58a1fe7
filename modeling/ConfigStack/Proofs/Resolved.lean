import ConfigStack.Proofs.Compositional
import ConfigStack.Proofs.Elements

/-!
# Resolved reads

What the reads of an environment come to for a key whose value is known: the expansion of the
value, and then its conversion. A key that has a value is never reported as missing.
-/
namespace ConfigStack.Environment

variable {env : Environment} {key : String}

/-- Every key has a value or none; no lookup goes on for ever. -/
def LookupsEnd (env : Environment) : Prop :=
  ∀ key, ∃ found, env.property key = some found

/-- The value of the key with its placeholders expanded, read in any way. -/
def readResolved {α : Type} (env : Environment) (read : Value → String → Except ConfigError α)
    (key : String) : Reading α := do
  let v ← env.require key
  let expanded ← Expansion.value env.property v
  ExceptT.mk (some (read expanded key))

theorem getResolved_eq (target : Target) :
    env.getResolved target key = env.readResolved (convert target) key := rfl

theorem require_eq_pure_iff {v : Value} :
    env.require key = pure v ↔ env.property key = some (some v) := by
  rw [require]
  rcases env.property key with _ | _ | held
  · constructor <;> nofun
  · constructor <;> nofun
  · exact Reading.pure_inj.trans ⟨fun same => by rw [same], fun same => by simpa using same⟩

section Reading

variable {α : Type} (read : Value → String → Except ConfigError α)

theorem readResolved_of_held {v : Value} (held : env.property key = some (some v)) :
    env.readResolved read key = (do
      let expanded ← Expansion.value env.property v
      ExceptT.mk (some (read expanded key))) := by
  rw [readResolved, require_eq_pure_iff.mpr held, pure_bind]

theorem readResolved_of_absent (absent : env.property key = some none) :
    env.readResolved read key = throw (.notFound key) := by
  have required : env.require key = throw (.notFound key) := by
    rw [require, absent]
    rfl
  rw [readResolved, required]
  rfl

/-- Where every lookup ends, so does a resolved read, with a result or with a reason. -/
theorem readResolved_ends (ends : env.LookupsEnd) (key : String) :
    ∃ result, (env.readResolved read key).run = some result := by
  obtain ⟨found, held⟩ := ends key
  cases found with
  | none =>
    rw [readResolved_of_absent read held]
    exact ⟨_, rfl⟩
  | some v =>
    obtain ⟨expanded, same⟩ := settled_self_iff.mp <|
      settled_compositional.value (fun k => settled_self_iff.mpr (ends k)) v
    rw [readResolved_of_held read held, ExceptT.run_bind, same]
    cases expanded with
    | error e => exact ⟨_, rfl⟩
    | ok v => exact ⟨_, rfl⟩

end Reading

theorem getResolved_of_held {v : Value} (held : env.property key = some (some v))
    (target : Target) :
    env.getResolved target key = (do
      let expanded ← Expansion.value env.property v
      ExceptT.mk (some (convert target expanded key))) :=
  readResolved_of_held (convert target) held

theorem getResolved_of_absent (absent : env.property key = some none) (target : Target) :
    env.getResolved target key = throw (.notFound key) :=
  readResolved_of_absent (convert target) absent

/-- A read that ends and has no result fails for a reason. -/
theorem getResolved_fails (ends : env.LookupsEnd) {target : Target}
    (without : ∀ result, env.getResolved target key ≠ pure result) :
    ∃ e, env.getResolved target key = throw e := by
  obtain ⟨result, same⟩ := readResolved_ends (convert target) ends key
  cases result with
  | error e => exact ⟨e, same⟩
  | ok result => exact absurd same (without result)

/-- A string read as text is its expansion. -/
theorem getResolved_text_of_string {s : String}
    (held : env.property key = some (some (.string s))) :
    env.getResolved (.scalar .text) key = Expansion.text env.property nestingLimit s := by
  have read : ∀ inner : String, (ExceptT.mk (some (convert (.scalar .text) (.string inner) key)) :
      Reading String) = pure inner := fun _ => rfl
  rw [getResolved_of_held held, Expansion.value, bind_assoc]
  simp only [pure_bind]
  exact (congrArg _ (funext read)).trans (bind_pure _)

/-- A value read as it is comes to its expansion. -/
theorem getResolved_value_of_held {v : Value} (held : env.property key = some (some v)) :
    env.getResolved .value key = Expansion.value env.property v := by
  rw [getResolved_of_held held]
  exact bind_pure _

/-- A string read as it is comes to the string that it expands to. -/
theorem getResolved_value_of_string {s : String}
    (held : env.property key = some (some (.string s))) {result : Value} :
    env.getResolved .value key = pure result ↔
      ∃ t, Expansion.text env.property nestingLimit s = pure t ∧ result = .string t := by
  rw [getResolved_value_of_held held, Expansion.value, Reading.bind_eq_pure]
  simp only [Reading.pure_inj, eq_comm]

/-- A key that has a value fails to be read for another reason than being missing. -/
theorem getResolved_refusal {v : Value} (held : env.property key = some (some v))
    (target : Target) : Reading.FailsOnly Expansion.Refusal (env.getResolved target key) := by
  rw [getResolved_of_held held]
  refine Reading.failsOnly_bind (Expansion.value_refusal v) fun expanded => ?_
  apply Reading.failsOnly_mk
  intro e fails
  obtain ⟨element, expected, -, rfl⟩ := Target.exists_firstRefusal fails
  trivial

theorem getOptional_of_absent (absent : env.property key = some none) (target : Target) :
    env.getOptional target key = pure none := by
  rw [getOptional, getResolved_of_absent absent]
  exact congrArg (fun result => ExceptT.mk (some result)) (if_pos rfl)

theorem getOptional_of_read {target : Target} {result : target.Result}
    (read : env.getResolved target key = pure result) :
    env.getOptional target key = pure (some result) := by
  rw [getOptional, read]
  rfl

theorem getOptional_ends (ends : env.LookupsEnd) (target : Target) (key : String) :
    ∃ result, (env.getOptional target key).run = some result := by
  obtain ⟨result, read⟩ := readResolved_ends (convert target) ends key
  rw [← getResolved_eq] at read
  rw [getOptional, read]
  exact ⟨_, rfl⟩

/-- An optional read has a value exactly if the read has a result. -/
theorem getOptional_eq_some_iff {target : Target} {result : target.Result} :
    env.getOptional target key = pure (some result) ↔ env.getResolved target key = pure result := by
  constructor
  · intro reads
    rcases read : env.getResolved target key with _ | e | found
    · rw [getOptional, read] at reads
      cases reads
    · rw [getOptional, read] at reads
      -- A failure is the missing value or is passed on.
      cases e with
      | notFound missing =>
        by_cases own : missing = key
        · have nothing : (pure none : Reading (Option target.Result)) = pure (some result) :=
            (congrArg (fun r => ExceptT.mk (some r)) (if_pos own)).symm.trans reads
          cases Reading.pure_inj.mp nothing
        · have passed : (throw (.notFound missing) : Reading (Option target.Result)) =
              pure (some result) :=
            (congrArg (fun r => ExceptT.mk (some r)) (if_neg own)).symm.trans reads
          exact absurd passed.symm (Reading.pure_ne_throw _ _)
      | _ => cases reads
    · rw [getOptional_of_read read, Reading.pure_inj, Option.some.injEq] at reads
      rw [reads]
      rfl
  · exact getOptional_of_read

/-- A key that has a value and is not read fails an optional read for the same reason. -/
theorem getOptional_of_refused {v : Value} (held : env.property key = some (some v))
    {target : Target} {e : ConfigError} (fails : env.getResolved target key = throw e) :
    env.getOptional target key = throw e := by
  have reason := getResolved_refusal held target e fails
  rw [getOptional, fails]
  -- Expansions and conversions have reasons of their own, and these are passed on.
  cases e with
  | placeholder cause => rfl
  | typeMismatch key expected => rfl
  | notFound key => exact reason.elim
  | load cause => exact reason.elim
  | bootstrap processor message => exact reason.elim

end ConfigStack.Environment
