import ConfigStack.Proofs.Configured

/-!
# Optional reads

An optional read tells a key that is not there from one that is and cannot be read. It does so by
the error: a missing key is reported under its own name, and nothing that happens behind a key that
is there is reported as a missing key, neither a reference to a key that is missing nor a value of
another type. What is contained is thus read or refused, and never taken for absent
(`Environment.absent_or_refused`).
-/
namespace ConfigStack.Environment

variable {env : Environment} {target : Target} {key : String}

/-- What has a value is read as by a resolved read, and marked as there. -/
theorem getOptional_of_held {v : Value} (held : env.property key = some (some v))
    (target : Target) : env.getOptional target key = some <$> env.getResolved target key := by
  rcases resolved : env.getResolved target key with _ | e | result
  · rw [getOptional, resolved]
    rfl
  · exact getOptional_of_refused held resolved
  · exact getOptional_of_read resolved

/-- A key whose lookup never ends is not read either. -/
theorem getOptional_of_endless (endless : env.property key = none) (target : Target) :
    env.getOptional target key = ExceptT.mk none := by
  rw [getOptional, getResolved, require, endless]
  rfl

theorem map_some_eq_pure_iff {α : Type} {x : Reading α} {found : Option α} :
    some <$> x = pure found ↔ ∃ a, x = pure a ∧ found = some a := by
  rw [map_eq_pure_bind, Reading.bind_eq_pure]
  simp only [Reading.pure_inj, eq_comm]

theorem map_some_eq_throw_iff {α : Type} {x : Reading α} {e : ConfigError} :
    (some <$> x : Reading (Option α)) = throw e ↔ x = throw e := by
  rw [map_eq_pure_bind, Reading.bind_eq_throw]
  simp [Reading.pure_ne_throw]

theorem getOptional_eq_none_iff :
    env.getOptional target key = pure none ↔ env.contains key = some false := by
  rw [contains_eq]
  rcases held : env.property key with _ | _ | v
  · rw [getOptional_of_endless held]
    constructor <;> nofun
  · simp [getOptional_of_absent held]
  · simp [getOptional_of_held held, map_some_eq_pure_iff]

/-- An optional read fails where the key is there and is not read, and for the same reason. -/
theorem getOptional_eq_throw_iff {e : ConfigError} :
    env.getOptional target key = throw e ↔
      env.contains key = some true ∧ env.getResolved target key = throw e := by
  rw [contains_eq]
  rcases held : env.property key with _ | _ | v
  · rw [getOptional_of_endless held]
    constructor <;> nofun
  · simp [getOptional_of_absent held, Reading.pure_ne_throw]
  · simp [getOptional_of_held held, map_some_eq_throw_iff]

/-- Whatever fails behind a key, it is not reported as missing, and neither is a missing one. -/
theorem getOptional_ne_notFound (missing : String) :
    env.getOptional target key ≠ throw (.notFound missing) := by
  intro fails
  obtain ⟨present, refused⟩ := getOptional_eq_throw_iff.mp fails
  obtain ⟨v, held⟩ := property_of_contains present
  exact getResolved_refusal held target _ refused

/-- **An optional read tells what is absent from what is refused.** Whatever the environment is made
of and whatever the key is read as, there is no value exactly if the key is not contained, and no
read fails because a key is missing. What is contained has the result of the resolved read, and
fails for the same reasons. Where lookups end, so does the read. -/
theorem absent_or_refused (env : Environment) (target : Target) (key : String) :
    (env.getOptional target key = pure none ↔ env.contains key = some false) ∧
    (∀ missing, env.getOptional target key ≠ throw (.notFound missing)) ∧
    (env.contains key = some true →
      (∀ result, env.getOptional target key = pure (some result) ↔
        env.getResolved target key = pure result) ∧
      ∀ e, env.getOptional target key = throw e ↔ env.getResolved target key = throw e) ∧
    (env.LookupsEnd → ∃ result, (env.getOptional target key).run = some result) := by
  refine ⟨getOptional_eq_none_iff, getOptional_ne_notFound, fun present => ⟨?_, ?_⟩, fun ends =>
    getOptional_ends ends target key⟩
  · exact fun result => getOptional_eq_some_iff
  · exact fun e => getOptional_eq_throw_iff.trans (and_iff_right present)

/-- A port that refers to a key that is not there. -/
def danglingPort : Environment :=
  .ofSettings [("server.port", .string (Template.reference "port"))]

theorem getResolved_danglingPort (target : Target) :
    danglingPort.getResolved target "server.port" =
      throw (.placeholder (.unresolved "port" (Template.reference "port"))) := by
  have held : danglingPort.property "server.port" =
      some (some (.string (Template.reference "port"))) := rfl
  have missing : danglingPort.property "port" = some none := rfl
  have refused : Expansion.text danglingPort.property nestingLimit (Template.reference "port") =
      throw (.placeholder (.unresolved "port" (Template.reference "port"))) :=
    (Expansion.text_reference_alone (by decide) 31).trans
      (Expansion.reference_of_absent missing 31 _)
  rw [getResolved_of_held held, Expansion.value, refused]
  rfl

theorem absent_or_refused_of_danglingPort :
    danglingPort.contains "server.port" = some true ∧ danglingPort.LookupsEnd ∧
      danglingPort.getOptional (.list (.scalar .unsigned)) "server.port" =
        throw (.placeholder (.unresolved "port" (Template.reference "port"))) ∧
      danglingPort.getOptional (.list (.scalar .unsigned)) "port" = pure none := by
  have present : danglingPort.contains "server.port" = some true := rfl
  have ends : danglingPort.LookupsEnd := (static_ofSettings _).fixed.lookupsEnd
  have alike := (absent_or_refused danglingPort (.list (.scalar .unsigned)) "server.port").2.2.1
  refine ⟨present, ends, ((alike present).2 _).mpr (getResolved_danglingPort _), ?_⟩
  exact (absent_or_refused danglingPort (.list (.scalar .unsigned)) "port").1.mpr rfl

end ConfigStack.Environment
