import ConfigStack.Environment

/-!
# Readings

A reading gives a result, fails for a reason, or never ends. Two readings in sequence give what the
second gives for the result of the first, and fail where one of them does.
-/
namespace ConfigStack.Reading

variable {α β : Type}

theorem bind_eq_pure {x : Reading α} {f : α → Reading β} {b : β} :
    x >>= f = pure b ↔ ∃ a, x = pure a ∧ f a = pure b := by
  constructor
  · intro ends
    rcases x with _ | e | a
    · cases ends
    · cases ends
    · exact ⟨a, rfl, ends⟩
  · rintro ⟨a, rfl, second⟩
    exact second

theorem bind_eq_throw {x : Reading α} {f : α → Reading β} {e : ConfigError} :
    x >>= f = throw e ↔ x = throw e ∨ ∃ a, x = pure a ∧ f a = throw e := by
  constructor
  · intro ends
    rcases x with _ | cause | a
    · cases ends
    · left
      injection ends with inner
      injection inner with same
      rw [same]
      rfl
    · exact .inr ⟨a, rfl, ends⟩
  · rintro (rfl | ⟨a, rfl, second⟩)
    · rfl
    · exact second

theorem pure_ne_throw (a : α) (e : ConfigError) : (pure a : Reading α) ≠ throw e :=
  nofun

theorem pure_inj {a b : α} : (pure a : Reading α) = pure b ↔ a = b := by
  constructor
  · intro same
    injection same with inner
    injection inner
  · rintro rfl
    rfl

/-- Every reason for which a reading fails is of the allowed ones. -/
def FailsOnly (allowed : ConfigError → Prop) (x : Reading α) : Prop :=
  ∀ e, x = throw e → allowed e

variable {allowed : ConfigError → Prop}

theorem failsOnly_pure (a : α) : FailsOnly allowed (pure a : Reading α) :=
  fun e fails => absurd fails (pure_ne_throw a e)

theorem failsOnly_throw {e : ConfigError} (reason : allowed e) :
    FailsOnly allowed (throw e : Reading α) := by
  intro other same
  injection same with inner
  injection inner with same
  rwa [← same]

/-- What may only have no answer does not fail. -/
theorem failsOnly_lift (x : Option α) : FailsOnly allowed (ExceptT.lift x : Reading α) := by
  intro e fails
  cases x with
  | none => cases fails
  | some a => exact absurd fails (pure_ne_throw a e)

theorem failsOnly_mk {result : Except ConfigError α} (reason : ∀ e, result = .error e → allowed e) :
    FailsOnly allowed (ExceptT.mk (some result) : Reading α) := by
  intro e fails
  injection fails with same
  exact reason e same

theorem failsOnly_bind {x : Reading α} {f : α → Reading β} (first : FailsOnly allowed x)
    (second : ∀ a, FailsOnly allowed (f a)) : FailsOnly allowed (x >>= f) := by
  intro e fails
  rcases bind_eq_throw.mp fails with early | ⟨a, -, late⟩
  · exact first e early
  · exact second a e late

end ConfigStack.Reading
