import ConfigStack.Environment

/-!
# Presence and value agree

Whether a key is contained and which value it has are asked along two separate paths: an alias
passes the one question on as it is and the other one too, a conditional layer looks for what it
requires in either case, and a computed layer runs its inquiry twice. They agree all the same. A
source keeps the two in step if the oracle behind it does, and the sources together are the oracle
of the next nested question; so the induction is on the number of questions that may be nested.
-/
namespace ConfigStack

/-- An oracle that calls a key contained exactly where it has a value for it, and has no answer to
the one question exactly where it has none to the other. -/
def Oracle.Coherent (oracle : Oracle) : Prop :=
  ∀ key, oracle (.contains key) = (oracle (.property key)).map Option.isSome

/-- A conditional layer shows nothing but its own keys. -/
theorem ConditionalLayer.contains_of_shows {l : ConditionalLayer} {key : String} {oracle : Oracle}
    (shown : (l.shows key).run oracle = some true) : l.settings.contains key = true := by
  unfold shows at shown
  split at shown
  next own => exact own
  next => simp at shown

theorem ConditionalLayer.run_get (l : ConditionalLayer) (key : String) (oracle : Oracle) :
    ((Layer.conditional l).get key).run oracle =
      ((l.shows key).run oracle).map fun shown => if shown then l.settings.get? key else none := by
  simp only [Layer.get, Inquiry.run_monadBind]
  cases (l.shows key).run oracle with
  | none => rfl
  | some shown => cases shown <;> rfl

/-- A layer says of a key that it defines it exactly where it gives a value for it. -/
theorem Layer.run_contains {oracle : Oracle} (coherent : oracle.Coherent) (l : Layer)
    (key : String) :
    (l.contains key).run oracle = ((l.get key).run oracle).map Option.isSome := by
  cases l with
  | static l => rfl
  | conditional l =>
    rw [ConditionalLayer.run_get]
    cases shown : (l.shows key).run oracle with
    | none => simp only [Layer.contains, shown, Option.map_none]
    | some visible =>
      cases visible with
      | false => simp only [Layer.contains, shown, Option.map_some]; rfl
      | true =>
        -- A key that is shown is one of the layer's own, so the layer has a value for it.
        have own := ConditionalLayer.contains_of_shows shown
        simp only [Table.contains] at own
        simp only [Layer.contains, shown, Option.map_some, if_true, own]
  | «alias» l =>
    simp only [Layer.contains, Layer.get]
    cases l.targets.get? key with
    | none => rfl
    | some target =>
      rw [Inquiry.run_contains, Inquiry.run_property]
      exact coherent target
  | computed l =>
    simp only [Layer.contains, Layer.get]
    split
    · rw [Inquiry.run_monadBind]
      cases l.compute.run oracle <;> rfl
    · rfl

theorem Source.run_contains {oracle : Oracle} (coherent : oracle.Coherent) (s : Source)
    (key : String) :
    (s.contains key).run oracle = ((s.get key).run oracle).map Option.isSome := by
  cases s with
  | layer l => exact Layer.run_contains coherent l key
  | «variables» vars =>
    simp only [Source.contains, Source.get, Inquiry.run_done, Option.map_some, Option.isSome_map]

/-- The search for a source that defines the key stops where the search for a value does. -/
theorem anyDefines_eq {oracle : Oracle} (coherent : oracle.Coherent) (key : String)
    (sources : List Source) :
    anyDefines oracle key sources = (firstValue oracle key sources).map Option.isSome := by
  induction sources with
  | nil => rfl
  | cons source rest ih =>
    -- The source answers the two questions alike, so the two searches stop together.
    have step := Source.run_contains coherent source key
    simp only [anyDefines, firstValue, step]
    cases (source.get key).run oracle with
    | none => rfl
    | some found =>
      cases found with
      | none => exact ih
      | some v => rfl

/-- However many questions may be nested and however many expansions are open, the answers of a
stack of sources are coherent. -/
theorem coherent_answer (sources : List Source) (steps opened : Nat) :
    Oracle.Coherent (answer sources steps opened) := by
  -- The sources ask the answers of one step less, which are coherent by induction.
  induction steps with
  | zero => exact fun key => rfl
  | succ steps ih => exact fun key => anyDefines_eq ih key sources

/-- **Presence and value agree.** In every environment, whatever layers it is made of and whatever
they compute, at every number of open expansions and of questions that may still be nested: a key
is contained if and only if it has a value, for the environment and for every single source asked
against it, and a read of the one kind ends if and only if the other does. -/
theorem presence_iff_value (env : Environment) (steps opened : Nat) (key : String) :
    answer env.sources steps opened (.contains key) =
        (answer env.sources steps opened (.property key)).map Option.isSome ∧
      (∀ source : Source,
        (source.contains key).run (answer env.sources steps opened) =
          ((source.get key).run (answer env.sources steps opened)).map Option.isSome) ∧
      env.contains key = (env.property key).map Option.isSome := by
  refine ⟨coherent_answer env.sources steps opened key, fun source => ?_, ?_⟩
  · exact Source.run_contains (coherent_answer env.sources steps opened) source key
  · exact coherent_answer env.sources env.budget 0 key

end ConfigStack
