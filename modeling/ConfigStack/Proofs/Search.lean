import ConfigStack.Environment

/-!
# Searching the sources

A search goes through the sources in order and stops at the first that has what it looks for. A
layer has nothing to say about a key it does not define, and asks nothing on the way; so a search
is decided by the layers that define the key, in their order.
-/
namespace ConfigStack

theorem anyDefines_cons (oracle : Oracle) (key : String) (source : Source) (rest : List Source) :
    anyDefines oracle key (source :: rest) =
      ((source.contains key).run oracle).bind fun found =>
        if found then some true else anyDefines oracle key rest := by
  rw [anyDefines]
  cases (source.contains key).run oracle with
  | none => rfl
  | some found => cases found <;> rfl

theorem firstValue_cons (oracle : Oracle) (key : String) (source : Source) (rest : List Source) :
    firstValue oracle key (source :: rest) =
      ((source.get key).run oracle).bind fun found =>
        match found with
        | some v => some (some v)
        | none => firstValue oracle key rest := by
  rw [firstValue]
  cases (source.get key).run oracle with
  | none => rfl
  | some found => cases found <;> rfl

theorem firstValue_singleton (oracle : Oracle) (key : String) (source : Source) :
    firstValue oracle key [source] = (source.get key).run oracle := by
  rw [firstValue_cons]
  cases (source.get key).run oracle with
  | none => rfl
  | some found => cases found <;> rfl

/-- A search through two stacks goes on to the second where the first has nothing. -/
theorem firstValue_append (oracle : Oracle) (key : String) (upper lower : List Source) :
    firstValue oracle key (upper ++ lower) =
      (firstValue oracle key upper).bind fun found =>
        match found with
        | some v => some (some v)
        | none => firstValue oracle key lower := by
  induction upper with
  | nil => rfl
  | cons source rest ih =>
    rw [List.cons_append, firstValue_cons, firstValue_cons, Option.bind_assoc]
    -- The first source is asked the same on both sides; only what follows differs.
    congr 1
    funext found
    cases found with
    | none => exact ih
    | some v => rfl

/-- A layer gives no value for a key it does not define, and does not ask for one. -/
theorem Layer.get_of_not_defined {l : Layer} {key : String} (foreign : key ∉ l.definedKeys) :
    l.get key = .done none := by
  cases l with
  | static l => simp only [Layer.get, Table.get?_eq_none foreign]
  | conditional l =>
    have unknown : l.settings.contains key = false := by
      rw [Table.contains, Table.get?_eq_none foreign]
      rfl
    simp only [Layer.get, ConditionalLayer.shows, unknown]
    rfl
  | «alias» l => simp only [Layer.get, Table.get?_eq_none foreign]
  | computed l =>
    have other : key ≠ l.key := by simpa [Layer.definedKeys] using foreign
    simp only [Layer.get, if_neg other]

/-- A layer calls no key its own that it does not define, and does not ask about it. -/
theorem Layer.contains_of_not_defined {l : Layer} {key : String} (foreign : key ∉ l.definedKeys) :
    l.contains key = .done false := by
  cases l with
  | static l => simp only [Layer.contains, Table.contains, Table.get?_eq_none foreign]; rfl
  | conditional l =>
    have unknown : l.settings.contains key = false := by
      rw [Table.contains, Table.get?_eq_none foreign]
      rfl
    simp only [Layer.contains, ConditionalLayer.shows, unknown]
    rfl
  | «alias» l => simp only [Layer.contains, Table.get?_eq_none foreign]
  | computed l =>
    have other : key ≠ l.key := by simpa [Layer.definedKeys] using foreign
    simp only [Layer.contains, if_neg other]

/-- The keys about which a source has to ask before it answers. -/
def Source.askingOn : Source → List String
  | .layer (.static _) => []
  | .layer (.conditional l) => l.settings.keys
  | .layer (.alias l) => l.targets.keys
  | .layer (.computed l) => [l.key]
  | .variables _ => []

/-- The value that a source has for a key without looking at anything else. -/
def Source.ownValue : Source → String → Option Value
  | .layer (.static l), key => l.settings.get? key
  | .variables vars, key => (lookupVariable vars key).map .string
  | .layer _, _ => none

theorem Source.length_askingOn (s : Source) : s.askingOn.length = s.askingKeys := by
  cases s with
  | «variables» vars => rfl
  | layer l => cases l <;> simp [askingOn, askingKeys, Layer.askingKeys, Table.keys]

/-- A layer that is not static asks about all the keys it defines. -/
theorem Source.ownValue_or_asking (l : Layer) :
    (∃ own, l = .static own) ∨
      ∀ key, (Source.layer l).ownValue key = none ∧
        (key ∈ l.definedKeys ↔ key ∈ (Source.layer l).askingOn) := by
  cases l with
  -- The settings of a static layer are the only ones that are had without asking.
  | static own => exact .inl ⟨own, rfl⟩
  | conditional l =>
    exact .inr fun key => ⟨rfl, by rw [Layer.definedKeys, Table.mem_sortedKeys,
      Table.contains_iff_mem_keys]; rfl⟩
  | «alias» l =>
    exact .inr fun key => ⟨rfl, by rw [Layer.definedKeys, Table.mem_sortedKeys,
      Table.contains_iff_mem_keys]; rfl⟩
  | computed l => exact .inr fun key => ⟨rfl, Iff.rfl⟩

/-- A layer asks only about keys that it defines. -/
theorem Source.mem_definedKeys_of_asking {l : Layer} {key : String}
    (asking : key ∈ (Source.layer l).askingOn) : key ∈ l.definedKeys := by
  rcases ownValue_or_asking l with ⟨own, rfl⟩ | asks
  · simp [askingOn] at asking
  · exact (asks key).2.mpr asking

/-- A source has no value of its own for a key that it asks about. -/
theorem Source.ownValue_of_asking {s : Source} {key : String} (asking : key ∈ s.askingOn) :
    s.ownValue key = none := by
  cases s with
  | «variables» vars => simp [askingOn] at asking
  | layer l =>
    rcases ownValue_or_asking l with ⟨own, rfl⟩ | asks
    · simp [askingOn] at asking
    · exact (asks key).1

/-- About any other key a source answers at once, with its own value. -/
theorem Source.get_of_not_asking {s : Source} {key : String} (quiet : key ∉ s.askingOn) :
    s.get key = .done (s.ownValue key) := by
  cases s with
  | «variables» vars => rfl
  | layer l =>
    rcases ownValue_or_asking l with ⟨own, rfl⟩ | asks
    · rfl
    · obtain ⟨nothing, same⟩ := asks key
      rw [nothing]
      exact Layer.get_of_not_defined fun own => quiet (same.mp own)

theorem Source.contains_of_not_asking {s : Source} {key : String} (quiet : key ∉ s.askingOn) :
    s.contains key = .done (s.ownValue key).isSome := by
  cases s with
  | «variables» vars => simp only [contains, ownValue, Option.isSome_map]
  | layer l =>
    rcases ownValue_or_asking l with ⟨own, rfl⟩ | asks
    · rfl
    · obtain ⟨nothing, same⟩ := asks key
      rw [nothing]
      exact Layer.contains_of_not_defined fun own => quiet (same.mp own)

/-- Only the layers that define a key have a part in the search for its value. -/
theorem firstValue_layers (oracle : Oracle) (key : String) (layers : List Layer) :
    firstValue oracle key (layers.map .layer) =
      firstValue oracle key ((layers.filter fun l => key ∈ l.definedKeys).map .layer) := by
  induction layers with
  | nil => rfl
  | cons l rest ih =>
    -- A layer that does not define the key gives nothing and drops out of the search.
    by_cases own : key ∈ l.definedKeys
    · rw [List.filter_cons_of_pos (by simpa using own), List.map_cons, List.map_cons,
        firstValue_cons, firstValue_cons, ih]
    · rw [List.filter_cons_of_neg (by simpa using own), List.map_cons, firstValue_cons,
        Source.get, Layer.get_of_not_defined own, Inquiry.run_done]
      exact ih

end ConfigStack
