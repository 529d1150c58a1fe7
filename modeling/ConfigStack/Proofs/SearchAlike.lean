import ConfigStack.Proofs.Configured

/-!
# Stacks that search alike

Every question to an environment goes back to searches of its sources, and what the sources ask on
the way goes back to the same environment. Two lists of sources that come to the same in every
search, whatever they are answered, therefore give the same answers to everything: by induction on
the questions that may be nested, the oracles that the searches ask are the same on both sides. The
two lists may need different budgets; an answer that one of them has within any budget, the other
has as well.

Two ways to change a stack that no search notices: to put its layers into another order in which
the layers that share a key keep theirs, and to repeat sources at its end.
-/
namespace ConfigStack

/-- The two lists of sources find the same value for every key, whatever they are answered as long
as presence and value agree. -/
def SearchAlike (left right : List Source) : Prop :=
  ∀ oracle : Oracle, oracle.Coherent → ∀ key,
    firstValue oracle key left = firstValue oracle key right

theorem SearchAlike.nested {left right : List Source} (alike : SearchAlike left right)
    {here : Oracle} (coherent : here.Coherent) (opened : Nat) (deeper : Oracle) :
    nested left opened here deeper = nested right opened here deeper := by
  funext q
  cases q with
  | contains key =>
    simp only [ConfigStack.nested, anyDefines_eq coherent, alike here coherent key]
  | property key => exact alike here coherent key
  | resolved key => rfl

theorem SearchAlike.answer {left right : List Source} (alike : SearchAlike left right)
    (steps opened : Nat) : answer left steps opened = answer right steps opened := by
  induction steps generalizing opened with
  | zero => rfl
  | succ steps ih =>
    rw [answer_succ, answer_succ, ih opened, ih (opened + 1)]
    exact alike.nested (coherent_answer right steps opened) opened _

/-! ### Changes that no search notices -/

/-- Layers can be put into another order in which the layers of every key keep theirs. -/
theorem searchAlike_of_filter (layers other : List Layer)
    (sameDefiners : ∀ key, layers.filter (fun l => key ∈ l.definedKeys) =
      other.filter fun l => key ∈ l.definedKeys) (above below : List Source) :
    SearchAlike (above ++ layers.map .layer ++ below) (above ++ other.map .layer ++ below) := by
  intro oracle _ key
  -- What stands above and below is searched alike; between them only the layers of the key count.
  have between : firstValue oracle key (layers.map .layer) =
      firstValue oracle key (other.map .layer) := by
    rw [firstValue_layers, sameDefiners key, ← firstValue_layers]
  rw [firstValue_append, firstValue_append, firstValue_append, firstValue_append oracle key above,
    between]

/-- Of two layers that share no key at most one has a part in a search. -/
theorem filter_of_disjoint {x y : Layer} (disjoint : ∀ key ∈ x.definedKeys, key ∉ y.definedKeys)
    (key : String) :
    [x, y].filter (fun l => key ∈ l.definedKeys) =
      [y, x].filter fun l => key ∈ l.definedKeys := by
  by_cases first : key ∈ x.definedKeys
  · have second : key ∉ y.definedKeys := disjoint key first
    simp [first, second]
  · simp [List.filter_cons, first]

/-- A search that finds nothing has asked every source in vain. -/
theorem get_of_firstValue_none {oracle : Oracle} {key : String} {sources : List Source}
    (nothing : firstValue oracle key sources = some none) :
    ∀ s ∈ sources, (s.get key).run oracle = some none := by
  induction sources with
  | nil => exact fun s member => absurd member List.not_mem_nil
  | cons source rest ih =>
    rw [firstValue_cons, Option.bind_eq_some_iff] at nothing
    obtain ⟨found, here, later⟩ := nothing
    cases found with
    | some v => cases later
    | none =>
      intro s member
      rcases List.mem_cons.mp member with rfl | behind
      · exact here
      · exact ih later s behind

theorem firstValue_none_of_get {oracle : Oracle} {key : String} {sources : List Source}
    (nothing : ∀ s ∈ sources, (s.get key).run oracle = some none) :
    firstValue oracle key sources = some none := by
  induction sources with
  | nil => rfl
  | cons source rest ih =>
    rw [firstValue_cons, nothing source List.mem_cons_self]
    exact ih fun s member => nothing s (List.mem_cons_of_mem source member)

/-- Sources that stand in the list already can be repeated behind it: a search comes to them only
after they have been asked in vain, and they are asked the same again. -/
theorem searchAlike_append {sources again : List Source} (present : ∀ s ∈ again, s ∈ sources) :
    SearchAlike sources (sources ++ again) := by
  intro oracle _ key
  rw [firstValue_append]
  cases searched : firstValue oracle key sources with
  | none => rfl
  | some found =>
    cases found with
    | some v => rfl
    | none =>
      have vain := get_of_firstValue_none searched
      exact (firstValue_none_of_get fun s member => vain s (present s member)).symm

/-! ### Reads -/

namespace Environment

/-- No read tells the two environments apart: neither a question, with any number of expansions
open around it, nor a value that is read as a target or in any other way. -/
structure ReadsAlike (env other : Environment) : Prop where
  contains : ∀ key, other.contains key = env.contains key
  property : ∀ key, other.property key = env.property key
  resolved : ∀ key, other.resolved key = env.resolved key
  within : ∀ opened q, other.reads opened q = env.reads opened q
  getResolved : ∀ target key, other.getResolved target key = env.getResolved target key
  readResolved : ∀ {α : Type} (read : Value → String → Except ConfigError α) (key : String),
    other.readResolved read key = env.readResolved read key

theorem reads_of_searchAlike {env other : Environment}
    (alike : SearchAlike env.sources other.sources) (opened : Nat) :
    other.reads opened = env.reads opened := by
  funext q
  apply Option.ext
  intro a
  -- Both have an answer if it takes any number of questions, and these are the same answers.
  rw [reads_eq_some_iff, reads_eq_some_iff]
  simp only [alike.answer]

theorem readsAlike_of_searchAlike {env other : Environment}
    (alike : SearchAlike env.sources other.sources) : ReadsAlike env other := by
  have same := reads_of_searchAlike alike
  have property : other.property = env.property :=
    funext fun key => congrFun (same 0) (.property key)
  have required : other.require = env.require := by
    funext key
    rw [require, require, property]
  refine ⟨fun key => congrFun (same 0) (.contains key), congrFun property,
    fun key => congrFun (same 0) (.resolved key), fun opened => congrFun (same opened), ?_, ?_⟩
  · intro target key
    rw [getResolved, getResolved, required, property]
  · intro α read key
    rw [readResolved, readResolved, required, property]

end Environment

end ConfigStack
