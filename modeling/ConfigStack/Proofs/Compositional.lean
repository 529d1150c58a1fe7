import ConfigStack.Proofs.Expansion
import ConfigStack.Proofs.Search

/-!
# What two runs have in common

Two runs against different oracles are related if the answers of the oracles are. `Compositional`
names the relations for which this goes through: they hold of a result and itself, and of two
computations in sequence if they hold of their parts. `Extends` (the second run has every result
of the first) and `Settled` (both runs have a result, and the same) are the two in use. Inquiries,
searches and expansions are gone through once for all of them.
-/
namespace ConfigStack

variable {α β : Type}

/-- The second result is the first one wherever there is a first one. -/
def Extends (α : Type) (low high : Option α) : Prop :=
  ∀ a, low = some a → high = some a

/-- There is a result, and the second is the same. -/
def Settled (α : Type) (left right : Option α) : Prop :=
  ∃ a, left = some a ∧ right = some a

structure Compositional (R : (α : Type) → Option α → Option α → Prop) : Prop where
  pure : ∀ {α : Type} (a : α), R α (some a) (some a)
  bind : ∀ {α β : Type} {x y : Option α} {f g : α → Option β},
    R α x y → (∀ a, R β (f a) (g a)) → R β (x.bind f) (y.bind g)

theorem extends_compositional : Compositional Extends where
  pure _ _ same := same
  bind := by
    intro α β x y f g first second b found
    obtain ⟨a, hx, hf⟩ := Option.bind_eq_some_iff.mp found
    rw [first a hx, Option.bind_some]
    exact second a b hf

theorem settled_compositional : Compositional Settled where
  pure a := ⟨a, rfl, rfl⟩
  bind := by
    intro α β x y f g first second
    obtain ⟨a, rfl, rfl⟩ := first
    exact second a

theorem eq_compositional : Compositional fun _ left right => left = right where
  pure _ := rfl
  bind := by
    intro α β x y f g first second
    rw [first, funext second]

theorem settled_self_iff {x : Option α} : Settled α x x ↔ ∃ a, x = some a :=
  exists_congr fun _ => and_self_iff

/-- Every question that an inquiry may come to ask is of the allowed ones. -/
def Inquiry.AsksOnly (allowed : Query → Prop) : Inquiry α → Prop
  | .done _ => True
  | .ask q next => allowed q ∧ ∀ answer, (next answer).AsksOnly allowed

theorem Inquiry.asksOnly_any (i : Inquiry α) : i.AsksOnly fun _ => True := by
  induction i with
  | done a => trivial
  | ask q next ih => exact ⟨trivial, ih⟩

theorem Inquiry.asksOnly_bind {allowed : Query → Prop} {i : Inquiry α} {f : α → Inquiry β}
    (first : i.AsksOnly allowed) (second : ∀ a, (f a).AsksOnly allowed) :
    (i >>= f).AsksOnly allowed := by
  induction i with
  | done a => exact second a
  | ask q next ih => exact ⟨first.1, fun answer => ih answer (first.2 answer)⟩

namespace Compositional

variable {R : (α : Type) → Option α → Option α → Prop} (comp : Compositional R)

include comp

theorem map {x y : Option α} (f : α → β) (related : R α x y) : R β (x.map f) (y.map f) := by
  rw [Option.map_eq_bind, Option.map_eq_bind]
  exact comp.bind related fun a => comp.pure (f a)

/-- A reading that fails goes on as a failure, whatever follows. -/
theorem reading {x y : Reading α} {f g : α → Reading β} (first : R _ x.run y.run)
    (second : ∀ a, R _ (f a).run (g a).run) : R _ (x >>= f).run (y >>= g).run := by
  rw [ExceptT.run_bind, ExceptT.run_bind]
  apply comp.bind first
  -- A failure is a result as well, and what follows does not change it.
  intro result
  cases result with
  | error e => exact comp.pure _
  | ok a => exact second a

theorem inquiry {low high : Oracle} {allowed : Query → Prop}
    (related : ∀ q, allowed q → R _ (low q) (high q)) {i : Inquiry α}
    (within : i.AsksOnly allowed) : R _ (i.run low) (i.run high) := by
  -- On the questions still to come: a related answer leads into related rests.
  induction i with
  | done a => exact comp.pure a
  | ask q next ih =>
    rw [Inquiry.run_ask, Inquiry.run_ask]
    exact comp.bind (related q within.1) fun answer => ih answer (within.2 answer)

theorem anyDefines {low high : Oracle} {key : String} {sources : List Source}
    (related : ∀ s ∈ sources, R _ ((s.contains key).run low) ((s.contains key).run high)) :
    R _ (anyDefines low key sources) (anyDefines high key sources) := by
  induction sources with
  | nil => exact comp.pure false
  | cons source rest ih =>
    rw [anyDefines_cons, anyDefines_cons]
    apply comp.bind (related source List.mem_cons_self)
    intro found
    cases found with
    | true => exact comp.pure true
    | false => exact ih fun s member => related s (List.mem_cons_of_mem source member)

theorem firstValue {low high : Oracle} {key : String} {sources : List Source}
    (related : ∀ s ∈ sources, R _ ((s.get key).run low) ((s.get key).run high)) :
    R _ (firstValue low key sources) (firstValue high key sources) := by
  induction sources with
  | nil => exact comp.pure none
  | cons source rest ih =>
    rw [firstValue_cons, firstValue_cons]
    -- Both searches stop at this source, or both go on.
    apply comp.bind (related source List.mem_cons_self)
    intro found
    cases found with
    | some v => exact comp.pure (some v)
    | none => exact ih fun s member => related s (List.mem_cons_of_mem source member)

theorem expandSegments {low high : String → Reading String}
    (related : ∀ key, R _ (low key).run (high key).run) (after : List Char)
    (segments : List Segment) :
    R _ (Template.expandSegments low after segments).run
      (Template.expandSegments high after segments).run := by
  induction segments with
  | nil => exact comp.pure _
  | cons s rest ih =>
    apply comp.reading (related s.key)
    intro text
    apply comp.reading ih
    intro more
    exact comp.pure _

theorem expand {low high : String → Reading String}
    (related : ∀ key, R _ (low key).run (high key).run) (raw : String) :
    R _ (Template.expand low raw).run (Template.expand high raw).run := by
  apply comp.reading (comp.expandSegments related _ _)
  intro filled
  split <;> exact comp.pure _

section Expansion

variable {low high : String → Option (Option Value)} (related : ∀ key, R _ (low key) (high key))

include related

/-- Two expansions of a text are related, at every number of levels, if what they look up is. -/
theorem text (levels : Nat) (raw : String) :
    R _ (Expansion.text low levels raw).run (Expansion.text high levels raw).run := by
  -- On the levels, for every text: what a reference names is expanded one level below.
  induction levels generalizing raw with
  | zero =>
    cases opens : Template.hasOpening raw with
    | false => rw [Expansion.text_of_plain opens, Expansion.text_of_plain opens]; exact comp.pure _
    | true => rw [Expansion.text_zero opens, Expansion.text_zero opens]; exact comp.pure _
  | succ levels ih =>
    cases opens : Template.hasOpening raw with
    | false => rw [Expansion.text_of_plain opens, Expansion.text_of_plain opens]; exact comp.pure _
    | true =>
      rw [Expansion.text_succ opens, Expansion.text_succ opens]
      apply comp.expand
      intro key
      rw [Expansion.run_reference, Expansion.run_reference]
      apply comp.bind (related key)
      intro found
      cases found with
      | none => exact comp.pure _
      | some v =>
        dsimp only
        cases Expansion.referenceText key v with
        | error e => exact comp.pure _
        | ok inner => exact ih inner

theorem value (v : Value) :
    R _ (Expansion.value low v).run (Expansion.value high v).run := by
  -- Along the recursion of the expansion, which goes through the items of lists inside lists.
  induction v using Expansion.value.induct
    (motive_2 := fun items =>
      R _ (Expansion.values low items).run (Expansion.values high items).run) with
  | case1 s =>
    rw [Expansion.run_value_string, Expansion.run_value_string]
    exact comp.map _ (comp.text related nestingLimit s)
  | case2 items ih =>
    rw [Expansion.value, Expansion.value]
    exact comp.reading ih fun expanded => comp.pure _
  | case3 v notString notList =>
    rw [Expansion.value.eq_3 _ _ notString notList, Expansion.value.eq_3 _ _ notString notList]
    exact comp.pure _
  | case4 => exact comp.pure _
  | case5 item rest first others =>
    rw [Expansion.values, Expansion.values]
    exact comp.reading first fun v => comp.reading others fun vs => comp.pure _

end Expansion

end Compositional

end ConfigStack
