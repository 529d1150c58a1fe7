import ConfigStack.Value

/-!
# Questions to the environment

A source of settings may look at the whole environment while it answers. What it does then is an
`Inquiry`: a finite tree of questions in which each answer chooses what is asked next. Running an
inquiry against an oracle is a recursion on the tree, so a source cannot loop by itself; only the
oracle may have no answer.
-/
namespace ConfigStack

/-- A question about one key. -/
inductive Query where
  /-- Does any source define the key? -/
  | contains (key : String)
  /-- What is the first value a source gives for the key? -/
  | property (key : String)
  /-- What is that value with its placeholders expanded, if they can be? -/
  | resolved (key : String)
  deriving DecidableEq, Repr

abbrev Query.Answer : Query → Type
  | .contains _ => Bool
  | .property _ => Option Value
  | .resolved _ => Option Value

/-- Something that answers questions; `none` is no answer, ever. -/
abbrev Oracle := (q : Query) → Option q.Answer

/-- A result reached by asking questions one after the other. -/
inductive Inquiry (α : Type) where
  | done (result : α)
  | ask (q : Query) (next : q.Answer → Inquiry α)

namespace Inquiry

variable {α β : Type}

protected def bind : Inquiry α → (α → Inquiry β) → Inquiry β
  | .done a, f => f a
  | .ask q next, f => .ask q fun answer => (next answer).bind f

instance : Monad Inquiry where
  pure := .done
  bind := Inquiry.bind

def contains (key : String) : Inquiry Bool := .ask (.contains key) .done

def property (key : String) : Inquiry (Option Value) := .ask (.property key) .done

def resolved (key : String) : Inquiry (Option Value) := .ask (.resolved key) .done

/-- The result when the oracle answers; none as soon as it does not. -/
def run (oracle : Oracle) : Inquiry α → Option α
  | .done a => some a
  | .ask q next =>
    match oracle q with
    | some answer => (next answer).run oracle
    | none => none

/-- Whether all of the keys are contained, asked in order up to the first that is not. -/
def allContained : List String → Inquiry Bool
  | [] => .done true
  | key :: rest => .ask (.contains key) fun present =>
    if present then allContained rest else .done false

/-- Whether any of the keys is contained, asked in order up to the first that is. -/
def anyContained : List String → Inquiry Bool
  | [] => .done false
  | key :: rest => .ask (.contains key) fun present =>
    if present then .done true else anyContained rest

@[simp]
theorem run_done (oracle : Oracle) (a : α) : (done a).run oracle = some a := rfl

theorem run_ask (oracle : Oracle) (q : Query) (next : q.Answer → Inquiry α) :
    (ask q next).run oracle = (oracle q).bind fun answer => (next answer).run oracle := by
  simp only [run]
  cases oracle q <;> rfl

/-- Running two inquiries in sequence is running the second on the result of the first. -/
theorem run_bind (oracle : Oracle) (i : Inquiry α) (f : α → Inquiry β) :
    (i.bind f).run oracle = (i.run oracle).bind fun a => (f a).run oracle := by
  induction i with
  | done a => rfl
  | ask q next ih =>
    simp only [Inquiry.bind, run_ask]
    cases oracle q with
    | none => rfl
    | some answer => exact ih answer

@[simp]
theorem run_pure (oracle : Oracle) (a : α) : (pure a : Inquiry α).run oracle = some a := rfl

@[simp]
theorem run_monadBind (oracle : Oracle) (i : Inquiry α) (f : α → Inquiry β) :
    (i >>= f).run oracle = (i.run oracle).bind fun a => (f a).run oracle :=
  run_bind oracle i f

theorem run_ask_done (oracle : Oracle) (q : Query) :
    (ask q .done).run oracle = oracle q := by
  rw [run_ask]
  exact Option.bind_fun_some (oracle q)

@[simp]
theorem run_contains (oracle : Oracle) (key : String) :
    (contains key).run oracle = oracle (.contains key) :=
  run_ask_done oracle (.contains key)

@[simp]
theorem run_property (oracle : Oracle) (key : String) :
    (property key).run oracle = oracle (.property key) :=
  run_ask_done oracle (.property key)

@[simp]
theorem run_resolved (oracle : Oracle) (key : String) :
    (resolved key).run oracle = oracle (.resolved key) :=
  run_ask_done oracle (.resolved key)

end Inquiry

end ConfigStack
