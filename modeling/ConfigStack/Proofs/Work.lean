import ConfigStack.Proofs.Budget

/-!
# What a question takes

The searches and the expansions behind a question ask further questions and do nothing else. So all
that a question takes is itself an inquiry, `Query.work`, and the ways to answer it are runs of this
one tree: against an oracle, as the environment does, or with a counter, or by itself.
-/
namespace ConfigStack

/-- An inquiry that may fail for a reason. -/
abbrev Asking := ExceptT ConfigError Inquiry

/-- What an inquiry comes to against an oracle, as a reading. -/
def Asking.against {α : Type} (oracle : Oracle) (x : Asking α) : Reading α :=
  ExceptT.mk (x.run.run oracle)

namespace Inquiry

/-! ### Searches and expansions as inquiries -/

def anyDefines (key : String) : List Source → Inquiry Bool
  | [] => .done false
  | source :: rest => do
    if ← source.contains key then return true
    anyDefines key rest

def firstValue (key : String) : List Source → Inquiry (Option Value)
  | [] => .done none
  | source :: rest => do
    match ← source.get key with
    | some v => return some v
    | none => firstValue key rest

/-- Only the layers that define a key are asked whether they do. -/
theorem anyDefines_layers (key : String) (layers : List Layer) :
    anyDefines key (layers.map .layer) =
      anyDefines key ((layers.filter fun l => key ∈ l.definedKeys).map .layer) := by
  induction layers with
  | nil => rfl
  | cons l rest ih =>
    by_cases own : key ∈ l.definedKeys
    · rw [List.filter_cons_of_pos (by simpa using own), List.map_cons, List.map_cons, anyDefines,
        anyDefines, ih]
    · rw [List.filter_cons_of_neg (by simpa using own), List.map_cons, anyDefines, Source.contains,
        Layer.contains_of_not_defined own]
      exact ih

/-- Only the layers that define a key are asked for a value. -/
theorem firstValue_layers (key : String) (layers : List Layer) :
    firstValue key (layers.map .layer) =
      firstValue key ((layers.filter fun l => key ∈ l.definedKeys).map .layer) := by
  induction layers with
  | nil => rfl
  | cons l rest ih =>
    by_cases own : key ∈ l.definedKeys
    · rw [List.filter_cons_of_pos (by simpa using own), List.map_cons, List.map_cons, firstValue,
        firstValue, ih]
    · rw [List.filter_cons_of_neg (by simpa using own), List.map_cons, firstValue, Source.get,
        Layer.get_of_not_defined own]
      exact ih

/-- The text with its references replaced by the texts of what they name, which is asked for. -/
def text : (levels : Nat) → String → Asking String
  | levels, raw =>
    if Template.hasOpening raw then
      match levels with
      | 0 => throw (.placeholder (.tooDeep raw))
      | levels + 1 =>
        Template.expand (fun key => do
          match ← ExceptT.lift (Inquiry.property key) with
          | none => throw (.placeholder (.unresolved key raw))
          | some v =>
            let inner ← ExceptT.mk (.done (Expansion.referenceText key v))
            text levels inner) raw
    else pure raw

theorem text_of_plain {raw : String} (plain : Template.hasOpening raw = false) (levels : Nat) :
    text levels raw = pure raw := by
  cases levels <;> rw [text, if_neg (Bool.eq_false_iff.mp plain)]

mutual

def value : Value → Asking Value
  | .string s => do return .string (← text nestingLimit s)
  | .list items => do return .list (← values items)
  | v => pure v

def values : List Value → Asking (List Value)
  | [] => pure []
  | item :: rest => do
    let first ← value item
    let others ← values rest
    pure (first :: others)

end

end Inquiry

/-- All that answering a question takes. -/
def Query.work (sources : List Source) : (q : Query) → Inquiry q.Answer
  | .contains key => Inquiry.anyDefines key sources
  | .property key => Inquiry.firstValue key sources
  | .resolved key => do
    match ← Inquiry.property key with
    | none => return none
    | some v => return (← (Inquiry.value v).run).toOption

/-! ### Running them against an oracle -/

namespace Asking

variable {α β : Type} (oracle : Oracle)

theorem against_pure (a : α) : (pure a : Asking α).against oracle = pure a := rfl

theorem against_mk (result : Except ConfigError α) :
    Asking.against oracle (ExceptT.mk (.done result)) = ExceptT.mk (some result) := rfl

theorem against_lift_property (key : String) :
    Asking.against oracle (ExceptT.lift (Inquiry.property key)) =
      ExceptT.lift (oracle (.property key)) := by
  have ran : Asking.against oracle (ExceptT.lift (Inquiry.property key)) =
      ExceptT.mk ((oracle (.property key)).bind fun found => some (.ok found)) :=
    Inquiry.run_ask oracle (.property key) _
  rw [ran]
  cases oracle (.property key) <;> rfl

theorem against_bind (x : Asking α) (f : α → Asking β) :
    (x >>= f).against oracle = x.against oracle >>= fun a => (f a).against oracle := by
  rw [against, against, ExceptT.run_bind, Inquiry.run_monadBind]
  -- The first part has no result, or fails, or gives what the second goes on with.
  rcases x.run.run oracle with _ | e | a <;> rfl

theorem against_expandSegments (lookup : String → Asking String) (after : List Char)
    (segments : List Segment) :
    (Template.expandSegments lookup after segments).against oracle =
      Template.expandSegments (fun key => (lookup key).against oracle) after segments := by
  induction segments with
  | nil => rfl
  | cons s rest ih =>
    simp only [Template.expandSegments, against_bind, ih, against_pure]

theorem against_expand (lookup : String → Asking String) (raw : String) :
    (Template.expand lookup raw).against oracle =
      Template.expand (fun key => (lookup key).against oracle) raw := by
  simp only [Template.expand, against_bind, against_expandSegments]
  congr 1
  funext filled
  split <;> rfl

theorem against_text (levels : Nat) (raw : String) :
    (Inquiry.text levels raw).against oracle =
      Expansion.text (fun key => oracle (.property key)) levels raw := by
  induction levels generalizing raw with
  | zero =>
    rw [Inquiry.text, Expansion.text]
    split <;> rfl
  | succ levels ih =>
    rw [Inquiry.text, Expansion.text]
    split
    · simp only [against_expand, against_bind, against_lift_property]
      congr 1
      funext key
      congr 1
      funext found
      cases found with
      | none => rfl
      | some v => simp only [against_bind, against_mk, ih]
    · rfl

theorem against_value (v : Value) :
    (Inquiry.value v).against oracle =
      Expansion.value (fun key => oracle (.property key)) v := by
  induction v using Inquiry.value.induct
    (motive_2 := fun items => (Inquiry.values items).against oracle =
      Expansion.values (fun key => oracle (.property key)) items) with
  | case1 s => simp only [Inquiry.value, Expansion.value, against_bind, against_text, against_pure]
  | case2 items ih => simp only [Inquiry.value, Expansion.value, against_bind, ih, against_pure]
  | case3 v notString notList =>
    rw [Inquiry.value.eq_3 _ notString notList, Expansion.value.eq_3 _ _ notString notList]
    rfl
  | case4 => rfl
  | case5 item rest first others =>
    simp only [Inquiry.values, Expansion.values, against_bind, first, others, against_pure]

end Asking

namespace Query

variable (oracle : Oracle) (sources : List Source) (key : String)

theorem run_work_contains :
    ((Query.contains key).work sources).run oracle = anyDefines oracle key sources := by
  induction sources with
  | nil => rfl
  | cons source rest ih =>
    -- The first source is asked the same on both sides; what follows is the search of the rest.
    rw [work, Inquiry.anyDefines, Inquiry.run_monadBind, anyDefines_cons]
    congr 1
    funext found
    cases found with
    | true => rfl
    | false => exact ih

theorem run_work_property :
    ((Query.property key).work sources).run oracle = firstValue oracle key sources := by
  induction sources with
  | nil => rfl
  | cons source rest ih =>
    rw [work, Inquiry.firstValue, Inquiry.run_monadBind, firstValue_cons]
    congr 1
    funext found
    cases found with
    | some v => rfl
    | none => exact ih

theorem run_work_resolved :
    ((Query.resolved key).work sources).run oracle = resolveWith oracle key := by
  rw [work, Inquiry.run_monadBind, Inquiry.run_property, resolveWith]
  congr 1
  funext found
  cases found with
  | none => rfl
  | some v =>
    dsimp only
    rw [← Asking.against_value oracle v, Inquiry.run_monadBind]
    exact Option.map_eq_bind.symm

/-- How many more expansions are open inside a question than around it. -/
def opens : Query → Nat
  | .resolved _ => 1
  | _ => 0

end Query

/-- While the limit of open expansions leaves room for a question, its answer is what its work comes
to against the answers inside it. -/
theorem Environment.reads_eq_work (env : Environment) {opened : Nat} {q : Query}
    (room : opened + q.opens ≤ nestingLimit) :
    env.reads opened q = (q.work env.sources).run (env.reads (opened + q.opens)) := by
  cases q with
  | contains key => rw [Query.run_work_contains, reads_contains]; rfl
  | property key => rw [Query.run_work_property, reads_property]; rfl
  | resolved key => rw [Query.run_work_resolved, reads_resolved, if_neg (Nat.not_le.mpr room)]; rfl

end ConfigStack
