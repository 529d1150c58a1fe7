import ConfigStack.Proofs.Reading
import ConfigStack.Proofs.Template
import Mathlib.Data.List.Forall2

/-!
# Expanding references

One equation for each form a text can take: without the opening of a reference it stays as it is;
with one it is expanded while levels are left, and refused when none is.
-/
namespace ConfigStack.Expansion

variable {property : String → Option (Option Value)}

/-- What stands in the place of a reference to `key` in the text `raw`. -/
def reference (property : String → Option (Option Value)) (levels : Nat) (raw key : String) :
    Reading String := do
  match ← ExceptT.lift (property key) with
  | none => throw (.placeholder (.unresolved key raw))
  | some v =>
    let inner ← ExceptT.mk (some (referenceText key v))
    text property levels inner

theorem text_of_plain {raw : String} (plain : Template.hasOpening raw = false) (levels : Nat) :
    text property levels raw = pure raw := by
  cases levels <;> rw [text, plain] <;> rfl

theorem text_zero {raw : String} (opens : Template.hasOpening raw = true) :
    text property 0 raw = throw (.placeholder (.tooDeep raw)) := by
  rw [text, if_pos opens]

theorem text_succ {raw : String} (opens : Template.hasOpening raw = true) (levels : Nat) :
    text property (levels + 1) raw =
      Template.expand (reference property levels raw) raw := by
  rw [text, if_pos opens]
  rfl

/-- While levels are left, a text expands exactly if it is closed and its references can be
replaced; a text without references is a template with nothing to fill in. -/
theorem text_succ_eq_pure_iff {levels : Nat} {raw result : String} :
    text property (levels + 1) raw = pure result ↔
      (Template.ofText raw).closed = true ∧
        Template.expandSegments (reference property levels raw) (Template.ofText raw).rest
          (Template.ofText raw).segments = pure result.toList := by
  cases opens : Template.hasOpening raw with
  | false =>
    rw [text_of_plain opens, Template.ofText, Template.ofChars_plain opens, Reading.pure_inj]
    constructor
    · rintro rfl
      exact ⟨rfl, rfl⟩
    · rintro ⟨-, same⟩
      exact String.toList_inj.mp (Reading.pure_inj.mp same)
  | true =>
    rw [text_succ opens, Template.expand, Reading.bind_eq_pure]
    constructor
    · rintro ⟨filled, segments, rest⟩
      split at rest
      next closed =>
        refine ⟨closed, ?_⟩
        rw [← Reading.pure_inj.mp rest, String.toList_ofList]
        exact segments
      next => exact absurd rest.symm (Reading.pure_ne_throw _ _)
    · rintro ⟨closed, segments⟩
      refine ⟨result.toList, segments, ?_⟩
      rw [if_pos closed, String.ofList_toList]

theorem reference_of_absent {key : String} (absent : property key = some none) (levels : Nat)
    (raw : String) :
    reference property levels raw key = throw (.placeholder (.unresolved key raw)) := by
  simp only [reference, absent]
  rfl

theorem reference_of_string {key s : String} (held : property key = some (some (.string s)))
    (levels : Nat) (raw : String) : reference property levels raw key = text property levels s := by
  simp only [reference, held]
  rfl

theorem run_reference (levels : Nat) (raw key : String) :
    (reference property levels raw key).run =
      (property key).bind fun found =>
        match found with
        | none => some (.error (.placeholder (.unresolved key raw)))
        | some v =>
          match referenceText key v with
          | .error e => some (.error e)
          | .ok inner => (text property levels inner).run := by
  cases asked : property key with
  | none => simp only [reference, asked]; rfl
  | some found =>
    cases found with
    | none => simp only [reference, asked]; rfl
    | some v =>
      simp only [reference, asked, Option.bind_some]
      change (ExceptT.mk (some (referenceText key v)) >>= text property levels).run = _
      cases referenceText key v <;> rfl

/-- A text around one reference is what the reference is replaced by, between what stands around
it. -/
theorem expand_reference (lookup : String → Reading String) {before key after : String}
    (plainBefore : Template.hasOpening before = false)
    (plainAfter : Template.hasOpening after = false) (referable : Template.Referable key) :
    Template.expand lookup (before ++ Template.reference key ++ after) = (do
      let inner ← lookup key
      pure (before ++ inner ++ after)) := by
  have same : Segment.key ⟨before.toList, key.toList⟩ = key := by
    rw [Segment.key, referable.2, String.ofList_toList]
  rw [Template.expand, Template.ofText_reference plainBefore plainAfter referable]
  simp only [Template.expandSegments, same, bind_assoc, pure_bind, if_true, String.ofList_append,
    String.ofList_toList]

section Reference

variable {before key after : String} (plainBefore : Template.hasOpening before = false)
  (plainAfter : Template.hasOpening after = false) (referable : Template.Referable key)

include plainBefore plainAfter referable

/-- A reference to a string is replaced by what the string expands to, one level below. -/
theorem text_reference_of_string {s : String} (held : property key = some (some (.string s)))
    (levels : Nat) :
    text property (levels + 1) (before ++ Template.reference key ++ after) = (do
      let inner ← text property levels s
      pure (before ++ inner ++ after)) := by
  rw [text_succ (Template.hasOpening_reference before key after),
    expand_reference _ plainBefore plainAfter referable]
  simp only [reference_of_string held]

/-- A reference to a plain string is replaced by it. -/
theorem text_reference_of_plain {s : String} (held : property key = some (some (.string s)))
    (plain : Template.hasOpening s = false) (levels : Nat) :
    text property (levels + 1) (before ++ Template.reference key ++ after) =
      pure (before ++ s ++ after) := by
  rw [text_reference_of_string plainBefore plainAfter referable held, text_of_plain plain,
    pure_bind]

/-- A reference to a key without a value cannot be replaced. -/
theorem text_reference_of_absent (absent : property key = some none) (levels : Nat) :
    text property (levels + 1) (before ++ Template.reference key ++ after) =
      throw (.placeholder (.unresolved key (before ++ Template.reference key ++ after))) := by
  rw [text_succ (Template.hasOpening_reference before key after),
    expand_reference _ plainBefore plainAfter referable]
  simp only [reference_of_absent absent]
  rfl

end Reference

/-- A text that is a reference and nothing else is what the reference is replaced by. -/
theorem text_reference_alone {key : String} (referable : Template.Referable key) (levels : Nat) :
    text property (levels + 1) (Template.reference key) =
      reference property levels (Template.reference key) key := by
  have nothing : Template.hasOpening "" = false := by decide
  have expands := expand_reference (reference property levels (Template.reference key)) nothing
    nothing referable
  rw [← Template.reference_alone] at expands
  rw [text_succ (Template.hasOpening_reference_alone key), expands]
  simp only [String.empty_append, String.append_empty, bind_pure]

/-- The items of a list are expanded one by one. -/
theorem values_eq_pure_iff {items results : List Value} :
    values property items = pure results ↔
      List.Forall₂ (fun v w => value property v = pure w) items results := by
  induction items generalizing results with
  | nil =>
    rw [values, Reading.pure_inj, List.forall₂_nil_left_iff, eq_comm]
  | cons item rest ih =>
    rw [values, Reading.bind_eq_pure, List.forall₂_cons_left_iff]
    constructor
    · rintro ⟨first, here, behind⟩
      obtain ⟨others, later, joined⟩ := Reading.bind_eq_pure.mp behind
      exact ⟨first, others, here, ih.mp later, (Reading.pure_inj.mp joined).symm⟩
    · rintro ⟨first, others, here, later, rfl⟩
      exact ⟨first, here, Reading.bind_eq_pure.mpr ⟨others, ih.mpr later, rfl⟩⟩

/-- A string is expanded as a text, under the full number of levels. -/
theorem run_value_string (s : String) :
    (value property (.string s)).run =
      ((text property nestingLimit s).run).map (·.map Value.string) := by
  rw [value, ExceptT.run_bind]
  cases (text property nestingLimit s).run with
  | none => rfl
  | some result => cases result <;> rfl

/-! ### Why an expansion fails -/

/-- The reasons for which an expansion fails. -/
def Refusal : ConfigError → Prop
  | .placeholder _ => True
  | .typeMismatch _ _ => True
  | _ => False

theorem asText_refusal {key : String} {v : Value} {e : ConfigError}
    (fails : v.asText key = .error e) : Refusal e := by
  rw [Value.asText] at fails
  cases found : v.scalarText? with
  | none =>
    rw [found] at fails
    injection fails with same
    rw [← same]
    trivial
  | some s =>
    rw [found] at fails
    cases fails

theorem referenceText_refusal {key : String} {v : Value} {e : ConfigError}
    (fails : referenceText key v = .error e) : Refusal e := by
  unfold referenceText at fails
  split at fails
  next => cases fails
  next => exact asText_refusal fails

theorem expandSegments_refusal {lookup : String → Reading String}
    (lookups : ∀ key, Reading.FailsOnly Refusal (lookup key)) (after : List Char)
    (segments : List Segment) :
    Reading.FailsOnly Refusal (Template.expandSegments lookup after segments) := by
  induction segments with
  | nil => exact Reading.failsOnly_pure after
  | cons s rest ih =>
    apply Reading.failsOnly_bind (lookups s.key)
    intro text
    apply Reading.failsOnly_bind ih
    exact fun more => Reading.failsOnly_pure _

theorem expand_refusal {lookup : String → Reading String}
    (lookups : ∀ key, Reading.FailsOnly Refusal (lookup key)) (raw : String) :
    Reading.FailsOnly Refusal (Template.expand lookup raw) := by
  apply Reading.failsOnly_bind (expandSegments_refusal lookups _ _)
  intro filled
  split
  · exact Reading.failsOnly_pure _
  · exact Reading.failsOnly_throw trivial

theorem text_refusal (levels : Nat) (raw : String) :
    Reading.FailsOnly Refusal (text property levels raw) := by
  -- On the levels, for every text, as in the definition.
  induction levels generalizing raw with
  | zero =>
    cases opens : Template.hasOpening raw with
    | false => rw [text_of_plain opens]; exact Reading.failsOnly_pure raw
    | true => rw [text_zero opens]; exact Reading.failsOnly_throw trivial
  | succ levels ih =>
    cases opens : Template.hasOpening raw with
    | false => rw [text_of_plain opens]; exact Reading.failsOnly_pure raw
    | true =>
      rw [text_succ opens]
      apply expand_refusal
      intro key
      unfold reference
      refine Reading.failsOnly_bind (Reading.failsOnly_lift (property key)) fun found => ?_
      cases found with
      | none => exact Reading.failsOnly_throw trivial
      | some v =>
        exact Reading.failsOnly_bind (Reading.failsOnly_mk fun e => referenceText_refusal) ih

/-- An expansion never fails because the key itself is missing. -/
theorem value_refusal (v : Value) : Reading.FailsOnly Refusal (value property v) := by
  -- Along the recursion of the expansion through the items of lists.
  induction v using Expansion.value.induct
    (motive_2 := fun items => Reading.FailsOnly Refusal (values property items)) with
  | case1 s =>
    rw [value]
    exact Reading.failsOnly_bind (text_refusal nestingLimit s) fun _ => Reading.failsOnly_pure _
  | case2 items ih =>
    rw [value]
    exact Reading.failsOnly_bind ih fun _ => Reading.failsOnly_pure _
  | case3 v notString notList =>
    rw [value.eq_3 _ _ notString notList]
    exact Reading.failsOnly_pure v
  | case4 => exact Reading.failsOnly_pure []
  | case5 item rest first others =>
    rw [values]
    exact Reading.failsOnly_bind first fun _ =>
      Reading.failsOnly_bind others fun _ => Reading.failsOnly_pure _

end ConfigStack.Expansion
