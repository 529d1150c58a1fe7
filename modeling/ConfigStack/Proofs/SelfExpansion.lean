import ConfigStack.Proofs.Expansion

/-!
# No text with a reference expands to itself

An expansion takes the opening brace of every reference out of the text. If what the references
stand for brings in none, the text has fewer of them afterwards than before. The one exception is
a text whose value is looked up while it is expanded: it does not expand at all, because every
level opens the same text again.
-/
namespace ConfigStack.Expansion

/-- What is filled in for bare references has the opening braces of the text but one for each
reference. -/
theorem count_expandSegments {lookup : String → Reading String} {after filled : List Char}
    {segments : List Segment} (gives : Template.expandSegments lookup after segments = pure filled)
    (bare : ∀ s ∈ segments, ∀ inner, lookup s.key = pure inner → '{' ∉ inner.toList)
    (closed : Bool) :
    filled.count '{' + segments.length ≤
      (Template.toChars ⟨segments, after, closed⟩).count '{' := by
  induction segments generalizing filled with
  | nil =>
    have same : filled = after := (Reading.pure_inj.mp gives).symm
    rw [same]
    exact Nat.le_refl _
  | cons s rest ih =>
    obtain ⟨inner, first, others⟩ := Reading.bind_eq_pure.mp gives
    obtain ⟨more, tail, joined⟩ := Reading.bind_eq_pure.mp others
    -- The reference goes with its opening brace, and what comes in its place has none.
    have lost : inner.toList.count '{' = 0 :=
      List.count_eq_zero.mpr (bare s List.mem_cons_self inner first)
    have kept := ih tail fun later member => bare later (List.mem_cons_of_mem s member)
    have braces : (['$', '{'] : List Char).count '{' = 1 := rfl
    have spelled : Template.toChars ⟨s :: rest, after, closed⟩ =
        s.literal ++ (['$', '{'] ++ (s.reference ++ (['}'] ++
          Template.toChars ⟨rest, after, closed⟩))) := by
      simp [Template.toChars]
    rw [← Reading.pure_inj.mp joined, spelled]
    simp only [List.count_append, lost, braces, List.length_cons]
    omega

/-- Every reference of a text that expands has a text of its own. -/
theorem lookup_of_expandSegments {lookup : String → Reading String} {after filled : List Char}
    {segments : List Segment} (gives : Template.expandSegments lookup after segments = pure filled)
    {s : Segment} (member : s ∈ segments) : ∃ inner, lookup s.key = pure inner := by
  induction segments generalizing filled with
  | nil => simp at member
  | cons first rest ih =>
    obtain ⟨inner, here, others⟩ := Reading.bind_eq_pure.mp gives
    obtain ⟨more, tail, -⟩ := Reading.bind_eq_pure.mp others
    rcases List.mem_cons.mp member with rfl | later
    · exact ⟨inner, here⟩
    · exact ih tail later

variable {property : String → Option (Option Value)}

/-- The segments of a text that expands are filled in, and it is closed. -/
theorem segments_of_text {raw result : String} {levels : Nat}
    (opens : Template.hasOpening raw = true) (gives : text property levels raw = pure result) :
    ∃ below filled, levels = below + 1 ∧
      Template.expandSegments (reference property below raw) (Template.ofText raw).rest
        (Template.ofText raw).segments = pure filled ∧
      (Template.ofText raw).closed = true ∧ String.ofList filled = result := by
  cases levels with
  | zero =>
    rw [text_zero opens] at gives
    exact absurd gives.symm (Reading.pure_ne_throw _ _)
  | succ below =>
    obtain ⟨closed, segments⟩ := text_succ_eq_pure_iff.mp gives
    exact ⟨below, result.toList, rfl, segments, closed, String.ofList_toList⟩

/-- A text with a reference to its own key does not expand. -/
theorem text_of_self_reference {raw : String} (opens : Template.hasOpening raw = true)
    {s : Segment} (member : s ∈ (Template.ofText raw).segments)
    (own : property s.key = some (some (.string raw))) (levels : Nat) (result : String) :
    text property levels raw ≠ pure result := by
  -- On the levels: each one opens the same text again, until none is left.
  induction levels generalizing result with
  | zero =>
    rw [text_zero opens]
    exact (Reading.pure_ne_throw _ _).symm
  | succ below ih =>
    intro gives
    obtain ⟨below', filled, same, segments, -, -⟩ := segments_of_text opens gives
    obtain rfl : below = below' := Nat.succ.inj same
    obtain ⟨inner, looked⟩ := lookup_of_expandSegments segments member
    rw [reference_of_string own] at looked
    exact ih inner looked

/-- A string that brings no opening brace into a text that refers to it. -/
def Bare (property : String → Option (Option Value)) (s : String) : Prop :=
  ∀ levels result, text property levels s = pure result → '{' ∉ result.toList

theorem bare_of_plain {s : String} (plain : Template.hasOpening s = false)
    (unbraced : '{' ∉ s.toList) : Bare property s := by
  intro levels result gives
  rw [text_of_plain plain] at gives
  rwa [← Reading.pure_inj.mp gives]

/-- Where all values but the text itself are bare, a text with an opening does not expand to
itself. -/
theorem text_ne_self {raw : String} (opens : Template.hasOpening raw = true)
    (others : ∀ key v, property key = some (some v) →
      v = .string raw ∨ ∃ s, v = .string s ∧ Bare property s) (levels : Nat) :
    text property levels raw ≠ pure raw := by
  intro gives
  obtain ⟨below, filled, -, segments, closed, same⟩ := segments_of_text opens gives
  have bare : ∀ s ∈ (Template.ofText raw).segments, ∀ inner,
      reference property below raw s.key = pure inner → '{' ∉ inner.toList := by
    intro s member inner looked
    cases held : property s.key with
    | none =>
      simp only [reference, held] at looked
      cases looked
    | some found =>
      cases found with
      | none =>
        rw [reference_of_absent held] at looked
        exact absurd looked.symm (Reading.pure_ne_throw _ _)
      | some v =>
        rcases others s.key v held with rfl | ⟨text, rfl, harmless⟩
        · exact absurd gives (text_of_self_reference opens member held levels raw)
        · rw [reference_of_string held] at looked
          exact harmless below inner looked
  -- So the result has fewer opening braces than the text, by the number of references.
  have count := count_expandSegments segments bare (Template.ofText raw).closed
  have whole : (Template.ofText raw).toChars = filled := by
    rw [Template.ofText, Template.toChars_ofChars, ← same, String.toList_ofList]
  have nonempty : 0 < (Template.ofText raw).segments.length := by
    rw [List.length_pos_iff]
    intro empty
    have plain := Template.plain_of_segments_nil closed empty
    rw [Template.plain_iff, opens] at plain
    cases plain
  have fewer : filled.count '{' + (Template.ofText raw).segments.length ≤ filled.count '{' := by
    rwa [whole] at count
  omega

end ConfigStack.Expansion
