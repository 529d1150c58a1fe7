import ConfigStack.Proofs.Text
import ConfigStack.Template

/-!
# Taking templates apart

A text without an opening is one literal piece. A text that goes on with a reference after such a
piece has it as its first segment. Nothing is lost on the way: the template of a text, put together
again, is the text.
-/
namespace ConfigStack.Template

/-- A text in which no reference begins. -/
def Plain (cs : List Char) : Prop :=
  Text.occursIn ['$', '{'] cs = false

theorem plain_iff (s : String) : Plain s.toList ↔ hasOpening s = false := Iff.rfl

theorem not_opening {c : Char} {cs : List Char}
    (other : ∀ after, c = '$' → cs = '{' :: after → False) :
    ['$', '{'].isPrefixOf (c :: cs) = false := by
  rw [← Bool.not_eq_true, List.isPrefixOf_iff_prefix]
  rintro ⟨after, same⟩
  simp only [List.cons_append, List.nil_append, List.cons.injEq] at same
  exact other after same.1.symm same.2.symm

theorem cutOpening_eq_none_iff (cs : List Char) : cutOpening cs = none ↔ Plain cs := by
  induction cs with
  | nil => simp [cutOpening, Plain, Text.occursIn]
  | cons c cs ih =>
    unfold cutOpening
    split
    next after => simp [Plain, Text.occursIn]
    next other =>
      -- No opening begins here, so it is a matter of the rest.
      rw [Plain, Text.occursIn, not_opening other, Bool.false_or, ← Plain, ← ih]
      cases cutOpening cs <;> simp

theorem cutOpening_append {literal : List Char} (plain : Plain literal) (rest : List Char) :
    cutOpening (literal ++ '$' :: '{' :: rest) = some (literal, rest) := by
  induction literal with
  | nil => rfl
  | cons c cs ih =>
    have tail : Plain cs := Text.occursIn_eq_false_of_infix (List.infix_cons List.infix_rfl) plain
    rw [List.cons_append]
    unfold cutOpening
    split
    next after first =>
      -- The literal piece ends before the opening, so both of its characters would lie inside.
      rcases cs with _ | ⟨d, ds⟩
      · simp at first
      · simp only [List.cons_append, List.cons.injEq] at first
        rw [first.1] at plain
        simp [Plain, Text.occursIn] at plain
    next => rw [ih tail]

theorem cutClosing_append {written : List Char} (unbraced : '}' ∉ written) (rest : List Char) :
    cutClosing (written ++ '}' :: rest) = some (written, rest) := by
  induction written with
  | nil => rfl
  | cons c cs ih =>
    simp only [List.mem_cons, not_or] at unbraced
    rw [List.cons_append, cutClosing, if_neg (Ne.symm unbraced.1), ih unbraced.2]

/-- What stands before the first opening has none. -/
theorem plain_of_cutOpening {cs literal opened : List Char}
    (opens : cutOpening cs = some (literal, opened)) : Plain literal := by
  induction cs generalizing literal with
  | nil => simp [cutOpening] at opens
  | cons c cs ih =>
    unfold cutOpening at opens
    split at opens
    next after =>
      obtain ⟨rfl, -⟩ := Prod.mk.inj (Option.some.inj opens)
      rfl
    next other =>
      split at opens
      next before after cut =>
        obtain ⟨rfl, rfl⟩ := Prod.mk.inj (Option.some.inj opens)
        -- An opening at the seam would have been the first one.
        have elsewhere : ∀ after, c = '$' → before = '{' :: after → False := by
          rintro more rfl rfl
          exact other _ rfl (eq_of_cutOpening cut)
        rw [Plain, Text.occursIn, not_opening elsewhere, Bool.false_or]
        exact ih cut
      next => cases opens

theorem unbraced_of_cutClosing {opened written rest : List Char}
    (closes : cutClosing opened = some (written, rest)) : '}' ∉ written := by
  induction opened generalizing written with
  | nil => simp [cutClosing] at closes
  | cons c cs ih =>
    unfold cutClosing at closes
    split at closes
    next =>
      obtain ⟨rfl, -⟩ := Prod.mk.inj (Option.some.inj closes)
      exact List.not_mem_nil
    next other =>
      split at closes
      next before after cut =>
        obtain ⟨rfl, rfl⟩ := Prod.mk.inj (Option.some.inj closes)
        simp only [List.mem_cons, not_or]
        exact ⟨Ne.symm other, ih cut⟩
      next => cases closes

theorem ofChars_plain {cs : List Char} (plain : Plain cs) : ofChars cs = ⟨[], cs, true⟩ := by
  rw [← cutOpening_eq_none_iff] at plain
  unfold ofChars
  split
  next => rfl
  next opens => simp [plain] at opens

theorem ofChars_of_cuts {cs literal opened written rest : List Char}
    (opens : cutOpening cs = some (literal, opened))
    (closes : cutClosing opened = some (written, rest)) :
    ofChars cs =
      { ofChars rest with segments := ⟨literal, written⟩ :: (ofChars rest).segments } := by
  rw [ofChars]
  split
  next none => simp [opens] at none
  next found =>
    rw [opens, Option.some.injEq, Prod.mk.injEq] at found
    obtain ⟨rfl, rfl⟩ := found
    split
    next none => simp [closes] at none
    next found =>
      rw [closes, Option.some.injEq, Prod.mk.injEq] at found
      obtain ⟨rfl, rfl⟩ := found
      rfl

theorem ofChars_segment {literal written : List Char} (plain : Plain literal)
    (unbraced : '}' ∉ written) (rest : List Char) :
    ofChars (literal ++ '$' :: '{' :: (written ++ '}' :: rest)) =
      { ofChars rest with segments := ⟨literal, written⟩ :: (ofChars rest).segments } :=
  ofChars_of_cuts (cutOpening_append plain _) (cutClosing_append unbraced rest)

theorem toChars_ofChars (cs : List Char) : (ofChars cs).toChars = cs := by
  fun_induction ofChars cs with
  | case1 => rfl
  | case2 => rfl
  | case3 cs literal opened opens written rest closes t ih =>
    -- What the two cuts leave out is the opening and the closing brace.
    rw [eq_of_cutOpening opens, eq_of_cutClosing closes]
    simp only [toChars, List.foldr_cons] at ih ⊢
    rw [ih]
    simp

/-- A template without segments was taken from a plain text, unless it is not closed. -/
theorem plain_of_segments_nil {cs : List Char} (closed : (ofChars cs).closed = true)
    (empty : (ofChars cs).segments = []) : Plain cs := by
  rw [← cutOpening_eq_none_iff]
  revert closed empty
  fun_cases ofChars cs with
  | case1 opens => exact fun _ _ => opens
  | case2 => simp
  | case3 => simp

/-! ### Texts made around one reference -/

/-- A key that is read back from a reference to it. -/
def Referable (key : String) : Prop :=
  '}' ∉ key.toList ∧ Text.trim key.toList = key.toList

instance (key : String) : Decidable (Referable key) :=
  inferInstanceAs (Decidable (_ ∧ _))

theorem toList_reference (before key after : String) :
    (before ++ reference key ++ after).toList =
      before.toList ++ '$' :: '{' :: (key.toList ++ '}' :: after.toList) := by
  simp [reference, String.toList_append]

theorem hasOpening_reference (before key after : String) :
    hasOpening (before ++ reference key ++ after) = true := by
  rw [hasOpening, Text.occursIn_iff_infix, toList_reference]
  exact ⟨before.toList, key.toList ++ '}' :: after.toList, by simp⟩

theorem ofText_reference {before key after : String} (plainBefore : hasOpening before = false)
    (plainAfter : hasOpening after = false) (referable : Referable key) :
    ofText (before ++ reference key ++ after) =
      ⟨[⟨before.toList, key.toList⟩], after.toList, true⟩ := by
  rw [ofText, toList_reference, ofChars_segment plainBefore referable.1, ofChars_plain plainAfter]

/-- A reference with nothing around it. -/
theorem reference_alone (key : String) : reference key = "" ++ reference key ++ "" := by
  rw [String.empty_append, String.append_empty]

theorem ofText_reference_alone {key : String} (referable : Referable key) :
    ofText (reference key) = ⟨[⟨[], key.toList⟩], [], true⟩ := by
  rw [reference_alone, ofText_reference (by decide) (by decide) referable]
  rfl

theorem hasOpening_reference_alone (key : String) : hasOpening (reference key) = true := by
  rw [reference_alone, hasOpening_reference]

end ConfigStack.Template
