import ConfigStack.Proofs.Extension
import ConfigStack.Proofs.Seams

/-!
# Lists in the place of references

A reference to a list stands for the texts of its scalar items with commas between them. A comma
opens and closes nothing, so texts that expand by themselves expand joined, to what they expand to
by themselves, joined (`text_intercalate`). Behind a reference the joined text is one level deeper
than the items of the list are; so a list that has no need of the last level expands to the same
texts on both ways (`exists_expanded_items`).

A key that refers to another may just as well have the text that the other stands for: whatever
expands goes on to do so, and to the same (`value_of_relayed`).
-/
namespace ConfigStack

/-! ### Texts of numbers -/

namespace Decimal

theorem isDigit_of_mem_digitsOf {n : Nat} {c : Char} (member : c ∈ digitsOf n) :
    c.isDigit = true :=
  Nat.isDigit_of_mem_toDigits (by decide) (by decide) member

theorem isDigit_of_mem_zeros {count : Int} {c : Char} (member : c ∈ zeros count) :
    c.isDigit = true := by
  rw [(List.mem_replicate.mp member).2]
  rfl

theorem mem_plainMagnitude {d : Scaled} {c : Char} (member : c ∈ plainMagnitude d) :
    c = '.' ∨ c.isDigit = true := by
  simp only [plainMagnitude, withPoint] at member
  -- There is no point, or it stands among the digits, or before all of them.
  split_ifs at member
  · rcases List.mem_append.mp member with digit | zero
    · exact .inr (isDigit_of_mem_digitsOf digit)
    · exact .inr (isDigit_of_mem_zeros zero)
  · rcases List.mem_append.mp member with digit | behind
    · exact .inr (isDigit_of_mem_digitsOf (List.mem_of_mem_take digit))
    · exact (List.mem_cons.mp behind).imp_right fun digit =>
        isDigit_of_mem_digitsOf (List.mem_of_mem_drop digit)
  · rcases List.mem_append.mp member with front | digit
    · rcases List.mem_cons.mp front with rfl | front
      · exact .inr rfl
      · exact (List.mem_cons.mp front).imp_right isDigit_of_mem_zeros
    · exact .inr (isDigit_of_mem_digitsOf digit)

theorem dollar_not_mem_signed {cs : List Char} (clear : '$' ∉ cs) (negative : Bool) :
    '$' ∉ (signed negative cs).toList := by
  rw [signed, String.toList_ofList]
  cases negative with
  | true => simpa using clear
  | false => exact clear

theorem dollar_not_mem_plain (x : Float) : '$' ∉ (plain x).toList := by
  unfold plain
  split
  · decide
  · exact dollar_not_mem_signed (by decide) _
  · refine dollar_not_mem_signed (fun member => ?_) _
    exact (mem_plainMagnitude member).elim (by decide) (by decide)

end Decimal

namespace Value

theorem dollar_not_mem_integer (n : Int) : '$' ∉ (toString n).toList := by
  cases n with
  | ofNat n => exact Text.not_mem_natural (by decide) n
  | negSucc n =>
    change '$' ∉ ("-" ++ toString (n + 1)).toList
    rw [String.toList_append, List.mem_append, not_or]
    exact ⟨by decide, Text.not_mem_natural (by decide) (n + 1)⟩

/-- No reference begins in the text of a number or of a truth value. -/
theorem plain_scalarText {v : Value} (notString : ∀ raw, v ≠ .string raw) {s : String}
    (text : v.scalarText? = some s) : Template.hasOpening s = false := by
  have clear : '$' ∉ s.toList := by
    cases v with
    | string raw => exact absurd rfl (notString raw)
    | integer n =>
      rw [← Option.some.inj text]
      exact dollar_not_mem_integer n.toInt
    | float x =>
      rw [← Option.some.inj text]
      exact Decimal.dollar_not_mem_plain x
    | bool b => cases b <;> cases text <;> decide
    | null => cases text
    | list items => cases text
    | map entries => cases text
  rw [← Bool.not_eq_true, Template.hasOpening, Text.occursIn_iff_infix]
  exact fun inside => clear (inside.subset List.mem_cons_self)

end Value

namespace Expansion

variable {property : String → Option (Option Value)} {levels : Nat}

/-! ### Texts joined by commas -/

namespace Tree

/-- The tree with more text before it. -/
def behind (front : List Char) : Tree → Tree
  | .plain rest => .plain (front ++ rest)
  | .reference literal written inner after => .reference (front ++ literal) written inner after

/-- The tree of two texts with a comma between them. -/
def join : Tree → Tree → Tree
  | .plain rest, other => other.behind (rest ++ [','])
  | .reference literal written inner after, other =>
    .reference literal written inner (after.join other)

theorem source_behind (front : List Char) (tree : Tree) :
    (tree.behind front).source = front ++ tree.source := by
  cases tree with
  | plain rest => rfl
  | reference literal written inner after => exact List.append_assoc _ _ _

theorem result_behind (front : List Char) (tree : Tree) :
    (tree.behind front).result = front ++ tree.result := by
  cases tree with
  | plain rest => rfl
  | reference literal written inner after => simp only [behind, result, List.append_assoc]

theorem nesting_behind (front : List Char) (tree : Tree) :
    (tree.behind front).nesting = tree.nesting := by
  cases tree <;> rfl

theorem source_join (one other : Tree) :
    (one.join other).source = one.source ++ ',' :: other.source := by
  induction one with
  | plain rest => rw [join, source_behind, source, List.append_assoc, List.singleton_append]
  | reference literal written inner after _ ih => simp [join, source, ih]

theorem result_join (one other : Tree) :
    (one.join other).result = one.result ++ ',' :: other.result := by
  induction one with
  | plain rest => rw [join, result_behind, result, List.append_assoc, List.singleton_append]
  | reference literal written inner after _ ih => simp [join, result, ih]

theorem nesting_join (one other : Tree) :
    (one.join other).nesting = max one.nesting other.nesting := by
  induction one with
  | plain rest => rw [join, nesting_behind, nesting, Nat.zero_max]
  | reference literal written inner after _ ih => rw [join, nesting, nesting, ih, Nat.max_assoc]

theorem Grounded.behind {tree : Tree} (grounded : tree.Grounded property) {rest : List Char}
    (plain : Template.Plain rest) : (tree.behind (rest ++ [','])).Grounded property := by
  -- A comma neither ends nor begins an opening, so none comes about where the texts meet.
  have joined : ∀ {more}, Template.Plain more → Template.Plain (rest ++ [','] ++ more) := by
    intro more plainToo
    have comma : Template.Plain (',' :: more) := by
      rw [Template.Plain, Text.occursIn, plainToo, Bool.or_false]
      rfl
    rw [List.append_assoc]
    exact Text.occursIn_append plain comma (by simp)
  cases tree with
  | plain more => exact joined grounded
  | reference literal written inner after => exact ⟨joined grounded.1, grounded.2⟩

theorem Grounded.join {one other : Tree} (grounded : one.Grounded property)
    (groundedToo : other.Grounded property) : (one.join other).Grounded property := by
  induction one with
  | plain rest => exact groundedToo.behind grounded
  | reference literal written inner after _ ih =>
    obtain ⟨plain, unbraced, named, groundedInner, groundedAfter⟩ := grounded
    exact ⟨plain, unbraced, named, groundedInner, ih groundedAfter⟩

end Tree

theorem text_join {one other result resultToo : String}
    (gives : text property levels one = pure result)
    (givesToo : text property levels other = pure resultToo) :
    text property levels (one ++ "," ++ other) = pure (result ++ "," ++ resultToo) := by
  obtain ⟨tree, expands, same⟩ := text_eq_pure_iff.mp gives
  obtain ⟨treeToo, expandsToo, sameToo⟩ := text_eq_pure_iff.mp givesToo
  refine text_eq_pure_iff.mpr ⟨tree.join treeToo, ⟨?_, ?_, ?_⟩, ?_⟩
  · simp [Tree.source_join, expands.source, expandsToo.source, String.toList_append]
  · exact expands.grounded.join expandsToo.grounded
  · rw [Tree.nesting_join]
    exact Nat.max_le.mpr ⟨expands.nesting, expandsToo.nesting⟩
  · simp [Tree.result_join, same, sameToo, String.toList_append]

/-- Texts that expand by themselves expand joined. -/
theorem text_intercalate {texts results : List String}
    (expand : List.Forall₂ (fun raw t => text property levels raw = pure t) texts results) :
    text property levels (String.intercalate "," texts) =
      pure (String.intercalate "," results) := by
  induction expand with
  | nil => exact text_of_plain (by decide) levels
  | cons first others ih =>
    cases others with
    | nil => simpa only [String.intercalate_singleton] using first
    | cons =>
      rw [String.intercalate_cons_cons, String.intercalate_cons_cons]
      exact text_join first ih

/-! ### Items of a list -/

/-- Every string of the value, at any depth of lists, expands within the levels. -/
def ExpandsWithin (property : String → Option (Option Value)) (levels : Nat) (v : Value) : Prop :=
  ∀ raw ∈ v.strings, ∃ t, text property levels raw = pure t

theorem expandsWithin_list_iff {items : List Value} :
    ExpandsWithin property levels (.list items) ↔
      ∀ item ∈ items, ExpandsWithin property levels item := by
  rw [ExpandsWithin, Value.strings]
  induction items with
  | nil => simp [Value.stringsOfItems]
  | cons item rest ih =>
    rw [Value.stringsOfItems, List.forall_mem_append, List.forall_mem_cons, ih, ExpandsWithin]

theorem ExpandsWithin.of_le {more : Nat} (fewer : levels ≤ more) {v : Value}
    (within : ExpandsWithin property levels v) : ExpandsWithin property more v := by
  intro raw member
  obtain ⟨t, gives⟩ := within raw member
  exact ⟨t, text_of_le fewer gives⟩

theorem exists_filled_of_mem {raws ts : List String}
    (filled : List.Forall₂ (FilledIn property) raws ts) {raw : String} (member : raw ∈ raws) :
    ∃ t, FilledIn property raw t := by
  induction filled with
  | nil => cases member
  | cons first _ ih =>
    rcases List.mem_cons.mp member with rfl | later
    · exact ⟨_, first⟩
    · exact ih later

/-- A value expands if its strings do within all the levels there are. -/
theorem expandsWithin_iff {v : Value} :
    ExpandsWithin property nestingLimit v ↔ ∃ w, value property v = pure w := by
  constructor
  · intro within
    unfold ExpandsWithin at within
    -- By the value; for the items of a list, each of them expands and so does the rest.
    induction v using Expansion.value.induct
      (motive_2 := fun items =>
        (∀ raw ∈ Value.stringsOfItems items, ∃ t, text property nestingLimit raw = pure t) →
          ∃ results, values property items = pure results) with
    | case1 s =>
      rw [Value.strings, List.forall_mem_singleton] at within
      obtain ⟨t, gives⟩ := within
      exact ⟨.string t, by rw [value, gives, pure_bind]⟩
    | case2 items ih =>
      rw [Value.strings] at within
      obtain ⟨results, gives⟩ := ih within
      exact ⟨.list results, by rw [value, gives, pure_bind]⟩
    | case3 v notString notList => exact ⟨v, value.eq_3 _ _ notString notList⟩
    | case4 => exact ⟨[], rfl⟩
    | case5 item rest first others within =>
      rw [Value.stringsOfItems, List.forall_mem_append] at within
      obtain ⟨w, here⟩ := first within.1
      obtain ⟨results, later⟩ := others within.2
      exact ⟨w :: results, by rw [values, here, pure_bind, later, pure_bind]⟩
  · rintro ⟨w, gives⟩ raw member
    -- Every string of the value is filled in by a tree, and the tree is an expansion of it.
    obtain ⟨t, tree, expands, same, -⟩ := exists_filled_of_mem (strings_of_value gives) member
    exact ⟨t, text_eq_pure_iff.mpr ⟨tree, expands, same⟩⟩

/-- The text of an item and that of its expansion: both have none, or the first expands to the
second. -/
theorem scalarText_of_within {v w : Value} (within : ExpandsWithin property levels v)
    (fewer : levels ≤ nestingLimit) (gives : value property v = pure w) :
    Option.Rel (fun raw t => text property levels raw = pure t) v.scalarText? w.scalarText? := by
  -- Numbers and truth values stay as they are, and their texts have no references.
  have number : (∀ raw, v ≠ .string raw) → w = v →
      Option.Rel (fun raw t => text property levels raw = pure t) v.scalarText? w.scalarText? := by
    rintro notString rfl
    cases found : w.scalarText? with
    | none => exact .none
    | some s => exact .some (text_of_plain (Value.plain_scalarText notString found) levels)
  cases v with
  | string raw =>
    obtain ⟨t, expands⟩ := within raw (by rw [Value.strings]; exact List.mem_singleton_self raw)
    rw [value, text_of_le fewer expands, pure_bind, Reading.pure_inj] at gives
    rw [← gives]
    exact .some expands
  | list items =>
    rw [value, Reading.bind_eq_pure] at gives
    obtain ⟨results, -, same⟩ := gives
    rw [← Reading.pure_inj.mp same]
    exact .none
  | _ => exact number (by simp) (Reading.pure_inj.mp gives).symm

/-- A list whose items have no need of the last level expands to items with the texts that its
joined text expands to. -/
theorem exists_expanded_items {items : List Value}
    (within : ∀ item ∈ items, ExpandsWithin property levels item)
    (fewer : levels ≤ nestingLimit) :
    ∃ results, value property (.list items) = pure (.list results) ∧
      text property levels (String.intercalate "," (items.filterMap Value.scalarText?)) =
        pure (String.intercalate "," (results.filterMap Value.scalarText?)) := by
  obtain ⟨w, gives⟩ := expandsWithin_iff.mp
    ((expandsWithin_list_iff.mpr within).of_le fewer)
  obtain ⟨results, expands, rfl⟩ : ∃ results, values property items = pure results ∧
      .list results = w := by
    rw [value, Reading.bind_eq_pure] at gives
    obtain ⟨results, expands, same⟩ := gives
    exact ⟨results, expands, Reading.pure_inj.mp same⟩
  refine ⟨results, gives, text_intercalate ?_⟩
  have each := (List.forall₂_and_left _ _).mpr ⟨within, values_eq_pure_iff.mp expands⟩
  exact List.rel_filterMap (fun _ _ own => scalarText_of_within own.1 fewer own.2) each

/-! ### References to what refers on -/

theorem expandSegments_of_lookups {low high : String → Reading String}
    (looks : ∀ key t, low key = pure t → high key = pure t) {after filled : List Char}
    {segments : List Segment} (gives : Template.expandSegments low after segments = pure filled) :
    Template.expandSegments high after segments = pure filled := by
  induction segments generalizing filled with
  | nil => exact gives
  | cons s rest ih =>
    obtain ⟨t, first, behind⟩ := Reading.bind_eq_pure.mp gives
    obtain ⟨more, others, joined⟩ := Reading.bind_eq_pure.mp behind
    exact Reading.bind_eq_pure.mpr
      ⟨t, looks s.key t first, Reading.bind_eq_pure.mpr ⟨more, ih others, joined⟩⟩

/-- A text that is a reference and nothing else expands to what its key stands for, expanded one
level below. -/
theorem exists_text_of_reference {key t : String} (referable : Template.Referable key)
    (gives : text property levels (Template.reference key) = pure t) :
    ∃ below s, levels = below + 1 ∧ TextOf property key s ∧ text property below s = pure t := by
  cases levels with
  | zero =>
    rw [text_zero (Template.hasOpening_reference_alone key)] at gives
    exact absurd gives.symm (Reading.pure_ne_throw _ _)
  | succ below =>
    obtain ⟨s, named, expands⟩ := (text_reference_alone_eq_pure_iff referable below).mp gives
    exact ⟨below, s, rfl, named, expands⟩

/-- Two lookups that differ at one key: there the first has a reference to another key, and the
second the text that the other key has in the first. -/
structure Relayed (property direct : String → Option (Option Value)) (key through : String) :
    Prop where
  elsewhere : ∀ k, k ≠ key → direct k = property k
  referable : Template.Referable through
  referring : TextOf property key (Template.reference through)
  straight : ∀ s, TextOf property through s → TextOf direct key s

section Relayed

variable {direct : String → Option (Option Value)} {key through : String}
  (relayed : Relayed property direct key through)

include relayed

theorem text_of_relayed {raw t : String} (gives : text property levels raw = pure t) :
    text direct levels raw = pure t := by
  -- On the levels, two of which may go at once: the reference, and what it refers to.
  induction levels using Nat.strongRecOn generalizing raw t with
  | ind levels ih =>
    cases levels with
    | zero =>
      cases opens : Template.hasOpening raw with
      | false => rwa [text_of_plain opens] at gives ⊢
      | true =>
        rw [text_zero opens] at gives
        exact absurd gives.symm (Reading.pure_ne_throw _ _)
    | succ levels =>
      rw [text_succ_eq_pure_iff] at gives ⊢
      refine ⟨gives.1, expandSegments_of_lookups (fun k inner looked => ?_) gives.2⟩
      obtain ⟨s, named, expands⟩ := reference_eq_pure_iff.mp looked
      by_cases here : k = key
      · subst here
        obtain rfl := named.unique relayed.referring
        obtain ⟨below, text, rfl, named, expands⟩ :=
          exists_text_of_reference relayed.referable expands
        have same := ih below (Nat.lt_succ_of_lt (Nat.lt_succ_self below)) expands
        exact reference_eq_pure_iff.mpr
          ⟨text, relayed.straight text named, text_of_le (Nat.le_succ below) same⟩
      · obtain ⟨v, held, spliced⟩ := named
        exact reference_eq_pure_iff.mpr ⟨s, ⟨v, (relayed.elsewhere k here).trans held, spliced⟩,
          ih levels (Nat.lt_succ_self levels) expands⟩

/-- What expands goes on to do so where the reference is replaced by what it refers to. -/
theorem value_of_relayed {v w : Value} (gives : value property v = pure w) :
    value direct v = pure w :=
  value_of_texts (fun _ _ => text_of_relayed relayed) gives

end Relayed

end Expansion

end ConfigStack
