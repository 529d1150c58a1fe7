import ConfigStack.Proofs.ExpansionTree
import ConfigStack.Proofs.SelfExpansion

/-!
# Dependence between keys

A value refers to the keys of the closed references in its string, or in the strings of its items.
A reference to a list stands for the texts of its items joined by commas, and a text that leaves a
reference open takes in what follows; so an item refers to a key only where the texts before it are
closed.

A key whose value expands is a `Base`: all that the value refers to expands with fewer levels, and
so is a base with fewer levels. Along references the levels shrink, and no key leads back to
itself.
-/
namespace ConfigStack

/-! ### References in joined texts -/

namespace Template

/-- A reference that a text has is cut out of it first, or out of the rest. -/
theorem cut_of_member {cs : List Char} {s : Segment} (member : s ∈ (ofChars cs).segments) :
    ∃ literal written rest, Plain literal ∧ '}' ∉ written ∧
      cs = literal ++ '$' :: '{' :: (written ++ '}' :: rest) ∧
      (s = ⟨literal, written⟩ ∨ s ∈ (ofChars rest).segments) := by
  revert member
  fun_cases ofChars cs with
  | case1 => exact fun member => absurd member List.not_mem_nil
  | case2 => exact fun member => absurd member List.not_mem_nil
  | case3 literal opened opens written rest closes =>
    intro member
    refine ⟨literal, written, rest, plain_of_cutOpening opens, unbraced_of_cutClosing closes, ?_,
      List.mem_cons.mp member⟩
    rw [eq_of_cutOpening opens, eq_of_cutClosing closes]

/-- What follows a text takes no reference away from it. -/
theorem member_append {cs : List Char} {s : Segment} (member : s ∈ (ofChars cs).segments)
    (more : List Char) : s ∈ (ofChars (cs ++ more)).segments := by
  fun_induction ofChars cs with
  | case1 => cases member
  | case2 => cases member
  | case3 cs literal opened opens written rest closes t ih =>
    have joined : cs ++ more = literal ++ '$' :: '{' :: (written ++ '}' :: (rest ++ more)) := by
      rw [eq_of_cutOpening opens, eq_of_cutClosing closes]
      simp
    rw [joined, ofChars_segment (plain_of_cutOpening opens) (unbraced_of_cutClosing closes)]
    rcases List.mem_cons.mp member with rfl | later
    · exact List.mem_cons_self
    · exact List.mem_cons_of_mem _ (ih later)

theorem member_behind {cs more : List Char} (closed : (ofChars cs).closed = true) {s : Segment}
    (member : s ∈ (ofChars more).segments) :
    ∃ t ∈ (ofChars (cs ++ ',' :: more)).segments, t.key = s.key := by
  fun_induction ofChars cs with
  | case1 cs opens =>
    -- The plain text becomes a part of the first literal piece.
    have plain := (cutOpening_eq_none_iff cs).mp opens
    obtain ⟨literal, written, rest, plainToo, unbraced, rfl, own⟩ := cut_of_member member
    have piece : Plain (cs ++ ',' :: literal) := by
      have behind : Plain (',' :: literal) := by
        rw [Plain, Text.occursIn, plainToo, Bool.or_false]
        rfl
      exact Text.occursIn_append plain behind (by simp)
    have joined : cs ++ ',' :: (literal ++ '$' :: '{' :: (written ++ '}' :: rest)) =
        cs ++ ',' :: literal ++ '$' :: '{' :: (written ++ '}' :: rest) := by
      simp
    rw [joined, ofChars_segment piece unbraced]
    rcases own with rfl | later
    · exact ⟨_, List.mem_cons_self, rfl⟩
    · exact ⟨s, List.mem_cons_of_mem _ later, rfl⟩
  | case2 => cases closed
  | case3 cs literal opened opens written rest closes t ih =>
    have joined : cs ++ ',' :: more =
        literal ++ '$' :: '{' :: (written ++ '}' :: (rest ++ ',' :: more)) := by
      rw [eq_of_cutOpening opens, eq_of_cutClosing closes]
      simp
    obtain ⟨found, later, same⟩ := ih closed
    rw [joined, ofChars_segment (plain_of_cutOpening opens) (unbraced_of_cutClosing closes)]
    exact ⟨found, List.mem_cons_of_mem _ later, same⟩

end Template

namespace Expansion

theorem Mentions.append {raw key : String} (mentions : Mentions raw key) (more : String) :
    Mentions (raw ++ more) key := by
  obtain ⟨s, member, same⟩ := mentions
  refine ⟨s, ?_, same⟩
  rw [Template.ofText, String.toList_append]
  exact Template.member_append member more.toList

theorem Mentions.behind {raw key : String} (mentions : Mentions raw key) {first : String}
    (closed : (Template.ofText first).closed = true) : Mentions (first ++ "," ++ raw) key := by
  obtain ⟨s, member, rfl⟩ := mentions
  obtain ⟨t, found, same⟩ := Template.member_behind closed member
  refine ⟨t, ?_, same⟩
  have spelled : (first ++ "," ++ raw).toList = first.toList ++ ',' :: raw.toList := by
    simp [String.toList_append]
  rwa [Template.ofText, spelled]

theorem mentions_intercalate {before behind : List String} {raw key : String}
    (closed : ∀ t ∈ before, (Template.ofText t).closed = true) (mentions : Mentions raw key) :
    Mentions (String.intercalate "," (before ++ raw :: behind)) key := by
  -- On the texts before: each is closed, so the comma behind it is outside of a reference.
  induction before with
  | nil =>
    cases behind with
    | nil => exact mentions
    | cons next later =>
      rw [List.nil_append, String.intercalate_cons_cons, String.append_assoc]
      exact mentions.append _
  | cons first rest ih =>
    have tail := ih fun t member => closed t (List.mem_cons_of_mem first member)
    obtain ⟨next, later, same⟩ : ∃ next later, rest ++ raw :: behind = next :: later :=
      List.exists_cons_of_ne_nil (by simp)
    rw [List.cons_append, same, String.intercalate_cons_cons, ← same]
    exact tail.behind (closed first List.mem_cons_self)

/-! ### References of a value -/

/-- The value has a closed reference to the key. -/
inductive Refers : Value → String → Prop where
  | string {raw key : String} (mentions : Mentions raw key) : Refers (.string raw) key
  | item {before behind : List Value} {raw key : String}
    (closed : ∀ t ∈ before.filterMap Value.scalarText?, (Template.ofText t).closed = true)
    (mentions : Mentions raw key) : Refers (.list (before ++ .string raw :: behind)) key

/-- The value of the key refers to the other. -/
def ValueRefers (property : String → Option (Option Value)) (key other : String) : Prop :=
  ∃ v, property key = some (some v) ∧ Refers v other

/-- What a reference to a value stands for has the references of the value. -/
theorem Refers.mentions {v : Value} {key s : String} (refers : Refers v key)
    (spliced : Spliced v s) : Mentions s key := by
  cases refers with
  | string mentions =>
    rwa [← Spliced.unique (.scalar rfl) spliced]
  | @item before behind raw key closed mentions =>
    rw [← Spliced.unique (.list _) spliced, List.filterMap_append,
      List.filterMap_cons_some (by rfl)]
    exact mentions_intercalate closed mentions

/-! ### Bases -/

section Base

variable {property : String → Option (Option Value)} {levels : Nat} {key other : String}

/-- What a reference to the key stands for expands within the levels. -/
def Expandable (property : String → Option (Option Value)) (levels : Nat) (key : String) : Prop :=
  ∃ s, TextOf property key s ∧ ∃ t, text property levels s = pure t

/-- The key has a value, and all that the value refers to expands within fewer levels. -/
def Base (property : String → Option (Option Value)) (levels : Nat) (key : String) : Prop :=
  ∃ v, property key = some (some v) ∧
    ∀ other, Refers v other → ∃ below < levels, Expandable property below other

theorem expandable_of_mentions {raw t : String} (gives : text property levels raw = pure t)
    (mentions : Mentions raw other) : ∃ below < levels, Expandable property below other := by
  obtain ⟨s, member, rfl⟩ := mentions
  have opens : Template.hasOpening raw = true := by
    by_contra plain
    rw [Bool.not_eq_true] at plain
    rw [Template.ofText, Template.ofChars_plain plain] at member
    cases member
  obtain ⟨below, filled, rfl, segments, -, -⟩ := segments_of_text opens gives
  obtain ⟨inner, looked⟩ := lookup_of_expandSegments segments member
  obtain ⟨named, stands, expands⟩ := reference_eq_pure_iff.mp looked
  exact ⟨below, Nat.lt_succ_self below, named, stands, inner, expands⟩

theorem Expandable.base (expandable : Expandable property levels key) :
    Base property levels key := by
  obtain ⟨s, ⟨v, held, spliced⟩, t, gives⟩ := expandable
  exact ⟨v, held, fun _ refers => expandable_of_mentions gives (refers.mentions spliced)⟩

theorem value_of_values {before behind results : List Value} {item : Value}
    (gives : values property (before ++ item :: behind) = pure results) :
    ∃ w, value property item = pure w := by
  induction before generalizing results with
  | nil =>
    rw [List.nil_append, values] at gives
    obtain ⟨w, here, -⟩ := Reading.bind_eq_pure.mp gives
    exact ⟨w, here⟩
  | cons first rest ih =>
    rw [List.cons_append, values] at gives
    obtain ⟨_, _, later⟩ := Reading.bind_eq_pure.mp gives
    obtain ⟨others, tail, -⟩ := Reading.bind_eq_pure.mp later
    exact ih tail

theorem text_of_value_string {raw : String} {w : Value}
    (gives : value property (.string raw) = pure w) :
    ∃ t, text property nestingLimit raw = pure t := by
  rw [value] at gives
  obtain ⟨t, expands, -⟩ := Reading.bind_eq_pure.mp gives
  exact ⟨t, expands⟩

theorem base_of_value {v w : Value} (held : property key = some (some v))
    (gives : value property v = pure w) : Base property nestingLimit key := by
  refine ⟨v, held, fun other refers => ?_⟩
  cases refers with
  | string mentions =>
    obtain ⟨t, expands⟩ := text_of_value_string gives
    exact expandable_of_mentions expands mentions
  | item closed mentions =>
    rw [value] at gives
    obtain ⟨results, expands, -⟩ := Reading.bind_eq_pure.mp gives
    obtain ⟨w, own⟩ := value_of_values expands
    obtain ⟨t, expands⟩ := text_of_value_string own
    exact expandable_of_mentions expands mentions

/-- A base leads to bases with fewer levels. -/
theorem Base.step (base : Base property levels key) (refers : ValueRefers property key other) :
    ∃ below < levels, Base property below other := by
  obtain ⟨v, held, expands⟩ := base
  obtain ⟨w, same, named⟩ := refers
  obtain rfl : v = w := Option.some.inj (Option.some.inj (held.symm.trans same))
  obtain ⟨below, fewer, expandable⟩ := expands other named
  exact ⟨below, fewer, expandable.base⟩

end Base

/-! ### Cycles and ranks -/

section Ranked

variable {κ : Type} {edge : κ → κ → Prop} {ranked : Nat → κ → Prop}
  (step : ∀ n a b, edge a b → ranked n a → ∃ below < n, ranked below b) {a b : κ} {n : Nat}

include step

/-- Where every edge lowers the rank, a path does. -/
theorem lower_of_path (path : Relation.TransGen edge a b) (start : ranked n a) :
    ∃ below < n, ranked below b := by
  induction path with
  | single first => exact step n _ _ first start
  | tail _ last ih =>
    obtain ⟨between, less, reached⟩ := ih
    obtain ⟨below, stillLess, ended⟩ := step between _ _ last reached
    exact ⟨below, Nat.lt_trans stillLess less, ended⟩

theorem not_ranked_on_cycle (cycle : Relation.TransGen edge a a) : ¬ranked n a := by
  -- Once around the cycle there would be a lower rank of the same.
  intro start
  induction n using Nat.strongRecOn with
  | ind n ih =>
    obtain ⟨below, less, again⟩ := lower_of_path step cycle start
    exact ih below less again

theorem ranked_of_path (path : Relation.ReflTransGen edge a b) (start : ranked n a) :
    ∃ m, ranked m b := by
  rcases Relation.reflTransGen_iff_eq_or_transGen.mp path with rfl | path
  · exact ⟨n, start⟩
  · obtain ⟨below, -, reached⟩ := lower_of_path step path start
    exact ⟨below, reached⟩

end Ranked

section Detour

variable {κ : Type} {edge own : κ → κ → Prop} {hub : κ}
  (others : ∀ a b, edge a b → a ≠ hub → own a b)

include others

/-- A path whose edges away from the hub are of a kind is of this kind, up to the hub if it comes
there. -/
theorem path_to_hub {a b : κ} (path : Relation.ReflTransGen edge a b) :
    Relation.ReflTransGen own a b ∨
      Relation.ReflTransGen own a hub ∧ Relation.ReflTransGen edge hub b := by
  induction path using Relation.ReflTransGen.head_induction_on with
  | refl => exact .inl .refl
  | @head a c first rest ih =>
    by_cases here : a = hub
    · rw [here] at first ⊢
      exact .inr ⟨.refl, .head first rest⟩
    · have step := others a c first here
      exact ih.imp (.head step) fun ⟨leads, on⟩ => ⟨.head step leads, on⟩

/-- So is a cycle, or else it leads to the hub and from there back to it. -/
theorem cycle_or_hub {a : κ} (cycle : Relation.TransGen edge a a) :
    Relation.TransGen own a a ∨
      Relation.ReflTransGen own a hub ∧
        ∃ b, edge hub b ∧ Relation.ReflTransGen own b hub := by
  obtain ⟨b, first, back⟩ := Relation.TransGen.head'_iff.mp cycle
  by_cases here : a = hub
  · subst here
    exact .inr ⟨.refl, b, first, (path_to_hub others back).elim id And.left⟩
  · have step := others a b first here
    rcases path_to_hub others back with around | ⟨leads, on⟩
    · exact .inl (.head' step around)
    · refine .inr ⟨.head step leads, ?_⟩
      -- Beyond the hub the path goes on, as it has still to come to `a`.
      rcases Relation.ReflTransGen.cases_head on with same | ⟨c, out, rest⟩
      · exact absurd same.symm here
      · refine ⟨c, out, ?_⟩
        rcases path_to_hub others rest with again | ⟨again, -⟩
        · exact again.trans (.head step leads)
        · exact again

end Detour

end Expansion

end ConfigStack
