import ConfigStack.Proofs.Configured
import Mathlib.Logic.Relation

/-!
# Expansion trees

What an expansion does, said without its recursion. A tree takes a text apart into literal pieces
and closed references, and has for each reference a tree of the text that its key stands for.
Putting the results of these trees in the places of the references gives the result of the tree.
A text expands within a number of levels exactly if it has a tree on whose branches no more texts
with references are nested (`text_eq_pure_iff`).

A tree of a key's text contains a smaller tree for every key that the text refers to. So a key from
which references lead to a cycle has no tree, of whatever nesting.
-/
namespace ConfigStack.Expansion

/-- The text that a value puts in the place of a reference: that of a scalar, or those of the scalar
items of a list with commas between them. Other values put nothing there. -/
inductive Spliced : Value → String → Prop where
  | scalar {v : Value} {s : String} (text : v.scalarText? = some s) : Spliced v s
  | list (items : List Value) :
    Spliced (.list items) (String.intercalate "," (items.filterMap Value.scalarText?))

theorem spliced_iff (key : String) (v : Value) (s : String) :
    Spliced v s ↔ referenceText key v = .ok s := by
  constructor
  · rintro (text | items)
    · cases v with
      | list items => cases text
      | _ => simp only [referenceText, Value.asText, text, orMismatch]
    · rfl
  · intro text
    cases v with
    | list items =>
      cases text
      exact .list items
    | _ =>
      apply Spliced.scalar
      simp only [referenceText, Value.asText, orMismatch] at text
      split at text
      next found => rw [found, Except.ok.inj text]
      next => cases text

theorem Spliced.unique {v : Value} {s t : String} (one : Spliced v s) (other : Spliced v t) :
    s = t := by
  rw [spliced_iff ""] at one other
  exact Except.ok.inj (one.symm.trans other)

/-- What a reference to the key stands for: the text of the value that the key has. -/
def TextOf (property : String → Option (Option Value)) (key s : String) : Prop :=
  ∃ v, property key = some (some v) ∧ Spliced v s

theorem TextOf.unique {property : String → Option (Option Value)} {key s t : String}
    (one : TextOf property key s) (other : TextOf property key t) : s = t := by
  obtain ⟨v, held, text⟩ := one
  obtain ⟨w, heldToo, textToo⟩ := other
  rw [held] at heldToo
  obtain rfl : v = w := Option.some.inj (Option.some.inj heldToo)
  exact text.unique textToo

/-- A tree of a text. -/
inductive Tree where
  /-- A text without references, or what follows the last one. -/
  | plain (rest : List Char)
  /-- A literal piece, the reference after it as written, the tree of what the reference stands for,
  and the tree of the text behind it. -/
  | reference (literal written : List Char) (inner after : Tree)

namespace Tree

/-- The text that the tree is of. -/
def source : Tree → List Char
  | .plain rest => rest
  | .reference literal written _ after =>
    literal ++ '$' :: '{' :: (written ++ '}' :: after.source)

/-- The text with everything filled in, from the leaves upwards. -/
def result : Tree → List Char
  | .plain rest => rest
  | .reference literal _ inner after => literal ++ inner.result ++ after.result

/-- The most texts with references that are nested on a branch. -/
def nesting : Tree → Nat
  | .plain _ => 0
  | .reference _ _ inner after => max (inner.nesting + 1) after.nesting

/-- The pieces of the tree are literal, its references are closed, and the tree inside one is of
what the reference stands for, its key being what is written without blanks around it. -/
def Grounded (property : String → Option (Option Value)) : Tree → Prop
  | .plain rest => Template.Plain rest
  | .reference literal written inner after =>
    Template.Plain literal ∧ '}' ∉ written ∧
      (∃ s, TextOf property (String.ofList (Text.trim written)) s ∧ inner.source = s.toList) ∧
      inner.Grounded property ∧ after.Grounded property

/-- The tree is an expansion of the text with at most `levels` texts nested. -/
structure Expands (property : String → Option (Option Value)) (levels : Nat) (raw : String)
    (tree : Tree) : Prop where
  source : tree.source = raw.toList
  grounded : tree.Grounded property
  nesting : tree.nesting ≤ levels

end Tree

variable {property : String → Option (Option Value)}

/-! ### Trees and expansions -/

/-- A tree without nesting is of a plain text, and leaves it as it is. -/
theorem Tree.plain_of_nesting_zero {tree : Tree} (grounded : tree.Grounded property)
    (flat : tree.nesting = 0) : Template.Plain tree.source ∧ tree.result = tree.source := by
  cases tree with
  | plain rest => exact ⟨grounded, rfl⟩
  | reference literal written inner after =>
    rw [nesting] at flat
    omega

theorem reference_eq_pure_iff {levels : Nat} {raw key inner : String} :
    reference property levels raw key = pure inner ↔
      ∃ s, TextOf property key s ∧ text property levels s = pure inner := by
  constructor
  · intro gives
    have ran : (reference property levels raw key).run = some (.ok inner) := gives
    rw [run_reference, Option.bind_eq_some_iff] at ran
    obtain ⟨found, held, ran⟩ := ran
    cases found with
    | none => cases ran
    | some v =>
      cases spliced : referenceText key v with
      | error e => simp only [spliced] at ran; cases ran
      | ok s =>
        simp only [spliced] at ran
        exact ⟨s, ⟨v, held, (spliced_iff key v s).mpr spliced⟩, ran⟩
  · rintro ⟨s, ⟨v, held, spliced⟩, gives⟩
    have ran : (reference property levels raw key).run = some (.ok inner) := by
      rw [run_reference, held, Option.bind_some]
      simp only [(spliced_iff key v s).mp spliced]
      exact gives
    exact ran

/-- A text that is a reference and nothing else expands to what the text of its key does, one level
below. -/
theorem text_reference_alone_eq_pure_iff {key t : String} (referable : Template.Referable key)
    (levels : Nat) : text property (levels + 1) (Template.reference key) = pure t ↔
      ∃ s, TextOf property key s ∧ text property levels s = pure t := by
  rw [text_reference_alone referable, reference_eq_pure_iff]

/-- The segments of a text can be filled in exactly if the text has a tree, where the lookup gives
what the trees one level below give. -/
theorem filled_iff_tree {lookup : String → Reading String} {below : Nat}
    (looks : ∀ key inner, lookup key = pure inner ↔
      ∃ s, TextOf property key s ∧
        ∃ tree : Tree, tree.Expands property below s ∧ tree.result = inner.toList)
    (cs filled : List Char) :
    ((Template.ofChars cs).closed = true ∧
        Template.expandSegments lookup (Template.ofChars cs).rest (Template.ofChars cs).segments =
          pure filled) ↔
      ∃ tree : Tree, tree.source = cs ∧ tree.Grounded property ∧ tree.nesting ≤ below + 1 ∧
        tree.result = filled := by
  -- Along the cuts that take the text apart.
  fun_induction Template.ofChars cs generalizing filled with
  | case1 cs opens =>
    -- Nothing opens a reference: the only tree is the leaf.
    have plain := (Template.cutOpening_eq_none_iff cs).mp opens
    constructor
    · rintro ⟨-, gives⟩
      exact ⟨.plain cs, rfl, plain, Nat.zero_le _, Reading.pure_inj.mp gives⟩
    · rintro ⟨tree, rfl, grounded, -, rfl⟩
      cases tree with
      | plain rest => exact ⟨rfl, rfl⟩
      | reference literal written inner after =>
        rw [Tree.source, Template.cutOpening_append grounded.1] at opens
        cases opens
  | case2 cs literal opened opens closes =>
    -- A reference opens and is never closed: there is neither a template nor a tree.
    constructor
    · rintro ⟨closed, -⟩
      cases closed
    · rintro ⟨tree, rfl, grounded, -, -⟩
      cases tree with
      | plain rest =>
        rw [Tree.source, (Template.cutOpening_eq_none_iff rest).mpr grounded] at opens
        cases opens
      | reference literal' written inner after =>
        rw [Tree.source, Template.cutOpening_append grounded.1] at opens
        obtain ⟨-, rfl⟩ := Prod.mk.inj (Option.some.inj opens)
        rw [Template.cutClosing_append grounded.2.1] at closes
        cases closes
  | case3 cs literal opened opens written rest closes t ih =>
    -- The first reference is looked up one level below, the rest of the text at this level.
    constructor
    · rintro ⟨closed, gives⟩
      obtain ⟨inner, first, others⟩ := Reading.bind_eq_pure.mp gives
      obtain ⟨more, tail, joined⟩ := Reading.bind_eq_pure.mp others
      obtain ⟨s, named, tree, expands, same⟩ := (looks _ inner).mp first
      obtain ⟨behind, sourceBehind, groundedBehind, nestingBehind, rfl⟩ :=
        (ih more).mp ⟨closed, tail⟩
      refine ⟨.reference literal written tree behind, ?_, ?_, ?_, ?_⟩
      · rw [Tree.source, sourceBehind, Template.eq_of_cutOpening opens,
          Template.eq_of_cutClosing closes]
      · exact ⟨Template.plain_of_cutOpening opens, Template.unbraced_of_cutClosing closes,
          ⟨s, named, expands.source⟩, expands.grounded, groundedBehind⟩
      · exact Nat.max_le.mpr ⟨Nat.succ_le_succ expands.nesting, nestingBehind⟩
      · rw [Tree.result, same]
        exact Reading.pure_inj.mp joined
    · rintro ⟨tree, rfl, grounded, nesting, rfl⟩
      cases tree with
      | plain text =>
        rw [Tree.source, (Template.cutOpening_eq_none_iff text).mpr grounded] at opens
        cases opens
      | reference literal' written' inner after =>
        obtain ⟨plain, unbraced, ⟨s, named, sourceInner⟩, groundedInner, groundedAfter⟩ := grounded
        rw [Tree.source, Template.cutOpening_append plain] at opens
        obtain ⟨rfl, rfl⟩ := Prod.mk.inj (Option.some.inj opens)
        rw [Template.cutClosing_append unbraced] at closes
        obtain ⟨rfl, rfl⟩ := Prod.mk.inj (Option.some.inj closes)
        obtain ⟨nestingInner, nestingAfter⟩ := Nat.max_le.mp nesting
        obtain ⟨closed, tail⟩ :=
          (ih after.result).mpr ⟨after, rfl, groundedAfter, nestingAfter, rfl⟩
        have first := (looks (String.ofList (Text.trim written')) (String.ofList inner.result)).mpr
          ⟨s, named, inner,
            ⟨sourceInner, groundedInner, Nat.le_of_succ_le_succ nestingInner⟩,
            (String.toList_ofList).symm⟩
        refine ⟨closed, Reading.bind_eq_pure.mpr ⟨_, first, ?_⟩⟩
        refine Reading.bind_eq_pure.mpr ⟨_, tail, ?_⟩
        rw [String.toList_ofList]
        rfl

/-- **Expansions are trees.** -/
theorem text_eq_pure_iff {levels : Nat} {raw result : String} :
    text property levels raw = pure result ↔
      ∃ tree : Tree, tree.Expands property levels raw ∧ tree.result = result.toList := by
  induction levels generalizing raw result with
  | zero =>
    -- Without a level left only a plain text has an expansion, and only a leaf is that flat.
    constructor
    · intro gives
      have plain : Template.hasOpening raw = false := by
        rw [← Bool.not_eq_true]
        intro opens
        rw [text_zero opens] at gives
        exact Reading.pure_ne_throw _ _ gives.symm
      rw [text_of_plain plain, Reading.pure_inj] at gives
      exact ⟨.plain raw.toList, ⟨rfl, plain, Nat.le_refl 0⟩, congrArg String.toList gives⟩
    · rintro ⟨tree, expands, same⟩
      obtain ⟨plain, unchanged⟩ :=
        Tree.plain_of_nesting_zero expands.grounded (Nat.le_zero.mp expands.nesting)
      rw [expands.source] at plain unchanged
      rw [text_of_plain plain, Reading.pure_inj]
      exact String.toList_inj.mp (unchanged.symm.trans same)
  | succ levels ih =>
    have looks : ∀ key inner, reference property levels raw key = pure inner ↔
        ∃ s, TextOf property key s ∧
          ∃ tree : Tree, tree.Expands property levels s ∧ tree.result = inner.toList := by
      intro key inner
      rw [reference_eq_pure_iff]
      exact exists_congr fun s => and_congr_right fun _ => ih
    rw [text_succ_eq_pure_iff, Template.ofText, filled_iff_tree looks]
    constructor
    · rintro ⟨tree, source, grounded, nesting, same⟩
      exact ⟨tree, ⟨source, grounded, nesting⟩, same⟩
    · rintro ⟨tree, expands, same⟩
      exact ⟨tree, expands.source, expands.grounded, expands.nesting, same⟩

/-- With more levels a text expands to the same. -/
theorem text_of_le {levels more : Nat} (fewer : levels ≤ more) {raw result : String}
    (gives : text property levels raw = pure result) : text property more raw = pure result := by
  obtain ⟨tree, expands, same⟩ := text_eq_pure_iff.mp gives
  exact text_eq_pure_iff.mpr
    ⟨tree, ⟨expands.source, expands.grounded, Nat.le_trans expands.nesting fewer⟩, same⟩

/-! ### Cycles -/

/-- The text has a closed reference to the key. -/
def Mentions (raw key : String) : Prop :=
  ∃ s ∈ (Template.ofText raw).segments, s.key = key

def RefersTo (property : String → Option (Option Value)) (key other : String) : Prop :=
  ∃ s, TextOf property key s ∧ Mentions s other

/-- References lead from the key to one that they lead back to. -/
def ReachesCycle (property : String → Option (Option Value)) (key : String) : Prop :=
  ∃ other, Relation.ReflTransGen (RefersTo property) key other ∧
    Relation.TransGen (RefersTo property) other other

/-- The tree is of what a reference to the key stands for. -/
def TreeOf (property : String → Option (Option Value)) (key : String) (tree : Tree) : Prop :=
  ∃ s, TextOf property key s ∧ tree.source = s.toList ∧ tree.Grounded property

/-- The tree of a text has inside it a tree of whatever the text mentions. -/
theorem inner_of_mentioned {tree : Tree} (grounded : tree.Grounded property) {s : Segment}
    (member : s ∈ (Template.ofChars tree.source).segments) :
    ∃ inner, TreeOf property s.key inner ∧ inner.nesting < tree.nesting := by
  induction tree with
  | plain rest =>
    rw [Tree.source, Template.ofChars_plain grounded] at member
    cases member
  | reference literal written inner after _ ihAfter =>
    obtain ⟨plain, unbraced, ⟨text, named, same⟩, groundedInner, groundedAfter⟩ := grounded
    rw [Tree.source, Template.ofChars_segment plain unbraced] at member
    rw [Tree.nesting]
    -- The first reference has its own tree, and the later ones are those of the text behind.
    rcases List.mem_cons.mp member with rfl | later
    · exact ⟨inner, ⟨text, named, same, groundedInner⟩, by omega⟩
    · obtain ⟨found, of, smaller⟩ := ihAfter groundedAfter later
      exact ⟨found, of, by omega⟩

theorem smaller_of_refersTo {key other : String} (refers : RefersTo property key other)
    {tree : Tree} (of : TreeOf property key tree) :
    ∃ inner, TreeOf property other inner ∧ inner.nesting < tree.nesting := by
  obtain ⟨s, named, segment, member, rfl⟩ := refers
  obtain ⟨t, namedToo, source, grounded⟩ := of
  obtain rfl := named.unique namedToo
  rw [Template.ofText, ← source] at member
  exact inner_of_mentioned grounded member

theorem smaller_of_path {key other : String}
    (path : Relation.TransGen (RefersTo property) key other) {tree : Tree}
    (of : TreeOf property key tree) :
    ∃ inner, TreeOf property other inner ∧ inner.nesting < tree.nesting := by
  induction path with
  | single refers => exact smaller_of_refersTo refers of
  | tail _ refers ih =>
    obtain ⟨between, ofBetween, less⟩ := ih
    obtain ⟨inner, ofInner, stillLess⟩ := smaller_of_refersTo refers ofBetween
    exact ⟨inner, ofInner, Nat.lt_trans stillLess less⟩

/-- A key on a cycle has no tree: around the cycle there would be a smaller one. -/
theorem no_tree_on_cycle {key : String} (cycle : Relation.TransGen (RefersTo property) key key)
    (tree : Tree) : ¬TreeOf property key tree := by
  intro of
  induction size : tree.nesting using Nat.strongRecOn generalizing tree with
  | ind n ih =>
    obtain ⟨inner, ofInner, smaller⟩ := smaller_of_path cycle of
    exact ih inner.nesting (size ▸ smaller) inner ofInner rfl

theorem no_tree_of_reachesCycle {key : String} (reaches : ReachesCycle property key)
    (tree : Tree) : ¬TreeOf property key tree := by
  obtain ⟨other, leads, cycle⟩ := reaches
  intro of
  rcases Relation.reflTransGen_iff_eq_or_transGen.mp leads with rfl | path
  · exact no_tree_on_cycle cycle tree of
  · obtain ⟨inner, ofInner, -⟩ := smaller_of_path path of
    exact no_tree_on_cycle cycle inner ofInner

/-! ### Chains -/

/-- The text of each key of a chain: that of the first key ends the chain, and that of every later
key is a reference to the key before. -/
def chainText (keys : Nat → String) (last : String) : Nat → String
  | 0 => last
  | i + 1 => Template.reference (keys i)

/-- The text of a key in a chain takes as many levels as there are references before its end. -/
theorem text_of_chain {keys : Nat → String} {last : String} {n : Nat}
    (plain : Template.hasOpening last = false)
    (referable : ∀ i < n, Template.Referable (keys i))
    (held : ∀ i < n, property (keys i) = some (some (.string (chainText keys last i))))
    (levels : Nat) :
    (n ≤ levels → text property levels (chainText keys last n) = pure last) ∧
      (levels < n → ∃ e, text property levels (chainText keys last n) = throw e) := by
  induction n generalizing levels with
  | zero =>
    exact ⟨fun _ => text_of_plain plain levels, fun short => absurd short (Nat.not_lt_zero _)⟩
  | succ n ih =>
    rw [chainText]
    cases levels with
    | zero =>
      have opens := Template.hasOpening_reference_alone (keys n)
      exact ⟨fun enough => absurd enough (Nat.not_succ_le_zero n), fun _ => ⟨_, text_zero opens⟩⟩
    | succ levels =>
      -- One level goes for this reference, and the rest for the key before.
      obtain ⟨ends, fails⟩ := ih (fun i below => referable i (Nat.lt_succ_of_lt below))
        (fun i below => held i (Nat.lt_succ_of_lt below)) levels
      rw [text_reference_alone (referable n (Nat.lt_succ_self n)),
        reference_of_string (held n (Nat.lt_succ_self n))]
      exact ⟨fun enough => ends (Nat.le_of_succ_le_succ enough),
        fun short => fails (Nat.lt_of_succ_lt_succ short)⟩

/-! ### Strings of an environment -/

/-- A key whose references lead to a cycle has no expansion at any number of levels. -/
theorem text_of_reachesCycle {key raw : String}
    (held : property key = some (some (.string raw))) (reaches : ReachesCycle property key)
    (levels : Nat) (result : String) : text property levels raw ≠ pure result := by
  intro gives
  obtain ⟨tree, expands, -⟩ := text_eq_pure_iff.mp gives
  have named : TextOf property key raw := ⟨_, held, .scalar rfl⟩
  exact no_tree_of_reachesCycle reaches tree ⟨raw, named, expands.source, expands.grounded⟩

/-- **What strings resolve to.** In every environment of static layers and process variables a key
that holds a string resolves exactly to the results of the expansion trees of its string in which
at most 32 texts with references are nested; without such a tree it fails, as it does where its
references lead to a cycle. A chain of references resolves if it has at most 32 of them, and fails
otherwise. -/
theorem resolves_iff_expansionTree (env : Environment) (fixed : env.Fixed) :
    (∀ key raw, env.property key = some (some (.string raw)) →
      (∀ result, env.getResolved .value key = pure result ↔
        ∃ tree : Tree, tree.Expands env.property 32 raw ∧
          result = .string (String.ofList tree.result)) ∧
      ((¬∃ tree : Tree, tree.Expands env.property 32 raw) →
        ∃ e, env.getResolved .value key = throw e) ∧
      (ReachesCycle env.property key → ∃ e, env.getResolved .value key = throw e)) ∧
    ∀ (keys : Nat → String) (last : String) (n : Nat), Template.hasOpening last = false →
      (∀ i < n, Template.Referable (keys i)) →
      (∀ i ≤ n, env.property (keys i) = some (some (.string (chainText keys last i)))) →
      (n ≤ 32 → env.getResolved .value (keys n) = pure (.string last)) ∧
        (32 < n → ∃ e, env.getResolved .value (keys n) = throw e) := by
  refine ⟨fun key raw held => ?_, fun keys last n plain referable chained => ?_⟩
  · have resolves : ∀ result, env.getResolved .value key = pure result ↔
        ∃ tree : Tree, tree.Expands env.property 32 raw ∧
          result = .string (String.ofList tree.result) := by
      intro result
      rw [Environment.getResolved_value_of_string held]
      constructor
      · rintro ⟨t, gives, rfl⟩
        obtain ⟨tree, expands, same⟩ := text_eq_pure_iff.mp gives
        exact ⟨tree, expands, by rw [same, String.ofList_toList]⟩
      · rintro ⟨tree, expands, rfl⟩
        exact ⟨_, text_eq_pure_iff.mpr ⟨tree, expands, (String.toList_ofList).symm⟩, rfl⟩
    refine ⟨resolves, fun none => ?_, fun reaches => ?_⟩
    · apply Environment.getResolved_fails fixed.lookupsEnd
      intro result gives
      obtain ⟨tree, expands, -⟩ := (resolves result).mp gives
      exact none ⟨tree, expands⟩
    · apply Environment.getResolved_fails fixed.lookupsEnd
      intro result gives
      rw [Environment.getResolved_value_of_string held] at gives
      obtain ⟨t, gives, -⟩ := gives
      exact text_of_reachesCycle held reaches _ _ gives
  · obtain ⟨resolves, fails⟩ := text_of_chain plain referable
      (fun i below => chained i (Nat.le_of_lt below)) nestingLimit
    have held := chained n (Nat.le_refl n)
    constructor
    · intro enough
      exact (Environment.getResolved_value_of_string held).mpr ⟨last, resolves enough, rfl⟩
    · intro short
      obtain ⟨e, failed⟩ := fails short
      rw [Environment.getResolved_value_of_held held, value, failed]
      exact ⟨e, rfl⟩

/-- A reference to a list inside a text, a key that refers to itself, and a chain. -/
def greetings : Environment :=
  .ofSettings
    [("greeting", .string "hello ${ names }!"),
      ("names", .list [.string "ann", .null, .integer 7]),
      ("echo", .string (Template.reference "echo")),
      ("start", .string (Template.reference "end")), ("end", .string "stop")]

theorem resolves_iff_expansionTree_of_greetings :
    greetings.Fixed ∧
      greetings.getResolved .value "greeting" = pure (.string "hello ann,7!") ∧
      (∃ e, greetings.getResolved .value "echo" = throw e) ∧
      greetings.getResolved .value "start" = pure (.string "stop") := by
  have fixed : greetings.Fixed := (Environment.static_ofSettings _).fixed
  have property : ∀ key, greetings.property key = some (configured greetings.sources key) :=
    Environment.property_of_fixed fixed
  obtain ⟨strings, chains⟩ := resolves_iff_expansionTree greetings fixed
  refine ⟨fixed, ?_, ?_, ?_⟩
  · have names : TextOf greetings.property "names" "ann,7" :=
      ⟨.list [.string "ann", .null, .integer 7], property "names", .list _⟩
    refine ((strings "greeting" _ (property "greeting")).1 _).mpr
      ⟨.reference "hello ".toList " names ".toList (.plain "ann,7".toList) (.plain ['!']),
        ⟨rfl, ?_, by decide⟩, rfl⟩
    exact ⟨rfl, by decide, ⟨"ann,7", names, rfl⟩, rfl, rfl⟩
  · have echo : RefersTo greetings.property "echo" "echo" := by
      refine ⟨"" ++ Template.reference "echo" ++ "", ⟨_, property "echo", .scalar rfl⟩,
        ⟨[], "echo".toList⟩, ?_, rfl⟩
      rw [Template.ofText_reference (by decide) (by decide) (by decide)]
      exact List.mem_singleton_self _
    exact (strings "echo" _ (property "echo")).2.2 ⟨"echo", .refl, .single echo⟩
  · have chain := chains (fun i => if i = 0 then "end" else "start") "stop" 1 (by decide)
    refine (chain ?_ ?_).1 (by decide)
    · decide
    · intro i within
      rw [property]
      rcases Nat.le_one_iff_eq_zero_or_eq_one.mp within with rfl | rfl <;> rfl

end ConfigStack.Expansion
