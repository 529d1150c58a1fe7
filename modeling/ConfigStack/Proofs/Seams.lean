import ConfigStack.Proofs.ExpansionTree
import Mathlib.Data.List.Forall2

/-!
# Openings in expanded text

An expansion puts texts in the places of references and does not look at the result again. The
result consists of the pieces of an expansion tree, and none of these has the opening of a
reference. So a result has one exactly where two pieces meet: a `$` that ends the text up to a
seam, and a `{` that begins the text behind it. Strings without such a seam are expanded for good
(`opening_iff_seam`).
-/
namespace ConfigStack

/-! ### Strings in lists -/

namespace Value

mutual

/-- The strings of a value, in order: its own, or those of its items. -/
def strings : Value → List String
  | .string s => [s]
  | .list items => stringsOfItems items
  | _ => []

def stringsOfItems : List Value → List String
  | [] => []
  | item :: rest => strings item ++ stringsOfItems rest

end

mutual

/-- A value in whose lists there is no map, and which is none itself. -/
def mapless : Value → Bool
  | .list items => maplessItems items
  | .map _ => false
  | _ => true

def maplessItems : List Value → Bool
  | [] => true
  | item :: rest => mapless item && maplessItems rest

end

end Value

namespace Template

/-- A text none of whose literal pieces ends in `$`. -/
def Sealed (cs : List Char) : Prop :=
  (∀ s ∈ (ofChars cs).segments, s.literal.getLast? ≠ some '$') ∧
    (ofChars cs).rest.getLast? ≠ some '$'

end Template

namespace Expansion

variable {property : String → Option (Option Value)}

/-! ### Pieces and their seams -/

/-- A place where the pieces are cut into two texts with an opening over the cut. -/
def Seam (pieces : List (List Char)) : Prop :=
  ∃ left right, pieces = left ++ right ∧
    left.flatten.getLast? = some '$' ∧ right.flatten.head? = some '{'

theorem not_seam_nil : ¬Seam [] := by
  rintro ⟨left, right, cut, ends, -⟩
  obtain ⟨rfl, -⟩ := List.append_eq_nil_iff.mp cut.symm
  cases ends

/-- A seam lies behind the first piece, or behind a later one. -/
theorem seam_cons_iff (piece : List Char) (rest : List (List Char)) :
    Seam (piece :: rest) ↔
      Seam rest ∨ piece.getLast? = some '$' ∧ rest.flatten.head? = some '{' := by
  constructor
  · rintro ⟨_ | ⟨first, left⟩, right, cut, ends, starts⟩
    · cases ends
    · obtain ⟨rfl, rfl⟩ := List.cons.inj (cut.trans List.cons_append)
      rw [List.flatten_cons] at ends
      -- The last character on the left is in a later piece, unless these are empty.
      rcases List.eq_nil_or_concat' left.flatten with empty | ⟨before, last, same⟩
      · rw [empty, List.append_nil] at ends
        exact .inr ⟨ends, by rw [List.flatten_append, empty, List.nil_append]; exact starts⟩
      · refine .inl ⟨left, right, rfl, ?_, starts⟩
        rw [same, ← List.append_assoc, List.getLast?_concat] at ends
        rw [same, List.getLast?_concat, ends]
  · rintro (⟨left, right, rfl, ends, starts⟩ | ⟨ends, starts⟩)
    · refine ⟨piece :: left, right, rfl, ?_, starts⟩
      obtain ⟨before, same⟩ := List.getLast?_eq_some_iff.mp ends
      rw [List.flatten_cons, same, ← List.append_assoc, List.getLast?_concat]
    · exact ⟨[piece], rest, rfl, by rw [List.flatten_singleton]; exact ends, starts⟩

theorem occursIn_flatten_iff_seam {pieces : List (List Char)}
    (plain : ∀ piece ∈ pieces, Template.Plain piece) :
    Text.occursIn ['$', '{'] pieces.flatten = true ↔ Seam pieces := by
  -- On the pieces: each is plain by itself, so an opening begins at the end of one.
  induction pieces with
  | nil => exact ⟨nofun, fun seam => absurd seam not_seam_nil⟩
  | cons piece rest ih =>
    have first : Text.occursIn ['$', '{'] piece = false := plain piece List.mem_cons_self
    have later := ih fun p member => plain p (List.mem_cons_of_mem piece member)
    rw [List.flatten_cons, Text.occursIn_append_iff, first, later, seam_cons_iff]
    simp only [Bool.false_eq_true, false_or]

theorem not_seam_of_sealed {pieces : List (List Char)}
    (ends : ∀ piece ∈ pieces, piece.getLast? ≠ some '$') : ¬Seam pieces := by
  rintro ⟨left, right, rfl, seam, -⟩
  rw [List.getLast?_flatten, List.findSome?_eq_some_iff] at seam
  obtain ⟨before, piece, after, cut, last, -⟩ := seam
  have member : piece ∈ left := by
    rw [← List.mem_reverse, cut]
    simp
  exact ends piece (List.mem_append_left right member) last

namespace Tree

/-- The literal pieces of which the result consists, in order. -/
def pieces : Tree → List (List Char)
  | .plain rest => [rest]
  | .reference literal _ inner after => literal :: (inner.pieces ++ after.pieces)

theorem flatten_pieces (tree : Tree) : tree.pieces.flatten = tree.result := by
  induction tree with
  | plain rest => exact List.flatten_singleton
  | reference literal written inner after inside behind =>
    rw [pieces, List.flatten_cons, List.flatten_append, inside, behind, result, List.append_assoc]

theorem Grounded.plain_pieces {tree : Tree} (grounded : tree.Grounded property) :
    ∀ piece ∈ tree.pieces, Template.Plain piece := by
  induction tree with
  | plain rest =>
    intro piece member
    rwa [List.mem_singleton.mp member]
  | reference literal written inner after inside behind =>
    obtain ⟨plain, -, -, groundedInner, groundedAfter⟩ := grounded
    intro piece member
    rcases List.mem_cons.mp member with rfl | more
    · exact plain
    · exact (List.mem_append.mp more).elim (inside groundedInner piece)
        (behind groundedAfter piece)

/-- Where the text of the tree and all texts that references stand for are sealed, so are the
pieces. -/
theorem Grounded.sealed_pieces {tree : Tree} (grounded : tree.Grounded property)
    (own : Template.Sealed tree.source)
    (others : ∀ key s, TextOf property key s → Template.Sealed s.toList) :
    ∀ piece ∈ tree.pieces, piece.getLast? ≠ some '$' := by
  induction tree with
  | plain rest =>
    intro piece member
    rw [source, Template.Sealed, Template.ofChars_plain grounded] at own
    rw [List.mem_singleton.mp member]
    exact own.2
  | reference literal written inner after inside behind =>
    obtain ⟨plain, unbraced, ⟨s, named, same⟩, groundedInner, groundedAfter⟩ := grounded
    rw [source, Template.Sealed, Template.ofChars_segment plain unbraced] at own
    obtain ⟨segments, rest⟩ := own
    have sealedInner := inside groundedInner (same ▸ others _ s named)
    have sealedAfter := behind groundedAfter
      ⟨fun segment member => segments segment (List.mem_cons_of_mem _ member), rest⟩
    intro piece member
    rcases List.mem_cons.mp member with rfl | more
    · exact segments _ List.mem_cons_self
    · exact (List.mem_append.mp more).elim (sealedInner piece) (sealedAfter piece)

theorem Expands.hasOpening_iff {levels : Nat} {raw t : String} {tree : Tree}
    (expands : tree.Expands property levels raw) (same : tree.result = t.toList) :
    Template.hasOpening t = true ↔ Seam tree.pieces := by
  rw [Template.hasOpening, ← same, ← flatten_pieces]
  exact occursIn_flatten_iff_seam expands.grounded.plain_pieces

end Tree

/-! ### Strings of expanded values -/

/-- The string is the result of a tree of the other, and has an opening over the seams of the tree
and nowhere else. -/
def FilledIn (property : String → Option (Option Value)) (raw t : String) : Prop :=
  ∃ tree : Tree, tree.Expands property nestingLimit raw ∧ tree.result = t.toList ∧
    (Template.hasOpening t = true ↔ Seam tree.pieces)

theorem filledIn_of_text {raw t : String} (gives : text property nestingLimit raw = pure t) :
    FilledIn property raw t := by
  obtain ⟨tree, expands, same⟩ := text_eq_pure_iff.mp gives
  exact ⟨tree, expands, same, expands.hasOpening_iff same⟩

theorem strings_of_value {v w : Value} (gives : value property v = pure w) :
    List.Forall₂ (FilledIn property) v.strings w.strings := by
  -- Along the recursion of the expansion through the items of lists.
  induction v using Expansion.value.induct
    (motive_2 := fun items => ∀ results, values property items = pure results →
      List.Forall₂ (FilledIn property) (Value.stringsOfItems items)
        (Value.stringsOfItems results)) generalizing w with
  | case1 s =>
    rw [value, Reading.bind_eq_pure] at gives
    obtain ⟨t, expands, same⟩ := gives
    rw [← Reading.pure_inj.mp same, Value.strings, Value.strings]
    exact .cons (filledIn_of_text expands) .nil
  | case2 items ih =>
    rw [value, Reading.bind_eq_pure] at gives
    obtain ⟨results, expands, same⟩ := gives
    rw [← Reading.pure_inj.mp same, Value.strings, Value.strings]
    exact ih results expands
  | case3 v notString notList =>
    rw [value.eq_3 _ _ notString notList, Reading.pure_inj] at gives
    rw [← gives, Value.strings.eq_3 _ notString notList]
    exact .nil
  | case4 results gives =>
    rw [← Reading.pure_inj.mp gives]
    exact .nil
  | case5 item rest first others results gives =>
    rw [values, Reading.bind_eq_pure] at gives
    obtain ⟨head, here, behind⟩ := gives
    obtain ⟨tail, later, joined⟩ := Reading.bind_eq_pure.mp behind
    rw [← Reading.pure_inj.mp joined, Value.stringsOfItems, Value.stringsOfItems]
    exact List.rel_append (first here) (others tail later)

theorem exists_raw_of_mem {raws ts : List String}
    (filled : List.Forall₂ (FilledIn property) raws ts) {t : String} (member : t ∈ ts) :
    ∃ raw ∈ raws, FilledIn property raw t := by
  induction filled with
  | nil => cases member
  | cons first _ ih =>
    rcases List.mem_cons.mp member with rfl | later
    · exact ⟨_, List.mem_cons_self, first⟩
    · obtain ⟨raw, source, made⟩ := ih later
      exact ⟨raw, List.mem_cons_of_mem _ source, made⟩

/-- A value without maps whose strings are plain expands to itself. -/
theorem value_of_plain {v : Value} (mapless : v.mapless = true)
    (plain : ∀ s ∈ v.strings, Template.hasOpening s = false) : value property v = pure v := by
  induction v using Expansion.value.induct
    (motive_2 := fun items => Value.maplessItems items = true →
      (∀ s ∈ Value.stringsOfItems items, Template.hasOpening s = false) →
        values property items = pure items) with
  | case1 s =>
    have own : s ∈ (Value.string s).strings := by
      rw [Value.strings]
      exact List.mem_singleton_self s
    rw [value, text_of_plain (plain s own), pure_bind]
  | case2 items ih =>
    rw [Value.mapless] at mapless
    rw [Value.strings] at plain
    rw [value, ih mapless plain, pure_bind]
  | case3 v notString notList => rw [value.eq_3 _ _ notString notList]
  | case4 => rfl
  | case5 item rest first others mapless plain =>
    rw [Value.maplessItems, Bool.and_eq_true] at mapless
    rw [Value.stringsOfItems, List.forall_mem_append] at plain
    rw [values, first mapless.1 plain.1, pure_bind, others mapless.2 plain.2, pure_bind]

/-- **Openings come from seams.** Where a key resolves, each string of the result, at any depth of
lists, is the result of an expansion tree of the string that the key has in its place, and has the
opening of a reference exactly over a seam of the tree. There is no such seam where no literal
piece of the texts involved ends in `$`; and a result without maps in which no string has an
opening resolves to itself. -/
theorem opening_iff_seam (env : Environment) (key : String) (w : Value)
    (resolves : env.getResolved .value key = pure w) :
    ∃ v, env.property key = some (some v) ∧
      List.Forall₂ (fun raw t => ∃ tree : Tree, tree.Expands env.property 32 raw ∧
        tree.result = t.toList ∧ (Template.hasOpening t = true ↔ Seam tree.pieces))
          v.strings w.strings ∧
      ((∀ raw ∈ v.strings, Template.Sealed raw.toList) →
        (∀ k s, TextOf env.property k s → Template.Sealed s.toList) →
          ∀ t ∈ w.strings, Template.hasOpening t = false) ∧
      (w.mapless = true → (∀ t ∈ w.strings, Template.hasOpening t = false) →
        value env.property w = pure w) := by
  obtain ⟨v, held⟩ : ∃ v, env.property key = some (some v) := by
    obtain ⟨v, required, -⟩ := Reading.bind_eq_pure.mp resolves
    exact ⟨v, Environment.require_eq_pure_iff.mp required⟩
  rw [Environment.getResolved_value_of_held held] at resolves
  have filled := strings_of_value resolves
  refine ⟨v, held, filled, fun own others t member => ?_, value_of_plain⟩
  obtain ⟨raw, source, tree, expands, -, opens⟩ := exists_raw_of_mem filled member
  rw [← Bool.not_eq_true, opens]
  apply not_seam_of_sealed
  apply expands.grounded.sealed_pieces _ others
  rw [expands.source]
  exact own raw source

/-- A text with `$` before a reference to a text in braces. -/
def priced : Environment :=
  .ofSettings
    [("x", .string "five"), ("braced", .string "\x7bx\x7d"),
      ("price", .string ("$" ++ Template.reference "braced" ++ ""))]

theorem property_priced (key : String) :
    priced.property key = some (configured priced.sources key) :=
  Environment.property_of_fixed (Environment.static_ofSettings _).fixed key

theorem getResolved_price : priced.getResolved .value "price" = pure (.string "$\x7bx\x7d") := by
  rw [Environment.getResolved_value_of_string (property_priced "price")]
  exact ⟨_, text_reference_of_plain (by decide) (by decide) (by decide) (property_priced "braced")
    (by decide) 31, rfl⟩

theorem opening_iff_seam_of_price :
    priced.getResolved .value "price" = pure (.string "$\x7bx\x7d") ∧
      ∃ tree : Tree, tree.Expands priced.property 32 "$$\x7bbraced\x7d" ∧ Seam tree.pieces := by
  obtain ⟨v, held, filled, -, -⟩ := opening_iff_seam priced "price" _ getResolved_price
  obtain rfl : Value.string "$$\x7bbraced\x7d" = v :=
    Option.some.inj (Option.some.inj ((property_priced "price").symm.trans held))
  simp only [Value.strings] at filled
  cases filled with
  | cons first _ =>
    obtain ⟨tree, expands, -, opens⟩ := first
    exact ⟨getResolved_price, tree, expands, opens.mp (by decide)⟩

/-- A resolved string may have an opening, and resolve to something else when it is read again. -/
theorem opening_over_seam :
    priced.Static ∧ priced.getResolved .value "price" = pure (.string "$\x7bx\x7d") ∧
      Template.hasOpening "$\x7bx\x7d" = true ∧
      value priced.property (.string "$\x7bx\x7d") = pure (.string "five") := by
  refine ⟨Environment.static_ofSettings _, getResolved_price, by decide, ?_⟩
  have again : text priced.property 32 ("" ++ Template.reference "x" ++ "") =
      pure ("" ++ "five" ++ "") :=
    text_reference_of_plain (by decide) (by decide) (by decide) (property_priced "x") (by decide) 31
  rw [value, show "$\x7bx\x7d" = "" ++ Template.reference "x" ++ "" by decide]
  exact congrArg (· >>= fun t => pure (Value.string t)) again

end Expansion

end ConfigStack
