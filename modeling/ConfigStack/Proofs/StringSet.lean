import ConfigStack.Proofs.Text
import ConfigStack.Value
import Mathlib.Data.Finset.Insert
import Mathlib.Data.List.Perm.Basic

/-!
# String sets

The items of a string set are the pieces between the commas of a value's texts, without the blanks
around them and without the empty ones, each where it comes first. Commas put between texts are cut
again, so a list has the set of its texts joined by commas; and a set is the set of its own items,
in a list or joined (`stringSet_normal`).

A set can be gathered in one pass over the pieces, with an index of the items met so far. The index
never shows: at each step it has the items that are there.
-/
namespace ConfigStack.StringSet

/-! ### First occurrences -/

/-- The items are those of the listing, each once, in the order in which they first come there. -/
structure FirstOccurrences (listing items : List String) : Prop where
  same : ∀ item, item ∈ items ↔ item ∈ listing
  ordered : items.Pairwise fun a b => listing.idxOf a < listing.idxOf b

theorem FirstOccurrences.nodup {listing items : List String}
    (first : FirstOccurrences listing items) : items.Nodup := by
  refine first.ordered.imp ?_
  rintro item _ before rfl
  exact Nat.lt_irrefl _ before

theorem FirstOccurrences.unique {listing one other : List String}
    (first : FirstOccurrences listing one) (firstToo : FirstOccurrences listing other) :
    one = other := by
  have alike : one.Perm other := (List.perm_ext_iff_of_nodup first.nodup firstToo.nodup).mpr
    fun item => (first.same item).trans (firstToo.same item).symm
  refine alike.eq_of_pairwise (fun a b _ _ before after => ?_) first.ordered firstToo.ordered
  exact absurd (Nat.lt_trans before after) (Nat.lt_irrefl _)

theorem mem_distinct_iff (listing : List String) (item : String) :
    item ∈ distinct listing ↔ item ∈ listing := by
  induction listing with
  | nil => rfl
  | cons first rest ih =>
    rw [distinct, List.mem_cons, List.mem_cons, List.mem_filter, ih, decide_eq_true_eq]
    by_cases same : item = first <;> simp [same]

theorem firstOccurrences_distinct (listing : List String) :
    FirstOccurrences listing (distinct listing) := by
  refine ⟨mem_distinct_iff listing, ?_⟩
  induction listing with
  | nil => exact .nil
  | cons first rest ih =>
    -- All other items come later than the first, and among themselves as in the rest.
    have later : ∀ item, item ≠ first →
        (first :: rest).idxOf item = rest.idxOf item + 1 := fun item other =>
      List.idxOf_cons_ne rest (Ne.symm other)
    rw [distinct, List.pairwise_cons]
    constructor
    · intro item member
      rw [List.idxOf_cons_self, later item (of_decide_eq_true (List.mem_filter.mp member).2)]
      exact Nat.succ_pos _
    · refine (ih.filter _).imp_of_mem fun {a b} left right before => ?_
      rw [later a (of_decide_eq_true (List.mem_filter.mp left).2),
        later b (of_decide_eq_true (List.mem_filter.mp right).2)]
      exact Nat.succ_lt_succ before

theorem firstOccurrences_iff {listing items : List String} :
    FirstOccurrences listing items ↔ items = distinct listing :=
  ⟨fun first => first.unique (firstOccurrences_distinct listing),
    fun same => same ▸ firstOccurrences_distinct listing⟩

/-- What has no repetitions stays as it is. -/
theorem distinct_of_nodup {items : List String} (once : items.Nodup) : distinct items = items := by
  induction items with
  | nil => rfl
  | cons first rest ih =>
    obtain ⟨new, others⟩ := List.nodup_cons.mp once
    rw [distinct, ih others, List.filter_eq_self.mpr]
    intro item member
    exact decide_eq_true fun same => new (same ▸ member)

/-- The items that come anew with a listing are its first occurrences, without those that are there
already. -/
theorem distinct_append (before behind : List String) :
    distinct (before ++ behind) =
      distinct before ++ (distinct behind).filter (· ∉ before) := by
  induction before with
  | nil => simp [distinct]
  | cons first rest ih =>
    rw [List.cons_append, distinct, distinct, ih, List.filter_append, List.filter_filter,
      List.cons_append]
    congr 3
    funext item
    simp

theorem mem_of_mem_distinct {items : List String} {item : String}
    (member : item ∈ distinct items) : item ∈ items :=
  (mem_distinct_iff items item).mp member

/-! ### Pieces of texts -/

theorem mem_piecesOf_iff {text item : String} :
    item ∈ piecesOf text ↔
      item ≠ "" ∧ ∃ piece ∈ Text.pieces ',' text.toList,
        String.ofList (Text.trim piece) = item := by
  rw [piecesOf, List.mem_filter, List.mem_map, decide_eq_true_eq, and_comm]

theorem infix_of_mem_piecesOf {text item : String} (member : item ∈ piecesOf text) :
    item.toList <:+: text.toList := by
  obtain ⟨-, piece, cut, rfl⟩ := mem_piecesOf_iff.mp member
  rw [String.toList_ofList]
  exact (Text.trim_infix piece).trans (Text.infix_of_mem_pieces cut)

/-- What is listed in a string stands in it. -/
theorem infix_of_mem_stringSet {text item : String}
    (member : item ∈ (Value.string text).stringSet) : item.toList <:+: text.toList := by
  obtain ⟨source, own, listed⟩ := List.mem_flatMap.mp (mem_of_mem_distinct member)
  obtain rfl : source = text := List.mem_singleton.mp own
  exact infix_of_mem_piecesOf listed

/-- An item that can stand in a string set: there is something in it, no comma, and no blank at
either end. -/
structure Proper (item : String) : Prop where
  nonempty : item ≠ ""
  trimmed : Text.trimmed item = item
  undivided : ',' ∉ item.toList

theorem proper_of_mem_piecesOf {text item : String} (member : item ∈ piecesOf text) :
    Proper item := by
  obtain ⟨nonempty, piece, cut, rfl⟩ := mem_piecesOf_iff.mp member
  refine ⟨nonempty, ?_, ?_⟩
  · rw [Text.trimmed, String.toList_ofList, Text.trim_trim]
  · rw [String.toList_ofList]
    exact fun comma => Text.not_mem_of_mem_pieces cut ((Text.trim_infix piece).subset comma)

theorem piecesOf_of_proper {item : String} (proper : Proper item) : piecesOf item = [item] := by
  rw [piecesOf, Text.pieces_of_clear proper.undivided, List.map_singleton]
  change [Text.trimmed item].filter _ = _
  rw [proper.trimmed]
  exact List.filter_cons_of_pos (by simpa using proper.nonempty)

/-- A comma between two texts cuts no piece of either. -/
theorem piecesOf_append (one other : String) :
    piecesOf (one ++ "," ++ other) = piecesOf one ++ piecesOf other := by
  have spelled : (one ++ "," ++ other).toList = one.toList ++ ',' :: other.toList := by
    simp [String.toList_append]
  rw [piecesOf, spelled, Text.pieces_append_separator, List.map_append, List.filter_append]
  rfl

theorem piecesOf_intercalate (texts : List String) :
    piecesOf (String.intercalate "," texts) = texts.flatMap piecesOf := by
  induction texts with
  | nil => rfl
  | cons first rest ih =>
    cases rest with
    | nil => rw [String.intercalate_singleton, List.flatMap_singleton]
    | cons next others =>
      rw [String.intercalate_cons_cons, piecesOf_append, ih, ← List.flatMap_cons]

/-! ### Gathering -/

/-- The items met so far in their order, with an index of them. -/
structure Gathering where
  items : List String
  index : Finset String
  faithful : ∀ item, item ∈ index ↔ item ∈ items

namespace Gathering

def empty : Gathering := ⟨[], ∅, by simp⟩

/-- One more piece: it joins the items if there is something in it and the index does not have
it. -/
def add (g : Gathering) (piece : String) : Gathering :=
  if piece = "" ∨ piece ∈ g.index then g
  else
    { items := g.items ++ [piece]
      index := insert piece g.index
      faithful := by simp [g.faithful, or_comm] }

def addText (g : Gathering) (text : String) : Gathering :=
  ((Text.pieces ',' text.toList).map fun piece => String.ofList (Text.trim piece)).foldl add g

theorem items_add (g : Gathering) (piece : String) :
    (g.add piece).items =
      g.items ++ (distinct ([piece].filter (· ≠ ""))).filter (· ∉ g.items) := by
  rw [add]
  by_cases empty : piece = ""
  · simp [empty, distinct]
  · by_cases met : piece ∈ g.items <;> simp [empty, met, g.faithful, distinct]

theorem items_foldl_add (pieces : List String) (g : Gathering) (items : List String)
    (gathered : g.items = distinct items) :
    (pieces.foldl add g).items = distinct (items ++ pieces.filter (· ≠ "")) := by
  induction pieces generalizing g items with
  | nil => simpa using gathered
  | cons piece rest ih =>
    -- What is there stays the distinct part of all that was met.
    have one : (g.add piece).items = distinct (items ++ [piece].filter (· ≠ "")) := by
      rw [items_add, distinct_append, gathered]
      simp [mem_distinct_iff]
    rw [List.foldl_cons, ih _ _ one, List.append_assoc, ← List.filter_append]
    rfl

theorem items_foldl_addText (texts : List String) (g : Gathering) (items : List String)
    (gathered : g.items = distinct items) :
    (texts.foldl addText g).items = distinct (items ++ texts.flatMap piecesOf) := by
  induction texts generalizing g items with
  | nil => simpa using gathered
  | cons text rest ih =>
    have one : (g.addText text).items = distinct (items ++ piecesOf text) :=
      items_foldl_add _ g items gathered
    rw [List.foldl_cons, ih _ _ one, List.append_assoc, List.flatMap_cons]

end Gathering

/-- The string set of a value, gathered from its texts. -/
def gathered (v : Value) : Gathering :=
  v.scalarTexts.foldl Gathering.addText .empty

theorem items_gathered (v : Value) : (gathered v).items = v.stringSet := by
  rw [gathered, Gathering.items_foldl_addText _ _ [] rfl, List.nil_append]
  rfl

/-! ### The normal form -/

/-- The pieces between the commas of the texts, without the blanks around them, and without the
empty ones. -/
def listing (texts : List String) : List String :=
  texts.flatMap fun text =>
    ((text.toList.splitOn ',').map fun piece => String.ofList (Text.trim piece)).filter (· ≠ "")

theorem stringSet_eq (v : Value) : v.stringSet = distinct (listing v.scalarTexts) := by
  have cut : piecesOf = fun text =>
      ((text.toList.splitOn ',').map fun piece => String.ofList (Text.trim piece)).filter
        (· ≠ "") :=
    funext fun text => by rw [piecesOf, Text.pieces_eq_splitOn]
  rw [Value.stringSet, listing, cut]

theorem stringSet_string (text : String) :
    (Value.string text).stringSet = distinct (piecesOf text) := by
  change distinct ([text].flatMap piecesOf) = _
  rw [List.flatMap_singleton]

theorem stringSet_list (items : List Value) :
    (Value.list items).stringSet =
      (Value.string (String.intercalate "," (items.filterMap Value.scalarText?))).stringSet := by
  rw [stringSet_string, piecesOf_intercalate]
  rfl

theorem scalarTexts_ofStrings (items : List String) :
    (Value.ofStrings items).scalarTexts = items := by
  change (items.map Value.string).filterMap Value.scalarText? = items
  rw [List.filterMap_map]
  exact List.filterMap_some

theorem proper_of_mem_stringSet {v : Value} {item : String} (member : item ∈ v.stringSet) :
    Proper item := by
  obtain ⟨text, -, listed⟩ := List.mem_flatMap.mp (mem_of_mem_distinct member)
  exact proper_of_mem_piecesOf listed

theorem nodup_stringSet (v : Value) : v.stringSet.Nodup :=
  (firstOccurrences_distinct _).nodup

/-- Proper items without repetitions are the set of their list. -/
theorem stringSet_ofStrings {items : List String} (proper : ∀ item ∈ items, Proper item)
    (once : items.Nodup) : (Value.ofStrings items).stringSet = items := by
  have own : items.flatMap piecesOf = items := by
    rw [List.flatMap_congr fun item member => piecesOf_of_proper (proper item member)]
    exact List.flatMap_singleton' items
  rw [Value.stringSet, scalarTexts_ofStrings, own, distinct_of_nodup once]

/-- A value that is not read as a text: nothing, a map, or a list. -/
inductive Textless : Value → Prop where
  | null : Textless .null
  | map (entries : List (String × Value)) : Textless (.map entries)
  | list (items : List Value) : Textless (.list items)

theorem stringSet_without {w : Value} (textless : Textless w) (before behind : List Value) :
    (Value.list (before ++ w :: behind)).stringSet = (Value.list (before ++ behind)).stringSet := by
  have silent : w.scalarText? = none := by cases textless <;> rfl
  simp only [Value.stringSet, Value.scalarTexts, List.filterMap_append, List.filterMap_cons, silent]

/-- **String sets are normal forms.** The string set of a value has the pieces of its texts, each
once and where it comes first, and a pass over the pieces gathers it. Every item of it is proper.
The set is the one of its own items, in a list or joined by commas; a list has the set of its texts
joined by commas, and what is no text in it does not count. -/
theorem stringSet_normal (v : Value) :
    (∀ items, FirstOccurrences (listing v.scalarTexts) items ↔ items = v.stringSet) ∧
    (gathered v).items = v.stringSet ∧
    v.stringSet.Nodup ∧ (∀ item ∈ v.stringSet, Proper item) ∧
    (Value.ofStrings v.stringSet).stringSet = v.stringSet ∧
    (Value.string (String.intercalate "," v.stringSet)).stringSet = v.stringSet ∧
    Value.null.stringSet = [] ∧ (∀ entries, (Value.map entries).stringSet = []) ∧
    (∀ before behind w, Textless w →
      (Value.list (before ++ w :: behind)).stringSet =
        (Value.list (before ++ behind)).stringSet) ∧
    ∀ items, (Value.list items).stringSet =
      (Value.string (String.intercalate "," (items.filterMap Value.scalarText?))).stringSet := by
  have proper : ∀ item ∈ v.stringSet, Proper item := fun _ => proper_of_mem_stringSet
  have again := stringSet_ofStrings proper (nodup_stringSet v)
  refine ⟨fun items => ?_, items_gathered v, nodup_stringSet v, proper, again, ?_, rfl,
    fun _ => rfl, fun before behind w textless => stringSet_without textless before behind,
    stringSet_list⟩
  · rw [stringSet_eq]
    exact firstOccurrences_iff
  · -- The list of the items and the joined items have one set, and that of the list is known.
    have joined := stringSet_list (v.stringSet.map .string)
    change _ = (Value.string (String.intercalate "," (Value.ofStrings v.stringSet).scalarTexts)
      ).stringSet at joined
    rw [scalarTexts_ofStrings] at joined
    exact joined.symm.trans again

/-- A list in which one item lists several, and some of them come twice. -/
def mixedList : Value :=
  .list [.string " b ,a", .null, .integer 7, .list [.string "x"], .string "a,,b", .bool true]

theorem stringSet_normal_of_mixed :
    mixedList.stringSet = ["b", "a", "7", "true"] ∧ Proper "7" ∧
      (Value.string "b,a,7,true").stringSet = ["b", "a", "7", "true"] := by
  have same : mixedList.stringSet = ["b", "a", "7", "true"] := by decide
  obtain ⟨-, -, -, proper, -, joined, -⟩ := stringSet_normal mixedList
  rw [same] at proper joined
  exact ⟨same, proper "7" (by decide), joined⟩

end ConfigStack.StringSet
