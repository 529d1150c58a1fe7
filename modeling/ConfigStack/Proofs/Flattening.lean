import ConfigStack.Proofs.Places

/-!
# Flat settings of a document

A document that is a mapping gives a setting for each place inside it that holds something else
than a mapping. Of places with the same key the last in the document counts, and nothing else gives
a setting. A list is a setting as a whole, and its items are settings of their own; where keys are
clear the two agree, however deep (`Yaml.Datum.settings_of_places`).
-/
namespace ConfigStack

/-- The path leads inside a value to another, along keys of maps and indexes of lists. -/
inductive Value.Leads : Value → List String → Value → Prop where
  | here (v : Value) : Leads v [] v
  | entry {entries : List (String × Value)} {key : String} {v w : Value} {path : List String}
      (found : entries.lookup key = some v) (leads : Leads v path w) :
      Leads (.map entries) (key :: path) w
  | item {items : List Value} {n : Nat} {v w : Value} {path : List String}
      (found : items[n]? = some v) (leads : Leads v path w) :
      Leads (.list items) (toString n :: path) w

namespace Yaml.Datum

/-! ### Values of data -/

theorem itemValues_eq (items : List Datum) : itemValues items = items.map value := by
  induction items with
  | nil => rfl
  | cons item rest ih => rw [itemValues, ih, List.map_cons]

theorem entryValues_eq (entries : List (Datum × Datum)) :
    entryValues entries =
      (mapping entries).children.map fun child => (child.1, child.2.value) := by
  induction entries with
  | nil => rfl
  | cons entry rest ih =>
    rw [entryValues, ih]
    rfl

/-- Only a sequence has a list as its value, and only a mapping a map. -/
theorem value_of_scalar {d : Datum} (unnumbered : d.isSequence = false)
    (unnamed : d.isMapping = false) :
    (∀ values, d.value ≠ .list values) ∧ ∀ entries, d.value ≠ .map entries := by
  cases d with
  | sequence => cases unnumbered
  | mapping => cases unnamed
  | number n =>
    cases n with
    | natural n =>
      rw [value]
      constructor <;> split <;> nofun
    | _ =>
      rw [value]
      exact ⟨nofun, nofun⟩
  | _ =>
    rw [value]
    exact ⟨nofun, nofun⟩

theorem eq_sequence_of_value {d : Datum} {values : List Value} (whole : d.value = .list values) :
    ∃ items, d = .sequence items ∧ items.map value = values := by
  cases d with
  | sequence items =>
    rw [value, itemValues_eq] at whole
    exact ⟨items, rfl, Value.list.inj whole⟩
  | mapping entries =>
    rw [value] at whole
    cases whole
  | _ => exact absurd whole ((value_of_scalar rfl rfl).1 values)

theorem eq_mapping_of_value {d : Datum} {entries : List (String × Value)}
    (whole : d.value = .map entries) :
    ∃ data, d = .mapping data ∧ (Table.ofList (entryValues data)).entries = entries := by
  cases d with
  | mapping data =>
    rw [value] at whole
    exact ⟨data, rfl, Value.map.inj whole⟩
  | sequence items =>
    rw [value] at whole
    cases whole
  | _ => exact absurd whole ((value_of_scalar rfl rfl).2 entries)

theorem isMapping_of_value {d : Datum} (leaf : ∀ entries, d.value ≠ .map entries) :
    d.isMapping = false := by
  cases d with
  | mapping entries =>
    rw [value] at leaf
    exact absurd rfl (leaf _)
  | _ => rfl

/-- What a path leads to inside the value of a datum is the value of a datum inside it, on the same
path. -/
theorem inside_of_leads {v w : Value} {path : List String} (leads : v.Leads path w) {d : Datum}
    (whole : d.value = v) : ∃ p, d.Inside p ∧ p.path = path ∧ p.datum.value = w := by
  induction leads generalizing d with
  | here v => exact ⟨_, .here d, rfl, whole⟩
  | @entry entries key v w path found _ ih =>
    obtain ⟨data, rfl, rfl⟩ := eq_mapping_of_value whole
    have found : (Table.ofList (entryValues data)).get? key = some v := found
    -- Of the entries with one key the map has the last, which is one of them.
    rw [Table.get?_ofList] at found
    obtain ⟨behind, before, cut, -⟩ := List.lookup_eq_some_iff.mp found
    have member : (key, v) ∈ entryValues data := by
      rw [← List.mem_reverse, cut]
      simp
    rw [entryValues_eq] at member
    obtain ⟨⟨text, child⟩, listed, same⟩ := List.mem_map.mp member
    obtain ⟨rfl, rfl⟩ := Prod.mk.inj same
    obtain ⟨n, there⟩ := List.mem_iff_getElem?.mp listed
    obtain ⟨p, inside, rfl, rfl⟩ := ih rfl
    exact ⟨_, .deeper there inside, rfl, rfl⟩
  | @item values n v w path found _ ih =>
    obtain ⟨items, rfl, rfl⟩ := eq_sequence_of_value whole
    rw [List.getElem?_map, Option.map_eq_some_iff] at found
    obtain ⟨child, listed, rfl⟩ := found
    have there : (sequence items).children[n]? = some (toString n, child) := by
      rw [getElem?_children_sequence, listed]
      rfl
    obtain ⟨p, inside, rfl, rfl⟩ := ih rfl
    exact ⟨_, .deeper there inside, rfl, rfl⟩

/-! ### Values below a key -/

theorem valuesOfEntries_eq (key : String) (entries : List (Datum × Datum)) :
    valuesOfEntries key entries = (mapping entries).children.flatMap fun child =>
      child.2.valuesBelow (joinKeys key child.1) := by
  induction entries with
  | nil => rfl
  | cons entry rest ih =>
    rw [valuesOfEntries, ih]
    rfl

theorem valuesOfItems_eq (key : String) (n : Nat) (items : List Datum) :
    valuesOfItems key n items =
      ((items.zipIdx n).map fun item => (toString item.2, item.1)).flatMap fun child =>
        child.2.valuesBelow (joinKeys key child.1) := by
  induction items generalizing n with
  | nil => rfl
  | cons item rest ih =>
    rw [valuesOfItems, ih]
    rfl

/-- Below a key of its own a datum has its value, unless it is a mapping, and the values of its
children. -/
theorem valuesBelow_eq {key : String} (nonempty : key ≠ "") (d : Datum) :
    d.valuesBelow key = (if d.isMapping then [] else [(key, d.value)]) ++
      d.children.flatMap fun child => child.2.valuesBelow (joinKeys key child.1) := by
  have given : key.isEmpty = false := by simpa using nonempty
  cases d with
  | mapping entries =>
    rw [valuesBelow, valuesOfEntries_eq]
    rfl
  | sequence items =>
    rw [valuesBelow, given, if_neg Bool.false_ne_true, valuesOfItems_eq]
    rfl
  | _ => simp [valuesBelow, given, isMapping, children]

theorem joinKeys_of_nonempty {key : String} (nonempty : key ≠ "") (text : String) :
    joinKeys key text = key ++ "." ++ text ∧ joinKeys key text ≠ "" := by
  have given : key.isEmpty = false := by simpa using nonempty
  have joined : joinKeys key text = key ++ "." ++ text := by
    rw [joinKeys, given, if_neg Bool.false_ne_true]
  refine ⟨joined, ?_⟩
  rw [joined]
  simp [nonempty]

theorem foldl_joinKeys {key : String} (nonempty : key ≠ "") (path : List String) :
    path.foldl joinKeys key = String.intercalate "." (key :: path) := by
  induction path generalizing key with
  | nil => rw [List.foldl_nil, String.intercalate_singleton]
  | cons text rest ih =>
    obtain ⟨joined, nonempty'⟩ := joinKeys_of_nonempty nonempty text
    rw [List.foldl_cons, ih nonempty', joined, String.intercalate_cons_cons]
    cases rest with
    | nil => rw [String.intercalate_singleton, String.intercalate_singleton]
    | cons next others => simp only [String.intercalate_cons_cons, String.append_assoc]

/-- Below a key of its own a datum has the values of its places, each under the path to it. -/
theorem valuesBelow_eq_map_places {key : String} (nonempty : key ≠ "") (d : Datum) :
    d.valuesBelow key = d.places.map fun p => (p.path.foldl joinKeys key, p.datum.value) := by
  induction d using children_induction generalizing key with
  | step d ih =>
    have shifted : ∀ n text (p : Place), ((p.under n text).path.foldl joinKeys key,
        (p.under n text).datum.value) =
          (p.path.foldl joinKeys (joinKeys key text), p.datum.value) := fun _ _ _ => rfl
    rw [valuesBelow_eq nonempty, places_eq, List.map_append, Place.map_numbered shifted,
      List.flatMap_map]
    congr 1
    · split <;> rfl
    · exact List.flatMap_congr fun child member =>
        ih child member (joinKeys_of_nonempty nonempty child.1).2

/-- The values of a document that is a mapping are those of its places. -/
theorem valuesBelow_root {entries : List (Datum × Datum)}
    (named : ∀ child ∈ (mapping entries).children, child.1 ≠ "") :
    (mapping entries).valuesBelow "" =
      (mapping entries).places.map fun p => (p.key, p.datum.value) := by
  have shifted : ∀ n text (p : Place), ((p.under n text).key, (p.under n text).datum.value) =
      (String.intercalate "." (text :: p.path), p.datum.value) := fun _ _ _ => rfl
  rw [valuesBelow, valuesOfEntries_eq, places_eq, List.map_append, Place.map_numbered shifted,
    List.flatMap_map]
  refine (List.flatMap_congr fun child member => ?_).trans (List.nil_append _).symm
  -- The document itself has no key, so nothing is joined in front of its children's.
  have top : joinKeys "" child.1 = child.1 := rfl
  rw [top, valuesBelow_eq_map_places (named child member)]
  exact List.map_congr_left fun p _ => by rw [foldl_joinKeys (named child member)]

/-! ### Settings -/

/-- Where places come in the order of the document a key has the value of the last place that has
the key. -/
theorem lookup_places_iff {places : List Place}
    (ordered : places.Pairwise Place.Before) (key : String) (v : Value) :
    (places.map fun p => (p.key, p.datum.value)).reverse.lookup key = some v ↔
      ∃ p ∈ places, p.key = key ∧ p.datum.value = v ∧
        ∀ q ∈ places, q.key = key → q = p ∨ q.Before p := by
  rw [List.lookup_eq_some_iff]
  constructor
  -- The lookup from the end finds the place; those in front come before it, and those behind it
  -- have other keys.
  · rintro ⟨behind, before, cut, none⟩
    rw [List.reverse_eq_iff, List.reverse_append, List.reverse_cons, List.append_assoc,
      List.singleton_append, List.map_eq_append_iff] at cut
    obtain ⟨first, rest, rfl, -, cut⟩ := cut
    obtain ⟨p, others, rfl, here, after⟩ := List.map_eq_cons_iff.mp cut
    obtain ⟨named, valued⟩ := Prod.mk.inj here
    refine ⟨p, by simp, named, valued, fun q member same => ?_⟩
    rcases List.mem_append.mp member with front | member
    · exact .inr ((List.pairwise_append.mp ordered).2.2 q front p List.mem_cons_self)
    · rcases List.mem_cons.mp member with rfl | later
      · exact .inl rfl
      · have absent := none (q.key, q.datum.value) (List.mem_reverse.mp (by
          rw [← after]
          exact List.mem_map_of_mem later))
        simp [same] at absent
  · rintro ⟨p, member, rfl, rfl, last⟩
    obtain ⟨first, others, rfl⟩ := List.append_of_mem member
    refine ⟨(others.map fun p => (p.key, p.datum.value)).reverse,
      (first.map fun p => (p.key, p.datum.value)).reverse, by simp, ?_⟩
    intro entry found
    obtain ⟨q, later, rfl⟩ := List.mem_map.mp (List.mem_reverse.mp found)
    have beyond := (List.pairwise_cons.mp (List.pairwise_append.mp ordered).2.1).1 q later
    rw [bne_iff_ne]
    intro same
    rcases last q (by simp [later]) same.symm with rfl | earlier
    · exact beyond.asymm beyond
    · exact beyond.asymm earlier

/-- The place gives a setting: it holds something inside the document that is no mapping, and does
not lie under a sequence that is the document. -/
structure Gives (d : Datum) (p : Place) : Prop where
  inside : d.Inside p
  inner : p.position ≠ []
  leaf : p.datum.isMapping = false
  keyed : d.isSequence = false

theorem gives_iff {d : Datum} {p : Place} : d.Gives p ↔ d.isMapping = true ∧ p ∈ d.places := by
  rw [mem_places_iff]
  constructor
  · rintro ⟨inside, inner, leaf, keyed⟩
    refine ⟨?_, inside, leaf⟩
    cases inside with
    | here => exact absurd rfl inner
    | deeper found _ => exact isMapping_of_mem_children (List.mem_of_getElem? found) keyed
  · rintro ⟨whole, inside, leaf⟩
    refine ⟨inside, ?_, leaf, ?_⟩
    · intro root
      cases inside with
      | here =>
        have leaf : d.isMapping = false := leaf
        rw [whole] at leaf
        cases leaf
      | deeper => cases root
    · cases d with
      | sequence => cases whole
      | _ => rfl

section Settings

variable {d : Datum} (named : ∀ child ∈ d.children, child.1 ≠ "")
include named

theorem contains_settings_iff (key : String) :
    d.settings.contains key = true ↔ ∃ p, d.Gives p ∧ p.key = key := by
  rw [settings, ← Table.mem_sortedKeys, Table.mem_sortedKeys_ofList]
  cases d with
  | mapping entries =>
    rw [valuesBelow_root named, List.map_map, List.mem_map]
    refine exists_congr fun p => and_congr_left fun _ => ?_
    rw [gives_iff]
    exact (and_iff_right rfl).symm
  | _ => simp [valuesBelow, gives_iff, isMapping]

theorem get?_settings_iff (key : String) (v : Value) :
    d.settings.get? key = some v ↔
      ∃ p, d.Gives p ∧ p.key = key ∧ p.datum.value = v ∧
        ∀ q, d.Gives q → q.key = key → q = p ∨ q.Before p := by
  rw [settings, Table.get?_ofList]
  cases d with
  | mapping entries =>
    have gives : ∀ p, (mapping entries).Gives p ↔ p ∈ (mapping entries).places := fun p => by
      rw [gives_iff]
      exact and_iff_right rfl
    rw [valuesBelow_root named, lookup_places_iff (pairwise_places _)]
    simp only [gives]
  | _ => simp [valuesBelow, gives_iff, isMapping]

/-- Where keys are clear the value of a key decides those of the keys behind it: they have what
their paths lead to inside it. -/
theorem get?_of_leads (clear : d.ClearKeys) {key : String} {v w : Value}
    (whole : d.settings.get? key = some v) {path : List String} (nonempty : path ≠ [])
    (leads : v.Leads path w) (leaf : ∀ entries, w ≠ .map entries) :
    d.settings.get? (key ++ "." ++ String.intercalate "." path) = some w := by
  obtain ⟨p, gives, rfl, rfl, -⟩ := (get?_settings_iff named key v).mp whole
  obtain ⟨q, inside, rfl, rfl⟩ := inside_of_leads leads rfl
  -- The place the path leads to; keys are clear, so no other place has its key.
  have joined := Place.key_andThen (gives.inside.path_ne_nil gives.inner) nonempty
  have below : d.Gives (p.andThen q) :=
    { inside := gives.inside.andThen inside
      inner := by simp [Place.andThen, gives.inner]
      leaf := isMapping_of_value leaf
      keyed := gives.keyed }
  refine (get?_settings_iff named _ _).mpr
    ⟨p.andThen q, below, joined, rfl, fun r other same => ?_⟩
  exact .inl (clear.eq_of_key_eq other.inside below.inside other.inner below.inner
    (same.trans joined.symm))

end Settings

/-- A document has settings at exactly the keys of the places that give some, each with the value
of the last such place. Where keys are clear, what a path leads to inside an item of a list is the
value of the list's key with the index and the path behind it. -/
theorem settings_of_places (d : Datum) (named : ∀ child ∈ d.children, child.1 ≠ "") :
    (∀ key, d.settings.contains key = true ↔ ∃ p, d.Gives p ∧ p.key = key) ∧
    (∀ key v, d.settings.get? key = some v ↔
      ∃ p, d.Gives p ∧ p.key = key ∧ p.datum.value = v ∧
        ∀ q, d.Gives q → q.key = key → q = p ∨ q.Before p) ∧
    (d.ClearKeys → ∀ key items, d.settings.get? key = some (.list items) →
      ∀ (i : Nat) item, items[i]? = some item → ∀ path w, item.Leads path w →
        (∀ entries, w ≠ .map entries) →
          d.settings.get? (String.intercalate "." (key :: toString i :: path)) = some w) := by
  refine ⟨contains_settings_iff named, get?_settings_iff named, ?_⟩
  intro clear key items whole i item listed path w leads leaf
  rw [String.intercalate_cons_cons]
  exact get?_of_leads named clear whole (List.cons_ne_nil _ _) (.item listed leads) leaf

/-- Of two spellings of a key the later counts. -/
example : (mapping [(.string "a.b", .null), (.string "a", .mapping [(.string "b", .bool true)])]
    ).settings.get? "a.b" = some (.bool true) := rfl

/-- A list under one key, with a text and a mapping in it. -/
def serverList : Datum :=
  .mapping [(.string "servers",
    .sequence [.string "near", .mapping [(.string "name", .string "far")]])]

theorem clearKeys_serverList : serverList.ClearKeys := by
  have text : ∀ s, (string s).ClearKeys := fun s =>
    clearKeys_of_children nofun List.nodup_nil nofun
  have inner : (mapping [(.string "name", .string "far")]).ClearKeys :=
    clearKeys_of_children (by decide) (by decide) (List.forall_mem_singleton.mpr (text "far"))
  have list : (sequence [.string "near", .mapping [(.string "name", .string "far")]]).ClearKeys :=
    clearKeys_of_children nofun List.nodup_nil
      (List.forall_mem_cons.mpr ⟨text "near", List.forall_mem_singleton.mpr inner⟩)
  exact clearKeys_of_children (by decide) (by decide) (List.forall_mem_singleton.mpr list)

theorem settings_of_places_of_servers :
    (∀ child ∈ serverList.children, child.1 ≠ "") ∧ serverList.ClearKeys ∧
      serverList.settings.get? "servers" =
        some (.list [.string "near", .map [("name", .string "far")]]) ∧
      serverList.settings.get? "servers.1.name" = some (.string "far") := by
  have named : ∀ child ∈ serverList.children, child.1 ≠ "" := by decide
  have whole : serverList.settings.get? "servers" =
      some (.list [.string "near", .map [("name", .string "far")]]) := rfl
  have leads : (Value.map [("name", .string "far")]).Leads ["name"] (.string "far") :=
    .entry rfl (.here _)
  exact ⟨named, clearKeys_serverList, whole, (settings_of_places serverList named).2.2
    clearKeys_serverList "servers" _ whole 1 _ rfl ["name"] _ leads nofun⟩

end Yaml.Datum

end ConfigStack
