import ConfigStack.Proofs.Text
import ConfigStack.Yaml.Settings
import Mathlib.Data.List.Nodup

/-!
# Places in a document

A place inside a datum is given by the numbers of the children on the way to it; their texts make
its path. The numbers put the places in the order of the document. Two places can have the same
path where two keys of one mapping have the same text, and two paths give the same key where a text
has a dot of its own. Where neither is so the key gives the place (`ClearKeys.eq_of_key_eq`).
-/
namespace ConfigStack.Yaml.Datum

def isMapping : Datum → Bool
  | .mapping _ => true
  | _ => false

def isSequence : Datum → Bool
  | .sequence _ => true
  | _ => false

/-- What stands directly in the datum, each under the text of its key or of its index. -/
def children : Datum → List (String × Datum)
  | .mapping entries => entries.map fun entry => (entry.1.keyText, entry.2)
  | .sequence items => items.zipIdx.map fun item => (toString item.2, item.1)
  | _ => []

theorem getElem?_children_sequence (items : List Datum) (n : Nat) :
    (sequence items).children[n]? = items[n]?.map fun item => (toString n, item) := by
  rw [children, List.getElem?_map, List.getElem?_zipIdx, Option.map_map, Nat.zero_add]
  rfl

theorem isMapping_of_mem_children {d : Datum} {child : String × Datum}
    (member : child ∈ d.children) (unnumbered : d.isSequence = false) : d.isMapping = true := by
  cases d with
  | mapping => rfl
  | sequence => cases unnumbered
  | _ => cases member

theorem sizeOf_lt_of_mem_children {d : Datum} {child : String × Datum}
    (member : child ∈ d.children) : sizeOf child.2 < sizeOf d := by
  cases d with
  | mapping entries =>
    obtain ⟨entry, listed, rfl⟩ := List.mem_map.mp member
    have inner := List.sizeOf_lt_of_mem listed
    have parts : sizeOf entry = 1 + sizeOf entry.1 + sizeOf entry.2 := by
      cases entry
      simp
    simp only [mapping.sizeOf_spec]
    omega
  | sequence items =>
    obtain ⟨item, listed, rfl⟩ := List.mem_map.mp member
    have inner := List.sizeOf_lt_of_mem (List.fst_mem_of_mem_zipIdx listed)
    simp only [sequence.sizeOf_spec]
    omega
  | _ => cases member

/-- What passes from everything that stands directly in a datum to the datum holds of all data. -/
theorem children_induction {motive : Datum → Prop}
    (step : ∀ d, (∀ child ∈ d.children, motive child.2) → motive d) (d : Datum) : motive d :=
  step d fun child _member => children_induction step child.2
termination_by sizeOf d
decreasing_by exact sizeOf_lt_of_mem_children _member

/-! ### Places -/

/-- A datum inside another: the numbers of the children on the way to it, their texts, and the
datum. -/
structure Place where
  position : List Nat
  path : List String
  datum : Datum

namespace Place

/-- The place as seen from the datum of which the place's own root is a child. -/
def under (n : Nat) (text : String) (p : Place) : Place :=
  ⟨n :: p.position, text :: p.path, p.datum⟩

/-- A place inside what stands at another, as seen from where that one is. -/
def andThen (outer inner : Place) : Place :=
  ⟨outer.position ++ inner.position, outer.path ++ inner.path, inner.datum⟩

def key (p : Place) : String :=
  String.intercalate "." p.path

/-- The place comes before the other in the document: children come by their numbers, and what is
inside a datum behind it. -/
def Before (p q : Place) : Prop :=
  List.Lex (· < ·) p.position q.position

theorem Before.asymm {p q : Place} (before : p.Before q) : ¬q.Before p :=
  List.lt_asymm before

theorem key_andThen {outer inner : Place} (first : outer.path ≠ []) (second : inner.path ≠ []) :
    (outer.andThen inner).key = outer.key ++ "." ++ inner.key :=
  String.intercalate_append_of_ne_nil first second

/-- Paths whose texts have no dots can be read off the keys. -/
theorem path_eq_of_key_eq {p q : Place} (inner : p.path ≠ []) (inner' : q.path ≠ [])
    (undotted : ∀ text ∈ p.path, '.' ∉ text.toList)
    (undotted' : ∀ text ∈ q.path, '.' ∉ text.toList) (same : p.key = q.key) : p.path = q.path := by
  have cut : ∀ r : Place, r.path ≠ [] → (∀ text ∈ r.path, '.' ∉ text.toList) →
      Text.pieces '.' r.key.toList = r.path.map String.toList := by
    intro r inner undotted
    rw [key, String.toList_intercalate]
    exact Text.pieces_intercalate (by simpa using inner) (List.forall_mem_map.mpr undotted)
  have texts : p.path.map String.toList = q.path.map String.toList := by
    rw [← cut p inner undotted, ← cut q inner' undotted', same]
  exact List.map_injective_iff.mpr (fun _ _ => String.toList_inj.mp) texts

/-- The places of children, as seen from their parent. -/
def numbered (n : Nat) : List (String × List Place) → List Place
  | [] => []
  | (text, places) :: rest => places.map (under n text) ++ numbered (n + 1) rest

theorem mem_numbered_iff {n : Nat} {families : List (String × List Place)} {p : Place} :
    p ∈ numbered n families ↔
      ∃ i text places, families[i]? = some (text, places) ∧
        ∃ inner ∈ places, p = under (n + i) text inner := by
  induction families generalizing n with
  | nil => simp [numbered]
  | cons family rest ih =>
    obtain ⟨text, places⟩ := family
    have shift : ∀ i, n + 1 + i = n + (i + 1) := fun i => by omega
    rw [numbered, List.mem_append, List.mem_map, ih]
    constructor
    · rintro (⟨inner, member, rfl⟩ | ⟨i, text', places', found, inner, member, rfl⟩)
      · exact ⟨0, text, places, rfl, inner, member, rfl⟩
      · exact ⟨i + 1, text', places', found, inner, member, by rw [shift]⟩
    · rintro ⟨i, text', places', found, inner, member, rfl⟩
      cases i with
      | zero =>
        obtain ⟨rfl, rfl⟩ := Prod.mk.inj (Option.some.inj found)
        exact .inl ⟨inner, member, rfl⟩
      | succ i => exact .inr ⟨i, text', places', found, inner, member, by rw [shift]⟩

/-- Places come in the order of the document if those of each child do. -/
theorem pairwise_numbered {families : List (String × List Place)}
    (ordered : ∀ family ∈ families, family.2.Pairwise Before) (n : Nat) :
    (numbered n families).Pairwise Before := by
  induction families generalizing n with
  | nil => exact .nil
  | cons family rest ih =>
    obtain ⟨first, others⟩ := List.forall_mem_cons.mp ordered
    rw [numbered, List.pairwise_append]
    refine ⟨?_, ih others (n + 1), ?_⟩
    · rw [List.pairwise_map]
      exact first.imp .cons
    · intro p here q behind
      obtain ⟨inner, -, rfl⟩ := List.mem_map.mp here
      obtain ⟨i, text, places, -, inner', -, rfl⟩ := mem_numbered_iff.mp behind
      exact .rel (by omega)

/-- What does not look at positions is the same for the places of children wherever these come. -/
theorem map_numbered {α : Type} {f : Place → α} {g : String → Place → α}
    (same : ∀ n text p, f (under n text p) = g text p) (n : Nat)
    (families : List (String × List Place)) :
    (numbered n families).map f = families.flatMap fun family => family.2.map (g family.1) := by
  induction families generalizing n with
  | nil => rfl
  | cons family rest ih =>
    rw [numbered, List.map_append, List.map_map, ih, List.flatMap_cons]
    congr 1
    exact List.map_congr_left fun p _ => same n family.1 p

end Place

/-- The datum is at the place inside the other. -/
inductive Inside : Datum → Place → Prop where
  | here (d : Datum) : Inside d ⟨[], [], d⟩
  | deeper {d child : Datum} {n : Nat} {text : String} {p : Place}
      (found : d.children[n]? = some (text, child)) (inside : Inside child p) :
      Inside d (p.under n text)

theorem Inside.andThen {d : Datum} {outer inner : Place} (first : d.Inside outer)
    (second : outer.datum.Inside inner) : d.Inside (outer.andThen inner) := by
  induction first with
  | here => exact second
  | deeper found _ ih => exact .deeper found (ih second)

theorem Inside.path_ne_nil {d : Datum} {p : Place} (inside : d.Inside p)
    (inner : p.position ≠ []) : p.path ≠ [] := by
  cases inside with
  | here => exact absurd rfl inner
  | deeper => exact List.cons_ne_nil _ _

/-! ### All places of a document -/

/-- The places of what is no mapping, in the order of the document. -/
def places (d : Datum) : List Place :=
  (if d.isMapping then [] else [⟨[], [], d⟩]) ++
    Place.numbered 0 (d.children.attach.map fun child => (child.1.1, places child.1.2))
termination_by sizeOf d
decreasing_by exact sizeOf_lt_of_mem_children child.2

theorem places_eq (d : Datum) :
    d.places = (if d.isMapping then [] else [⟨[], [], d⟩]) ++
      Place.numbered 0 (d.children.map fun child => (child.1, child.2.places)) := by
  rw [places]
  exact congrArg (fun families => _ ++ Place.numbered 0 families)
    (List.attach_map_val (f := fun child : String × Datum => (child.1, child.2.places)))

theorem pairwise_places (d : Datum) : d.places.Pairwise Place.Before := by
  induction d using children_induction with
  | step d ih =>
    have inner : ∀ family ∈ d.children.map fun child => (child.1, child.2.places),
        family.2.Pairwise Place.Before := by
      intro family listed
      obtain ⟨child, member, rfl⟩ := List.mem_map.mp listed
      exact ih child member
    rw [places_eq, List.pairwise_append]
    -- The datum's own place has no number, and so comes before those of its children.
    refine ⟨by split <;> simp, Place.pairwise_numbered inner 0, ?_⟩
    intro p own q below
    obtain ⟨i, text, places, -, inside, -, rfl⟩ := Place.mem_numbered_iff.mp below
    split at own
    · cases own
    · rw [List.mem_singleton.mp own]
      exact .nil

theorem mem_places_iff {d : Datum} {p : Place} :
    p ∈ d.places ↔ d.Inside p ∧ p.datum.isMapping = false := by
  induction d using children_induction generalizing p with
  | step d ih =>
    rw [places_eq, List.mem_append, Place.mem_numbered_iff]
    constructor
    · rintro (own | ⟨n, text, places, found, inner, member, rfl⟩)
      · split at own
        next => cases own
        next leaf =>
          rw [List.mem_singleton.mp own]
          exact ⟨.here d, by simpa using leaf⟩
      · rw [List.getElem?_map, Option.map_eq_some_iff] at found
        obtain ⟨⟨text', child⟩, found, same⟩ := found
        obtain ⟨rfl, rfl⟩ := Prod.mk.inj same
        obtain ⟨inside, leaf⟩ := (ih _ (List.mem_of_getElem? found)).mp member
        rw [Nat.zero_add]
        exact ⟨.deeper found inside, leaf⟩
    · rintro ⟨inside, leaf⟩
      cases inside with
      | here =>
        have leaf : d.isMapping = false := leaf
        exact .inl (by simp [leaf])
      | @deeper _ child n text q found inside =>
        refine .inr ⟨n, text, child.places, ?_, q, ?_, by rw [Nat.zero_add]⟩
        · rw [List.getElem?_map, found]
          rfl
        · exact (ih _ (List.mem_of_getElem? found)).mpr ⟨inside, leaf⟩

/-! ### Keys without dots -/

theorem toString_injective : Function.Injective fun n : Nat => toString n := by
  intro m n same
  have digits : Nat.toDigits 10 m = Nat.toDigits 10 n := by
    rw [← Nat.toList_repr, ← Nat.toList_repr, ← Nat.toString_eq_repr, ← Nat.toString_eq_repr]
    exact congrArg String.toList same
  have read := Nat.ofDigitChars_toDigits (b := 10) (n := m) (by decide) (by decide)
  rwa [digits, Nat.ofDigitChars_toDigits (by decide) (by decide), eq_comm] at read

theorem undotted_index (n : Nat) : '.' ∉ (toString n).toList :=
  Text.not_mem_natural (by decide) n

/-- The texts of the keys of a mapping. -/
def keyTexts : Datum → List String
  | .mapping entries => entries.map (·.1.keyText)
  | _ => []

/-- No key inside the datum has a dot in its text, and no two keys of one mapping have the same
text. -/
structure ClearKeys (d : Datum) : Prop where
  undotted : ∀ p, d.Inside p → ∀ text ∈ p.datum.keyTexts, '.' ∉ text.toList
  distinct : ∀ p, d.Inside p → p.datum.keyTexts.Nodup

theorem undotted_child {d child : Datum} {text : String}
    (undotted : ∀ text ∈ d.keyTexts, '.' ∉ text.toList) (member : (text, child) ∈ d.children) :
    '.' ∉ text.toList := by
  cases d with
  | mapping entries =>
    obtain ⟨entry, listed, same⟩ := List.mem_map.mp member
    obtain ⟨rfl, -⟩ := Prod.mk.inj same
    exact undotted _ (List.mem_map_of_mem listed)
  | sequence items =>
    obtain ⟨item, -, same⟩ := List.mem_map.mp member
    obtain ⟨rfl, -⟩ := Prod.mk.inj same
    exact undotted_index item.2
  | _ => cases member

theorem nodup_children {d : Datum} (distinct : d.keyTexts.Nodup) :
    (d.children.map (·.1)).Nodup := by
  cases d with
  | mapping entries =>
    rw [children, List.map_map]
    exact distinct
  | sequence items =>
    have numbers : (sequence items).children.map (·.1) =
        (List.range items.length).map fun n => toString n := by
      rw [children, List.map_map, List.range_eq_range', ← List.zipIdx_map_snd 0 items, List.map_map]
      rfl
    rw [numbers]
    exact List.nodup_range.map toString_injective
  | _ => exact List.nodup_nil

/-- Keys are clear if those of the datum itself are, and those inside each of its children. -/
theorem clearKeys_of_children {d : Datum} (undotted : ∀ text ∈ d.keyTexts, '.' ∉ text.toList)
    (distinct : d.keyTexts.Nodup) (inner : ∀ child ∈ d.children, child.2.ClearKeys) :
    d.ClearKeys where
  undotted
    | _, .here _ => undotted
    | _, .deeper (p := p) found inside => (inner _ (List.mem_of_getElem? found)).undotted p inside
  distinct
    | _, .here _ => distinct
    | _, .deeper (p := p) found inside => (inner _ (List.mem_of_getElem? found)).distinct p inside

namespace ClearKeys

variable {d : Datum} {p q : Place}

theorem child {child : Datum} {n : Nat} {text : String} (clear : d.ClearKeys)
    (found : d.children[n]? = some (text, child)) : child.ClearKeys where
  undotted p inside := clear.undotted (p.under n text) (.deeper found inside)
  distinct p inside := clear.distinct (p.under n text) (.deeper found inside)

theorem undotted_path (clear : d.ClearKeys) (inside : d.Inside p) :
    ∀ text ∈ p.path, '.' ∉ text.toList := by
  induction inside with
  | here => exact fun _ member => nomatch member
  | deeper found _ ih =>
    have first := undotted_child (clear.undotted _ (.here _)) (List.mem_of_getElem? found)
    exact List.forall_mem_cons.mpr ⟨first, ih (clear.child found)⟩

/-- One path leads to one place. -/
theorem eq_of_path_eq (clear : d.ClearKeys) (first : d.Inside p) (second : d.Inside q)
    (same : p.path = q.path) : p = q := by
  induction first generalizing q with
  | here =>
    cases second with
    | here => rfl
    | deeper => cases same
  | @deeper d child n text p found inside ih =>
    cases second with
    | here => cases same
    | @deeper _ child' n' text' q found' inside' =>
      obtain ⟨rfl, below⟩ := List.cons.inj same
      -- No two children have one text, so both places are in the same child.
      have index : n = n' := by
        have bound := (List.getElem?_eq_some_iff.mp found).1
        refine (List.getElem?_inj (by simpa using bound)
          (nodup_children (clear.distinct _ (.here _)))).mp ?_
        rw [List.getElem?_map, List.getElem?_map, found, found']
        rfl
      subst index
      obtain ⟨-, rfl⟩ := Prod.mk.inj (Option.some.inj (found.symm.trans found'))
      rw [ih (clear.child found) inside' below]

/-- One key belongs to one place. -/
theorem eq_of_key_eq (clear : d.ClearKeys) (first : d.Inside p) (second : d.Inside q)
    (inner : p.position ≠ []) (inner' : q.position ≠ []) (same : p.key = q.key) : p = q :=
  clear.eq_of_path_eq first second <|
    Place.path_eq_of_key_eq (first.path_ne_nil inner) (second.path_ne_nil inner')
      (clear.undotted_path first) (clear.undotted_path second) same

end ClearKeys

end ConfigStack.Yaml.Datum
