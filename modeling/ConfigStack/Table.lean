/-!
# Tables keyed by text

A finite map from keys to values, kept as a list of entries. A key has one entry: writing it again
replaces what it had. The order of the entries carries no meaning; `sortedKeys` is the order in
which keys are shown.
-/
namespace ConfigStack

structure Table (α : Type) where
  entries : List (String × α)
  deriving Repr, Inhabited

namespace Table

variable {α β : Type}

def empty : Table α := ⟨[]⟩

def get? (t : Table α) (key : String) : Option α :=
  t.entries.lookup key

def contains (t : Table α) (key : String) : Bool :=
  (t.get? key).isSome

/-- The table with `key` set to `value`, whatever it held before. -/
def insert (t : Table α) (key : String) (value : α) : Table α :=
  ⟨(key, value) :: t.entries.filter fun entry => entry.1 != key⟩

/-- The table with `key` set to `value` unless it has a value. -/
def insertIfNew (t : Table α) (key : String) (value : α) : Table α :=
  if t.contains key then t else t.insert key value

/-- The table of the entries; of two entries with one key the later counts. -/
def ofList (entries : List (String × α)) : Table α :=
  entries.foldl (fun t entry => t.insert entry.1 entry.2) empty

def keys (t : Table α) : List String :=
  t.entries.map (·.1)

/-- The keys in the order of their characters' code points. -/
def sortedKeys (t : Table α) : List String :=
  t.keys.mergeSort fun a b => decide (a ≤ b)

def map (f : α → β) (t : Table α) : Table β :=
  ⟨t.entries.map fun entry => (entry.1, f entry.2)⟩

@[simp]
theorem get?_empty (key : String) : (empty : Table α).get? key = none := rfl

theorem lookup_cons (key k : String) (value : α) (rest : List (String × α)) :
    ((k, value) :: rest).lookup key = if key = k then some value else rest.lookup key := by
  rw [List.lookup_cons]
  by_cases same : key = k
  · simp [same]
  · simp [same, beq_eq_false_iff_ne.2 same]

theorem lookup_filter_ne (entries : List (String × α)) {key other : String} (h : other ≠ key) :
    (entries.filter fun entry => entry.1 != key).lookup other = entries.lookup other := by
  induction entries with
  | nil => rfl
  | cons entry rest ih =>
    obtain ⟨k, v⟩ := entry
    by_cases hk : k = key
    · subst hk
      simp [List.lookup_cons, ih, beq_eq_false_iff_ne.2 h]
    · simp [hk, List.lookup_cons, ih]

/-- A key that was just written has the value written; every other key keeps its value. -/
theorem get?_insert (t : Table α) (key other : String) (value : α) :
    (t.insert key value).get? other = if other = key then some value else t.get? other := by
  by_cases h : other = key
  · subst h
    simp [insert, get?]
  · simp [insert, get?, List.lookup_cons, beq_eq_false_iff_ne.2 h, h, lookup_filter_ne _ h]

/-- A table has a value for exactly the keys it lists. -/
theorem contains_iff_mem_keys (t : Table α) (key : String) :
    t.contains key = true ↔ key ∈ t.keys := by
  obtain ⟨entries⟩ := t
  induction entries with
  | nil => simp [contains, get?, keys]
  | cons entry rest ih =>
    obtain ⟨k, v⟩ := entry
    simp only [contains, get?, keys, List.lookup_cons, List.map_cons, List.mem_cons] at ih ⊢
    by_cases h : key = k
    · simp [h]
    · simp only [beq_eq_false_iff_ne.2 h, h, false_or]
      exact ih

theorem mem_sortedKeys (t : Table α) (key : String) :
    key ∈ t.sortedKeys ↔ t.contains key = true := by
  rw [contains_iff_mem_keys, sortedKeys, List.mem_mergeSort]

theorem get?_eq_none {t : Table α} {key : String} (absent : key ∉ t.sortedKeys) :
    t.get? key = none := by
  rw [mem_sortedKeys, contains] at absent
  simpa using absent

private theorem get?_foldl_insert (entries : List (String × α)) (t : Table α) (key : String) :
    (entries.foldl (fun t entry => t.insert entry.1 entry.2) t).get? key =
      (entries.reverse.lookup key).or (t.get? key) := by
  induction entries generalizing t with
  | nil => rfl
  | cons entry rest ih =>
    rw [List.foldl_cons, ih, get?_insert, List.reverse_cons, List.lookup_append, Option.or_assoc]
    congr 1
    obtain ⟨k, value⟩ := entry
    rw [lookup_cons, List.lookup_nil]
    split <;> rfl

/-- A table made of entries has the last value given for a key. -/
theorem get?_ofList (entries : List (String × α)) (key : String) :
    (ofList entries).get? key = entries.reverse.lookup key := by
  rw [ofList, get?_foldl_insert, get?_empty, Option.or_none]

theorem mem_sortedKeys_ofList (entries : List (String × α)) (key : String) :
    key ∈ (ofList entries).sortedKeys ↔ key ∈ entries.map (·.1) := by
  rw [mem_sortedKeys, contains, get?_ofList]
  simp only [List.lookup_isSome_iff, List.mem_reverse, List.mem_map, beq_iff_eq]
  constructor
  · rintro ⟨entry, member, same⟩
    exact ⟨entry, member, same.symm⟩
  · rintro ⟨entry, member, same⟩
    exact ⟨entry, member, same.symm⟩

end Table

end ConfigStack
