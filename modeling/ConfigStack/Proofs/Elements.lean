import ConfigStack.Conversion
import Mathlib.Data.List.Forall2
import Mathlib.Data.List.Lex

/-!
# Where a conversion fails

To read a value as a target some of what is inside it is read as a scalar. These elements have their
places along the indices of lists, and come in the order in which the value is written down from
left to right. A conversion fails with the error of the first of them that is not of its type
(`first_mismatch`), whatever comes behind that one; where there is none its result has the shape of
the value (`Target.Shaped`).
-/
namespace ConfigStack

/-- What the indices of lists lead to inside a value. -/
def Value.inner? (v : Value) : List Nat → Option Value
  | [] => some v
  | i :: path =>
    match v with
    | .list items => items[i]?.bind fun item => item.inner? path
    | _ => none

/-- Something inside a value that is to be read as a scalar. -/
structure Element where
  path : List Nat
  kind : Scalar
  value : Value

namespace Element

/-- The element as seen from the list of which its own root is an item. -/
def under (i : Nat) (e : Element) : Element :=
  ⟨i :: e.path, e.kind, e.value⟩

/-- The key with the indices that lead to the element. -/
def key (e : Element) (key : String) : String :=
  e.path.foldl itemKey key

/-- The element comes before the other in the value. -/
def Before (e f : Element) : Prop :=
  List.Lex (· < ·) e.path f.path

/-- The element is of its type. -/
def Reads (e : Element) : Prop :=
  ∃ result, ∀ key, e.value.asScalar e.kind key = .ok result

/-- The element is not of its type; the error says that it was to be of the one given. -/
def Refuses (e : Element) (expected : Scalar) : Prop :=
  ∀ key, e.value.asScalar e.kind key = .error (.typeMismatch key expected)

end Element

namespace Target

/-- To read the value as the target the element is read. -/
inductive Asks : Target → Value → Element → Prop where
  | scalar (kind : Scalar) (v : Value) : Asks (.scalar kind) v ⟨[], kind, v⟩
  | given {inner : Target} {v : Value} {e : Element} (present : v ≠ .null) (asks : Asks inner v e) :
      Asks (.option inner) v e
  | item {target : Target} {items : List Value} {i : Nat} {v : Value} {e : Element}
      (found : items[i]? = some v) (asks : Asks target v e) :
      Asks (.list target) (.list items) (e.under i)
  | only {target : Target} {v : Value} {e : Element} (single : ∀ items, v ≠ .list items)
      (asks : Asks target v e) : Asks (.list target) v e

section Asks

variable {target : Target} {v : Value} {e : Element}

theorem asks_given_iff (present : v ≠ .null) : (option target).Asks v e ↔ target.Asks v e := by
  constructor
  · rintro (_ | ⟨-, asks⟩)
    exact asks
  · exact .given present

theorem asks_items_iff {items : List Value} :
    (list target).Asks (.list items) e ↔
      ∃ i v f, items[i]? = some v ∧ target.Asks v f ∧ e = f.under i := by
  constructor
  · intro asks
    cases asks with
    | item found asks => exact ⟨_, _, _, found, asks, rfl⟩
    | only single => exact absurd rfl (single items)
  · rintro ⟨i, v, f, found, asks, rfl⟩
    exact .item found asks

theorem asks_only_iff (single : ∀ items, v ≠ .list items) :
    (list target).Asks v e ↔ target.Asks v e := by
  constructor
  · intro asks
    cases asks with
    | item => exact absurd rfl (single _)
    | only _ asks => exact asks
  · exact .only single

end Asks

/-- The element is the first that is not of its type. -/
structure FirstRefusal (target : Target) (v : Value) (e : Element) (expected : Scalar) : Prop where
  asks : target.Asks v e
  refuses : e.Refuses expected
  first : ∀ f, target.Asks v f → f.Before e → f.Reads

/-- The result is what the value is as the target: of a list one item for each of its items in
their order, of what is no list a single one, and none exactly of `null`. -/
def Shaped : (target : Target) → Value → target.Result → Prop
  | .scalar kind, v, result => ∀ key, v.asScalar kind key = .ok result
  | .value, v, result => result = v
  | .option inner, v, result =>
    (v = .null ∧ result = none) ∨
      (v ≠ .null ∧ ∃ present, result = some present ∧ Shaped inner v present)
  | .list item, v, result =>
    (∃ items, v = .list items ∧ List.Forall₂ (Shaped item) items result) ∨
      ((∀ items, v ≠ .list items) ∧ ∃ only, result = [only] ∧ Shaped item v only)

end Target

/-! ### One scalar -/

theorem orMismatch_cases {α : Type} (expected : Scalar) (found : Option α) :
    (∃ a, ∀ key, orMismatch key expected found = .ok a) ∨
      ∀ key, orMismatch key expected found = .error (.typeMismatch key expected) := by
  cases found with
  | none => exact .inr fun _ => rfl
  | some a => exact .inl ⟨a, fun _ => rfl⟩

theorem Value.asSigned_cases (v : Value) :
    (∃ n, ∀ key, v.asSigned key = .ok n) ∨
      ∀ key, v.asSigned key = .error (.typeMismatch key .signed) := by
  cases v with
  | integer n => exact .inl ⟨n, fun _ => rfl⟩
  | string s => exact orMismatch_cases .signed (readSigned s)
  | _ => exact .inr fun _ => rfl

/-- Whether a scalar is of its type does not hang on the key, and its error names the key it is
given. A number without a sign may be reported to be no number with one. -/
theorem Element.reads_or_refuses (e : Element) : e.Reads ∨ ∃ expected, e.Refuses expected := by
  obtain ⟨path, kind, v⟩ := e
  cases kind with
  | text =>
    exact (orMismatch_cases .text v.scalarText?).imp_right fun refuses => ⟨.text, refuses⟩
  | signed => exact v.asSigned_cases.imp_right fun refuses => ⟨.signed, refuses⟩
  | unsigned =>
    rcases v.asSigned_cases with ⟨n, reads⟩ | refuses
    · by_cases negative : n < 0
      · refine .inr ⟨.unsigned, fun key => ?_⟩
        simp only [Value.asScalar, Value.asUnsigned, reads key, if_pos negative, mismatch]
      · refine .inl ⟨n.toUInt64, fun key => ?_⟩
        simp only [Value.asScalar, Value.asUnsigned, reads key, if_neg negative]
    · refine .inr ⟨.signed, fun key => ?_⟩
      simp only [Value.asScalar, Value.asUnsigned, refuses key]
  | float =>
    cases v with
    | float x => exact .inl ⟨x, fun _ => rfl⟩
    | integer n => exact .inl ⟨n.toFloat, fun _ => rfl⟩
    | string s =>
      exact (orMismatch_cases .float _).imp_right fun refuses => ⟨.float, refuses⟩
    | _ => exact .inr ⟨.float, fun _ => rfl⟩
  | truth =>
    cases v with
    | bool b => exact .inl ⟨b, fun _ => rfl⟩
    | string s =>
      exact (orMismatch_cases .truth _).imp_right fun refuses => ⟨.truth, refuses⟩
    | _ => exact .inr ⟨.truth, fun _ => rfl⟩

theorem Element.Refuses.not_reads {e : Element} {expected : Scalar} (refuses : e.Refuses expected) :
    ¬e.Reads := by
  rintro ⟨result, reads⟩
  cases (reads "").symm.trans (refuses "")

/-! ### Results -/

/-- Items that are each read alike under any key make up a list read item by item. -/
theorem convertItems_eq_ok_iff {α : Type} {read : Value → String → Except ConfigError α}
    {shaped : Value → α → Prop} (reads : ∀ v key a, read v key = .ok a ↔ shaped v a) {key : String}
    {n : Nat} {items : List Value} {results : List α} :
    convertItems read key n items = .ok results ↔ List.Forall₂ shaped items results := by
  induction items generalizing n results with
  | nil =>
    rw [convertItems, List.forall₂_nil_left_iff, Except.ok.injEq, eq_comm]
  | cons item rest ih =>
    rw [convertItems, List.forall₂_cons_left_iff]
    simp only [← reads item (itemKey key n), ← ih (n := n + 1)]
    cases read item (itemKey key n) with
    | error e => simp
    | ok first =>
      cases convertItems read key (n + 1) rest with
      | error e => simp
      | ok others => simp [eq_comm]

theorem convert_given {inner : Target} {v : Value} (present : v ≠ .null) (key : String) :
    convert (.option inner) v key = (convert inner v key).map some := by
  cases v with
  | null => exact absurd rfl present
  | _ => rfl

theorem convert_only {item : Target} {v : Value} (single : ∀ items, v ≠ .list items)
    (key : String) :
    convert (.list item) v key = (convert item v key).map fun only => [only] := by
  cases v with
  | list items => exact absurd rfl (single items)
  | _ => rfl

theorem map_eq_ok_iff {ε α β : Type} {f : α → β} {x : Except ε α} {b : β} :
    x.map f = .ok b ↔ ∃ a, x = .ok a ∧ f a = b := by
  cases x <;> simp [Except.map]

theorem map_eq_error_iff {ε α β : Type} {f : α → β} {x : Except ε α} {e : ε} :
    x.map f = .error e ↔ x = .error e := by
  cases x <;> simp [Except.map]

/-- The results of a conversion are those that have the shape of the value. -/
theorem convert_eq_ok_iff {target : Target} {v : Value} {key : String} {result : target.Result} :
    convert target v key = .ok result ↔ target.Shaped v result := by
  induction target generalizing v key with
  | scalar kind =>
    constructor
    · intro reads
      rcases Element.reads_or_refuses ⟨[], kind, v⟩ with ⟨other, always⟩ | ⟨expected, refuses⟩
      · obtain rfl := Except.ok.inj (reads.symm.trans (always key))
        exact always
      · cases reads.symm.trans (refuses key)
    · exact fun shaped => shaped key
  | value => rw [convert, Target.Shaped, Except.ok.injEq, eq_comm]
  | option inner ih =>
    by_cases missing : v = .null
    · subst missing
      simp [convert, Target.Shaped, eq_comm]
    · simp only [convert_given missing, map_eq_ok_iff, Target.Shaped, missing, false_and, false_or,
        ne_eq, not_false_eq_true, true_and, ih]
      exact exists_congr fun present => by rw [and_comm, eq_comm]
  | list item ih =>
    by_cases many : ∃ items, v = .list items
    · obtain ⟨items, rfl⟩ := many
      have reads : ∀ v key a, convert item v key = .ok a ↔ item.Shaped v a := fun v key a => ih
      have each : convertItems (convert item) key 0 items = .ok result ↔
          List.Forall₂ item.Shaped items result := convertItems_eq_ok_iff reads
      rw [convert]
      simpa [Target.Shaped] using each
    · have single := not_exists.mp many
      simp only [convert_only (v := v) single, map_eq_ok_iff, Target.Shaped, single, false_and,
        exists_const, false_or, ne_eq, not_false_eq_true, implies_true, true_and, ih]
      exact exists_congr fun only => by rw [and_comm, eq_comm]

/-! ### Errors -/

section Items

variable {α : Type} {read : Value → String → Except ConfigError α} {key : String} {n : Nat}
  {e : ConfigError}

theorem convertItems_cons_eq_error_iff {item : Value} {rest : List Value} :
    convertItems read key n (item :: rest) = .error e ↔
      read item (itemKey key n) = .error e ∨
        (∃ a, read item (itemKey key n) = .ok a) ∧
          convertItems read key (n + 1) rest = .error e := by
  rw [convertItems]
  cases read item (itemKey key n) with
  | error cause => simp
  | ok first =>
    cases convertItems read key (n + 1) rest with
    | error cause => simp
    | ok others => simp

/-- Reading items fails with the error of the first that is not read. -/
theorem convertItems_eq_error_iff {items : List Value} :
    convertItems read key n items = .error e ↔
      ∃ i item, items[i]? = some item ∧ read item (itemKey key (n + i)) = .error e ∧
        ∀ j < i, ∀ earlier, items[j]? = some earlier →
          ∃ a, read earlier (itemKey key (n + j)) = .ok a := by
  induction items generalizing n with
  | nil => simp [convertItems]
  | cons item rest ih =>
    have shift : ∀ i, n + 1 + i = n + (i + 1) := fun i => by omega
    simp only [convertItems_cons_eq_error_iff, ih, shift]
    constructor
    · rintro (fails | ⟨first, i, other, found, fails, earlier⟩)
      · exact ⟨0, item, rfl, fails, fun j before => absurd before (Nat.not_lt_zero j)⟩
      · refine ⟨i + 1, other, found, fails, fun j before another stands => ?_⟩
        cases j with
        | zero =>
          obtain rfl := Option.some.inj stands
          exact first
        | succ j => exact earlier j (Nat.lt_of_succ_lt_succ before) another stands
    · rintro ⟨i, other, found, fails, earlier⟩
      cases i with
      | zero =>
        obtain rfl := Option.some.inj found
        exact .inl fails
      | succ i =>
        exact .inr ⟨earlier 0 i.succ_pos item rfl, i, other, found, fails,
          fun j before => earlier (j + 1) (Nat.succ_lt_succ before)⟩

end Items

namespace Target

variable {target : Target} {v : Value}

/-- Where there is a result every element is of its type. -/
theorem Asks.reads {e : Element} (asks : target.Asks v e) {result : target.Result}
    (shaped : target.Shaped v result) : e.Reads := by
  induction asks with
  | scalar kind v => exact ⟨result, shaped⟩
  | given present _ ih =>
    rcases shaped with ⟨missing, -⟩ | ⟨-, inner, -, shaped⟩
    · exact absurd missing present
    · exact ih shaped
  | @item target items i v e found _ ih =>
    rcases shaped with ⟨same, listed, each⟩ | ⟨single, -⟩
    · obtain rfl := Value.list.inj listed
      obtain ⟨bound, rfl⟩ := List.getElem?_eq_some_iff.mp found
      exact ih (each.get bound (each.length_eq ▸ bound))
    · exact absurd rfl (single _)
  | only single _ ih =>
    rcases shaped with ⟨items, listed, -⟩ | ⟨-, inner, -, shaped⟩
    · exact absurd listed (single items)
    · exact ih shaped

/-- A conversion that fails has a first element that is not of its type, and its error. -/
theorem exists_firstRefusal {key : String} {e : ConfigError}
    (fails : convert target v key = .error e) :
    ∃ element expected, target.FirstRefusal v element expected ∧
      e = .typeMismatch (element.key key) expected := by
  induction target generalizing v key with
  | scalar kind =>
    rcases Element.reads_or_refuses ⟨[], kind, v⟩ with ⟨result, reads⟩ | ⟨expected, refuses⟩
    · cases fails.symm.trans (reads key)
    · refine ⟨⟨[], kind, v⟩, expected, ⟨.scalar kind v, refuses, fun f asks before => ?_⟩,
        Except.error.inj (fails.symm.trans (refuses key))⟩
      cases asks
      cases before
  | value => cases fails
  | option inner ih =>
    have present : v ≠ .null := by
      rintro rfl
      cases fails
    rw [convert_given present, map_eq_error_iff] at fails
    obtain ⟨element, expected, ⟨asks, refuses, first⟩, rfl⟩ := ih fails
    exact ⟨element, expected, ⟨.given present asks, refuses, fun f asked =>
      first f ((asks_given_iff present).mp asked)⟩, rfl⟩
  | list item ih =>
    by_cases many : ∃ items, v = .list items
    · obtain ⟨items, rfl⟩ := many
      rw [convert] at fails
      obtain ⟨i, v, found, fails, earlier⟩ := convertItems_eq_error_iff.mp fails
      obtain ⟨element, expected, ⟨asks, refuses, first⟩, rfl⟩ := ih fails
      rw [Nat.zero_add]
      refine ⟨element.under i, expected, ⟨.item found asks, refuses, ?_⟩, rfl⟩
      intro f asked before
      obtain ⟨j, w, f, stands, asks', rfl⟩ := asks_items_iff.mp asked
      -- The other element is in an item before, which is read, or before this one in its own item.
      cases before with
      | rel less =>
        obtain ⟨result, reads⟩ := earlier j less w stands
        exact asks'.reads (convert_eq_ok_iff.mp reads)
      | cons before =>
        obtain rfl := Option.some.inj (found.symm.trans stands)
        exact first f asks' before
    · have single := not_exists.mp many
      rw [convert_only single, map_eq_error_iff] at fails
      obtain ⟨element, expected, ⟨asks, refuses, first⟩, rfl⟩ := ih fails
      exact ⟨element, expected, ⟨.only single asks, refuses, fun f asked =>
        first f ((asks_only_iff single).mp asked)⟩, rfl⟩

/-- Elements that are all of their types make up a result. -/
theorem exists_result (reads : ∀ e, target.Asks v e → e.Reads) (key : String) :
    ∃ result, convert target v key = .ok result := by
  cases fails : convert target v key with
  | ok result => exact ⟨result, rfl⟩
  | error e =>
    obtain ⟨element, expected, ⟨asks, refuses, -⟩, -⟩ := exists_firstRefusal fails
    exact absurd (reads element asks) refuses.not_reads

/-- The first element that is not of its type decides the error. -/
theorem FirstRefusal.convert_eq {element : Element} {expected : Scalar}
    (refusal : target.FirstRefusal v element expected) (key : String) :
    convert target v key = .error (.typeMismatch (element.key key) expected) := by
  obtain ⟨asks, refuses, first⟩ := refusal
  induction asks generalizing key with
  | scalar kind v => exact refuses key
  | given present _ ih =>
    rw [convert_given present, map_eq_error_iff]
    exact ih key refuses fun f asks => first f (.given present asks)
  | @item target items i v e found _ ih =>
    have inner : ∀ f, target.Asks v f → f.Before e → f.Reads := fun f asks before =>
      first (f.under i) (.item found asks) (.cons before)
    rw [convert]
    refine convertItems_eq_error_iff.mpr ⟨i, v, found, ?_, fun j before w stands => ?_⟩
    · rw [Nat.zero_add]
      exact ih _ refuses inner
    · exact exists_result (fun f asks => first (f.under j) (.item stands asks) (.rel before)) _
  | only single _ ih =>
    rw [convert_only single, map_eq_error_iff]
    exact ih key refuses fun f asks => first f (.only single asks)

/-- The path of an element leads to its value. -/
theorem Asks.inner? {e : Element} (asks : target.Asks v e) : v.inner? e.path = some e.value := by
  induction asks with
  | scalar kind v => rfl
  | given _ _ ih => exact ih
  | item found _ ih =>
    rw [Element.under, Value.inner?, found]
    exact ih
  | only _ _ ih => exact ih

/-- No two elements have one place. -/
theorem Asks.unique {e f : Element} (first : target.Asks v e) (second : target.Asks v f)
    (same : e.path = f.path) : e = f := by
  induction first generalizing f with
  | scalar kind v =>
    cases second
    rfl
  | given present _ ih => exact ih ((asks_given_iff present).mp second) same
  | item found _ ih =>
    obtain ⟨i, w, f, stands, second, rfl⟩ := asks_items_iff.mp second
    obtain ⟨rfl, below⟩ := List.cons.inj same
    obtain rfl := Option.some.inj (found.symm.trans stands)
    rw [ih second below]
  | only single _ ih => exact ih ((asks_only_iff single).mp second) same

/-- Of two elements one comes first. -/
theorem Asks.before_or_before {e f : Element} (first : target.Asks v e)
    (second : target.Asks v f) : e = f ∨ e.Before f ∨ f.Before e := by
  rcases lt_trichotomy e.path f.path with before | same | before
  · exact .inr (.inl before)
  · exact .inl (first.unique second same)
  · exact .inr (.inr before)

/-- A conversion has the results that have the shape of the value, and fails with the error of the
first element that is not of its type, under the key with the indices that lead there. Of two
elements one comes first, by the indices that lead to them; what comes behind the first that is not
of its type makes no difference. -/
theorem first_mismatch (target : Target) (v : Value) (key : String) :
    (∀ result, convert target v key = .ok result ↔ target.Shaped v result) ∧
    (∀ e, convert target v key = .error e ↔
      ∃ element expected, target.FirstRefusal v element expected ∧
        e = .typeMismatch (element.key key) expected) ∧
    (∀ element, target.Asks v element → v.inner? element.path = some element.value) ∧
    (∀ e f, target.Asks v e → target.Asks v f → e = f ∨ e.Before f ∨ f.Before e) ∧
    (∀ element expected w, target.FirstRefusal v element expected →
      (∀ f, ¬element.Before f → (target.Asks w f ↔ target.Asks v f)) →
        convert target w key = convert target v key) := by
  refine ⟨fun _ => convert_eq_ok_iff, fun e => ⟨exists_firstRefusal, ?_⟩,
    fun _ => Asks.inner?, fun _ _ => Asks.before_or_before, ?_⟩
  · rintro ⟨element, expected, refusal, rfl⟩
    exact refusal.convert_eq key
  · intro element expected w refusal alike
    have moved : target.FirstRefusal w element expected :=
      { asks := (alike element (List.lt_irrefl _)).mpr refusal.asks
        refuses := refusal.refuses
        first := fun f asks before =>
          refusal.first f ((alike f (List.lt_asymm before)).mp asks) before }
    rw [moved.convert_eq, refusal.convert_eq]

/-- Rows of numbers, some of them missing. -/
def rows : Target := .list (.list (.option (.scalar .signed)))

/-- Rows with a word at the beginning of the second, and others behind them. -/
def wordInRow (behind : List Value) : Value :=
  .list ([.list [.null, .integer 1], .list [.string "x"]] ++ behind)

theorem asks_cell_iff {kind : Scalar} {e : Element} :
    (Target.option (.scalar kind)).Asks v e ↔ v ≠ .null ∧ e = ⟨[], kind, v⟩ := by
  constructor
  · rintro (_ | ⟨present, asks⟩)
    cases asks
    exact ⟨present, rfl⟩
  · rintro ⟨present, rfl⟩
    exact .given present (.scalar kind v)

/-- Up to the word the same is asked whatever stands behind the rows. -/
theorem asks_wordInRow {behind : List Value} {e : Element}
    (upTo : ¬Element.Before ⟨[1, 0], .signed, .string "x"⟩ e) :
    rows.Asks (wordInRow behind) e ↔
      e = ⟨[0, 1], .signed, .integer 1⟩ ∨ e = ⟨[1, 0], .signed, .string "x"⟩ := by
  rw [rows, wordInRow, asks_items_iff]
  constructor
  · rintro ⟨i, row, f, found, asks, rfl⟩
    match i with
    | 0 =>
      obtain rfl := Option.some.inj found
      obtain ⟨j, cell, g, stands, below, rfl⟩ := asks_items_iff.mp asks
      obtain ⟨present, rfl⟩ := asks_cell_iff.mp below
      match j with
      | 0 => exact absurd (Option.some.inj stands).symm present
      | 1 =>
        obtain rfl := Option.some.inj stands
        exact .inl rfl
      | j + 2 => cases stands
    | 1 =>
      obtain rfl := Option.some.inj found
      obtain ⟨j, cell, g, stands, below, rfl⟩ := asks_items_iff.mp asks
      obtain ⟨-, rfl⟩ := asks_cell_iff.mp below
      match j with
      | 0 =>
        obtain rfl := Option.some.inj stands
        exact .inr rfl
      | j + 1 => cases stands
    | i + 2 => exact absurd (.rel (by omega)) upTo
  · rintro (rfl | rfl)
    · exact ⟨0, _, _, rfl, .item (i := 1) rfl (asks_cell_iff.mpr ⟨nofun, rfl⟩), rfl⟩
    · exact ⟨1, _, _, rfl, .item (i := 0) rfl (asks_cell_iff.mpr ⟨nofun, rfl⟩), rfl⟩

theorem firstRefusal_wordInRow (behind : List Value) :
    rows.FirstRefusal (wordInRow behind) ⟨[1, 0], .signed, .string "x"⟩ .signed where
  asks := (asks_wordInRow (List.lt_irrefl _)).mpr (.inr rfl)
  refuses _ := rfl
  first f asks before := by
    rcases (asks_wordInRow (List.lt_asymm before)).mp asks with rfl | rfl
    · exact ⟨1, fun _ => rfl⟩
    · exact absurd before (List.lt_irrefl _)

theorem first_mismatch_of_wordInRow :
    rows.FirstRefusal (wordInRow [.bool true]) ⟨[1, 0], .signed, .string "x"⟩ .signed ∧
      convert rows (wordInRow [.bool true]) "ports" =
        .error (.typeMismatch "ports[1][0]" .signed) ∧
      convert rows (wordInRow []) "ports" = convert rows (wordInRow [.bool true]) "ports" := by
  have refusal := firstRefusal_wordInRow [.bool true]
  obtain ⟨-, fails, -, -, alike⟩ := first_mismatch rows (wordInRow [.bool true]) "ports"
  refine ⟨refusal, (fails _).mpr ⟨_, _, refusal, by decide⟩, alike _ _ _ refusal fun f upTo => ?_⟩
  rw [asks_wordInRow upTo, asks_wordInRow upTo]

end Target

end ConfigStack
