import ConfigStack.Loading
import ConfigStack.Proofs.Configured
import ConfigStack.Proofs.Decimal.Shortest
import ConfigStack.Proofs.Flattening
import ConfigStack.Proofs.Resolved

/-!
# Unsigned numbers

A document has whole numbers of sixty-four bits without a sign, and they can be asked for as such.
In between a number is a signed one, or a binary64 number where it is too large for that. So it is
read again, as a number and by its digits, as long as it is below `2^63`; above, only some numbers
keep their digits (`Decimal.KeepsDigits`), and none is read as a number. Digits in a text have the
same bound, and what is refused is refused as a signed number unless it is a negative one
(`unsigned_kept_iff`).
-/
namespace ConfigStack

/-! ### What a document gives -/

theorem Table.lookup_map_snd {α β : Type} (f : α → β) (entries : List (String × α)) (key : String) :
    (entries.map fun entry => (entry.1, f entry.2)).lookup key = (entries.lookup key).map f := by
  induction entries with
  | nil => rfl
  | cons entry rest ih =>
    rw [List.map_cons, lookup_cons, ih, ← Prod.mk.eta (p := entry), lookup_cons]
    split <;> rfl

namespace Yaml.Datum

/-- The data that a document gives values for, each under its key. Nothing is given without a key,
and a sequence without one gives nothing for its items either. -/
def leavesBelow (key : String) (d : Datum) : List (String × Datum) :=
  (if d.isMapping ∨ key = "" then [] else [(key, d)]) ++
    if d.isSequence ∧ key = "" then []
    else (d.children.attach.map fun child =>
      leavesBelow (joinKeys key child.1.1) child.1.2).flatten
termination_by sizeOf d
decreasing_by exact sizeOf_lt_of_mem_children child.2

theorem leavesBelow_eq (key : String) (d : Datum) :
    d.leavesBelow key = (if d.isMapping ∨ key = "" then [] else [(key, d)]) ++
      if d.isSequence ∧ key = "" then []
      else d.children.flatMap fun child => child.2.leavesBelow (joinKeys key child.1) := by
  have families := List.attach_map_val (l := d.children)
    (f := fun child : String × Datum => child.2.leavesBelow (joinKeys key child.1))
  rw [leavesBelow, List.flatMap_def, ← families]

/-- A mapping with one entry gives what the entry gives. -/
theorem leavesBelow_of_entry {d child : Datum} {text : String} (whole : d.isMapping = true)
    (only : d.children = [(text, child)]) (key : String) :
    d.leavesBelow key = child.leavesBelow (joinKeys key text) := by
  have unnumbered : d.isSequence = false := by
    cases d with
    | sequence => cases whole
    | _ => rfl
  rw [leavesBelow_eq, whole, unnumbered, only]
  simp

theorem valuesBelow_of_empty (d : Datum) :
    d.valuesBelow "" = if d.isSequence then []
      else d.children.flatMap fun child => child.2.valuesBelow (joinKeys "" child.1) := by
  cases d with
  | mapping entries =>
    rw [valuesBelow, valuesOfEntries_eq]
    rfl
  | _ => simp [valuesBelow, isSequence, children]

theorem valuesBelow_eq_map_leaves (key : String) (d : Datum) :
    d.valuesBelow key = (d.leavesBelow key).map fun leaf => (leaf.1, leaf.2.value) := by
  induction d using children_induction generalizing key with
  | step d ih =>
    have inner : (d.children.flatMap fun child => child.2.valuesBelow (joinKeys key child.1)) =
        (d.children.flatMap fun child => child.2.leavesBelow (joinKeys key child.1)).map
          fun leaf => (leaf.1, leaf.2.value) := by
      rw [List.map_flatMap]
      exact List.flatMap_congr fun child member => ih child member _
    rw [leavesBelow_eq, List.map_append]
    by_cases root : key = ""
    · subst root
      rw [valuesBelow_of_empty, inner]
      cases d.isSequence <;> simp
    · rw [valuesBelow_eq root, inner]
      cases d.isMapping <;> simp [root]

/-- The datum that counts for a key: the last that the document gives. -/
def givenAt (d : Datum) (key : String) : Option Datum :=
  (d.leavesBelow "").reverse.lookup key

theorem get?_settings (d : Datum) (key : String) :
    d.settings.get? key = (d.givenAt key).map value := by
  rw [settings, Table.get?_ofList, valuesBelow_eq_map_leaves, ← List.map_reverse, givenAt]
  exact Table.lookup_map_snd value _ key

end Yaml.Datum

/-! ### Numbers as values -/

theorem toUInt64_eq_iff {m : Int64} (nonnegative : 0 ≤ m) {n : UInt64} :
    m.toUInt64 = n ↔ m.toInt = n.toNat := by
  rw [← UInt64.toNat_inj, Int64.toNat_toUInt64_of_le nonnegative]
  rw [Int64.le_iff_toInt_le] at nonnegative
  change 0 ≤ m.toInt at nonnegative
  change m.toInt.toNat = n.toNat ↔ _
  omega

theorem isBlank_of_isDigit {c : Char} (digit : c.isDigit = true) : Text.isBlank c = false := by
  have range := Char.isDigit_iff_toNat.mp digit
  have zero : '0'.toNat = 48 := rfl
  have nine : '9'.toNat = 57 := rfl
  simp only [Text.isBlank, Bool.or_eq_false_iff, Bool.and_eq_false_imp, decide_eq_true_eq,
    decide_eq_false_iff_not, beq_eq_false_iff_ne]
  omega

/-- The digits of a number have no blanks at their ends. -/
theorem trim_digitsOf (n : Nat) : Text.trim (Decimal.digitsOf n) = Decimal.digitsOf n := by
  have solid : ∀ c ∈ Decimal.digitsOf n, Text.isBlank c = false := fun c member =>
    isBlank_of_isDigit (Nat.isDigit_of_mem_toDigits (by decide) (by decide) member)
  have trimmed : Text.Trimmed (Decimal.digitsOf n) :=
    ⟨fun c first => solid c (List.mem_of_head? first),
      fun c last => solid c (List.mem_of_getLast? last)⟩
  exact trimmed.trim_eq

/-- A signed number is read from the text of one, with or without blanks around it. -/
theorem readSigned_eq_some_iff {s : String} {m : Int64} :
    readSigned s = some m ↔ Decimal.SpellsInt (Text.trim s.toList) m.toInt := by
  have least : Int64.minValue.toInt = -2 ^ 63 := rfl
  have greatest : Int64.maxValue.toInt = 2 ^ 63 - 1 := rfl
  rw [readSigned, ← Decimal.readInt_eq_some_iff, least, greatest]
  cases Decimal.readInt (Text.trim s.toList) with
  | none => exact ⟨nofun, nofun⟩
  | some z =>
    dsimp only
    rw [Option.some.injEq]
    have low := m.le_toInt
    have high := m.toInt_lt
    split
    next range =>
      rw [Option.some.injEq, ← Int64.toInt_inj, Int64.toInt_ofInt_of_le range.1 (by omega)]
    next outside =>
      constructor
      · nofun
      · rintro rfl
        omega

namespace Value

theorem asUnsigned_of_signed {v : Value} {key : String} {m : Int64}
    (signed : v.asSigned key = .ok m) :
    v.asUnsigned key = if m < 0 then mismatch key .unsigned else .ok m.toUInt64 := by
  rw [asUnsigned, signed]

theorem asUnsigned_ofNat {n : UInt64} (small : n.toNat < 2 ^ 63) {key : String} :
    (integer (Int64.ofNat n.toNat)).asUnsigned key = .ok n := by
  have whole : (Int64.ofNat n.toNat).toInt = n.toNat := Int64.toInt_ofNat_of_lt small
  have nonnegative : 0 ≤ Int64.ofNat n.toNat := by
    rw [Int64.le_iff_toInt_le, whole]
    exact Int.natCast_nonneg _
  rw [asUnsigned_of_signed rfl, if_neg (Int64.not_lt.mpr nonnegative),
    (toUInt64_eq_iff nonnegative).mpr whole]

/-- A text that spells no signed number is refused as one, and a negative number as not unsigned. -/
theorem asUnsigned_string (s key : String) :
    (∃ m : Int64, Decimal.SpellsInt (Text.trim s.toList) m.toInt ∧
      (string s).asUnsigned key = if m < 0 then mismatch key .unsigned else .ok m.toUInt64) ∨
    ((∀ z, Decimal.SpellsInt (Text.trim s.toList) z → z < -2 ^ 63 ∨ 2 ^ 63 ≤ z) ∧
      (string s).asUnsigned key = mismatch key .signed) := by
  have signed : (string s).asSigned key = orMismatch key .signed (readSigned s) := rfl
  cases read : readSigned s with
  | some m =>
    rw [read] at signed
    exact .inl ⟨m, readSigned_eq_some_iff.mp read, asUnsigned_of_signed signed⟩
  | none =>
    rw [read] at signed
    refine .inr ⟨fun z spelled => ?_, by rw [asUnsigned, signed]; rfl⟩
    by_contra range
    have fits : (Int64.ofInt z).toInt = z := Int64.toInt_ofInt_of_le (by omega) (by omega)
    rw [← fits] at spelled
    rw [readSigned_eq_some_iff.mpr spelled] at read
    cases read

section

variable {s key : String}

theorem asUnsigned_string_eq_ok_iff {n : UInt64} :
    (string s).asUnsigned key = .ok n ↔
      n.toNat < 2 ^ 63 ∧ Decimal.SpellsInt (Text.trim s.toList) n.toNat := by
  rcases asUnsigned_string s key with ⟨m, spelled, read⟩ | ⟨outside, refused⟩
  · have high := m.toInt_lt
    rw [read]
    split
    next negative =>
      rw [Int64.lt_iff_toInt_lt] at negative
      change m.toInt < 0 at negative
      constructor
      · nofun
      · rintro ⟨-, own⟩
        have same := spelled.unique own
        omega
    next nonnegative =>
      rw [Except.ok.injEq, toUInt64_eq_iff (Int64.not_lt.mp nonnegative)]
      constructor
      · intro same
        exact ⟨by omega, same ▸ spelled⟩
      · exact fun own => spelled.unique own.2
  · rw [refused]
    constructor
    · nofun
    · rintro ⟨small, own⟩
      have wide := outside _ own
      omega

theorem asUnsigned_string_eq_unsigned_iff :
    (string s).asUnsigned key = mismatch key .unsigned ↔
      ∃ z, Decimal.SpellsInt (Text.trim s.toList) z ∧ -2 ^ 63 ≤ z ∧ z < 0 := by
  rcases asUnsigned_string s key with ⟨m, spelled, read⟩ | ⟨outside, refused⟩
  · have low := m.le_toInt
    rw [read]
    split
    next negative =>
      rw [Int64.lt_iff_toInt_lt] at negative
      exact iff_of_true rfl ⟨_, spelled, low, negative⟩
    next nonnegative =>
      rw [Int64.lt_iff_toInt_lt] at nonnegative
      change ¬m.toInt < 0 at nonnegative
      refine iff_of_false nofun ?_
      rintro ⟨z, own, -, negative⟩
      have same := spelled.unique own
      omega
  · rw [refused]
    refine iff_of_false nofun ?_
    rintro ⟨z, own, low, negative⟩
    have wide := outside z own
    omega

theorem asUnsigned_string_eq_signed_iff :
    (string s).asUnsigned key = mismatch key .signed ↔
      ∀ z, Decimal.SpellsInt (Text.trim s.toList) z → z < -2 ^ 63 ∨ 2 ^ 63 ≤ z := by
  rcases asUnsigned_string s key with ⟨m, spelled, read⟩ | ⟨outside, refused⟩
  · have low := m.le_toInt
    have high := m.toInt_lt
    rw [read]
    refine iff_of_false (by split <;> nofun) fun outside => ?_
    have wide := outside _ spelled
    omega
  · exact iff_of_true refused outside

end

/-- The digits of a number with blanks around them. -/
theorem asUnsigned_between_blanks {before after : String}
    (blank : ∀ c ∈ before.toList, Text.isBlank c = true)
    (blankToo : ∀ c ∈ after.toList, Text.isBlank c = true) (n : UInt64) (key : String) :
    (string (before ++ toString n.toNat ++ after)).asUnsigned key =
      if n.toNat < 2 ^ 63 then .ok n else mismatch key .signed := by
  have own : Decimal.SpellsInt
      (Text.trim (before ++ toString n.toNat ++ after).toList) (n.toNat : Nat) := by
    rw [String.toList_append, String.toList_append, Text.trim_between_blanks blank blankToo,
      Nat.toString_eq_ofList_toDigits, String.toList_ofList, ← Decimal.digitsOf, trim_digitsOf]
    exact .bare ⟨0, rfl⟩
  split
  next small => exact asUnsigned_string_eq_ok_iff.mpr ⟨small, own⟩
  next large =>
    refine asUnsigned_string_eq_signed_iff.mpr fun z spelled => ?_
    have same := own.unique spelled
    omega

end Value

namespace Environment

variable {env : Environment} {key : String}

theorem get_of_held {v : Value} (held : env.property key = some (some v)) (target : Target) :
    env.get target key = ExceptT.mk (some (convert target v key)) := by
  rw [get, require_eq_pure_iff.mpr held, pure_bind]

/-- The environment of a document has the values that the document gives, and no others. -/
theorem exists_ofYaml {text : String} {d : Yaml.Datum} (read : Yaml.datum? text = some d)
    (profile : String) :
    ∃ env, ofYaml text profile = .ok env ∧
      ∀ key, env.property key = some ((d.givenAt key).map Yaml.Datum.value) := by
  refine ⟨(new profile).addLast (.layer (.static ⟨inlineName, d.settings⟩)), ?_, fun key => ?_⟩
  · rw [ofYaml, Yaml.readSettings, read]
  · have fixed : ((new profile).addLast (.layer (.static ⟨inlineName, d.settings⟩))).Fixed := by
      intro s member
      obtain rfl := List.mem_singleton.mp member
      trivial
    rw [property_of_fixed fixed, configured_addLast, ← Yaml.Datum.get?_settings]
    rfl

/-- What a key is read as for which a document gives the number. -/
structure ReadsNatural (env : Environment) (key : String) (n : UInt64) : Prop where
  unsigned : env.get (.scalar .unsigned) key =
    if n.toNat < 2 ^ 63 then pure n else throw (.typeMismatch key .signed)
  text : env.get (.scalar .text) key =
    pure (if n.toNat < 2 ^ 63 then toString n.toNat else Decimal.plain n.toFloat)
  digits : env.get (.scalar .text) key = pure (toString n.toNat) ↔
    n.toNat < 2 ^ 63 ∨ Decimal.KeepsDigits n.toNat

theorem readsNatural_of_held {n : UInt64}
    (held : env.property key = some (some (Yaml.Datum.number (.natural n)).value)) :
    env.ReadsNatural key n := by
  have power : Nat.pow 2 63 = 2 ^ 63 := rfl
  rw [Yaml.Datum.value, power] at held
  split at held
  next small =>
    have whole : (Int64.ofNat n.toNat).toInt = n.toNat := Int64.toInt_ofNat_of_lt small
    have text : env.get (.scalar .text) key = pure (toString n.toNat) := by
      rw [get_of_held held]
      change ExceptT.mk (some (Except.ok (toString (Int64.ofNat n.toNat).toInt))) = _
      rw [whole]
      rfl
    refine ⟨?_, by rw [if_pos small, text], iff_of_true text (.inl small)⟩
    rw [if_pos small, get_of_held held]
    exact congrArg (fun result => ExceptT.mk (some result)) (Value.asUnsigned_ofNat small)
  next large =>
    have text : env.get (.scalar .text) key = pure (Decimal.plain n.toFloat) := get_of_held held _
    refine ⟨?_, by rw [if_neg large, text], ?_⟩
    · rw [if_neg large, get_of_held held]
      rfl
    · rw [text, Reading.pure_inj, Decimal.plain_toFloat_eq_iff (Nat.not_lt.mp large)]
      exact (or_iff_right large).symm

end Environment

/-- **Unsigned numbers survive below `2^63`.** A whole number that a document gives for a key is
read from its environment as an unsigned number, and as its digits, if it is less than that; a
larger one is refused as a signed number, and its text is that of the nearest binary64 number. The
digits of the number in a text, with or without blanks around them, are read under the same bound.
Of all texts those are read as the number that spell it, if it is below the bound; the error names
an unsigned number where a text spells a negative one of sixty-four bits, and in all other cases a
signed one. -/
theorem unsigned_kept_iff (n : UInt64) (key : String) :
    (∀ {text : String} {d : Yaml.Datum}, Yaml.datum? text = some d →
      d.givenAt key = some (.number (.natural n)) → ∀ profile,
        ∃ env, Environment.ofYaml text profile = .ok env ∧ env.ReadsNatural key n) ∧
    (∀ {before after : String}, (∀ c ∈ before.toList, Text.isBlank c = true) →
      (∀ c ∈ after.toList, Text.isBlank c = true) →
        convert (.scalar .unsigned) (.string (before ++ toString n.toNat ++ after)) key =
          if n.toNat < 2 ^ 63 then .ok n else mismatch key .signed) ∧
    ∀ s : String,
      (convert (.scalar .unsigned) (.string s) key = .ok n ↔
        n.toNat < 2 ^ 63 ∧ Decimal.SpellsInt (Text.trim s.toList) n.toNat) ∧
      (convert (.scalar .unsigned) (.string s) key = mismatch key .unsigned ↔
        ∃ z, Decimal.SpellsInt (Text.trim s.toList) z ∧ -2 ^ 63 ≤ z ∧ z < 0) ∧
      (convert (.scalar .unsigned) (.string s) key = mismatch key .signed ↔
        ∀ z, Decimal.SpellsInt (Text.trim s.toList) z → z < -2 ^ 63 ∨ 2 ^ 63 ≤ z) := by
  refine ⟨fun read given profile => ?_, fun blank blankToo =>
    Value.asUnsigned_between_blanks blank blankToo n key, fun s =>
      ⟨Value.asUnsigned_string_eq_ok_iff, Value.asUnsigned_string_eq_unsigned_iff,
        Value.asUnsigned_string_eq_signed_iff⟩⟩
  obtain ⟨env, built, held⟩ := Environment.exists_ofYaml read profile
  refine ⟨env, built, Environment.readsNatural_of_held ?_⟩
  rw [held, given, Option.map_some]

/-- The number that a datum is, if it is a whole one without a sign. -/
def Yaml.Datum.natural? : Datum → Option UInt64
  | .number (.natural n) => some n
  | _ => none

theorem Yaml.Datum.eq_of_natural? {d : Datum} {n : UInt64} (is : d.natural? = some n) :
    d = .number (.natural n) := by
  unfold natural? at is
  split at is
  · rw [Option.some.inj is]
  · cases is

/-- A document with the least number that is lost. -/
def leastLost : String :=
  "size: 9223372036854775808\n"

theorem exists_leastLost : ∃ d, Yaml.datum? leastLost = some d ∧
    d.givenAt "size" = some (.number (.natural 9223372036854775808)) := by
  have shape : (Yaml.datum? leastLost).map (fun d => (d.isMapping, d.children.map fun child =>
      (child.1, child.2.natural?))) = some (true, [("size", some 9223372036854775808)]) := by
    decide +kernel
  obtain ⟨d, read, shape⟩ := Option.map_eq_some_iff.mp shape
  simp only [Prod.mk.injEq, List.map_eq_singleton_iff] at shape
  obtain ⟨whole, ⟨-, size⟩, only, rfl, natural⟩ := shape
  have number : size = .number (.natural 9223372036854775808) :=
    Yaml.Datum.eq_of_natural? natural
  refine ⟨d, read, ?_⟩
  rw [Yaml.Datum.givenAt, Yaml.Datum.leavesBelow_of_entry whole only, number,
    Yaml.Datum.leavesBelow_eq]
  rfl

theorem unsigned_kept_iff_of_leastLost :
    ∃ d env, Yaml.datum? leastLost = some d ∧
      d.givenAt "size" = some (.number (.natural 9223372036854775808)) ∧
      Environment.ofYaml leastLost "dev" = .ok env ∧
      env.get (.scalar .unsigned) "size" = throw (.typeMismatch "size" .signed) ∧
      env.get (.scalar .text) "size" = pure "9223372036854776000" ∧
      convert (.scalar .unsigned) (.string " 5 ") "size" = .ok 5 := by
  obtain ⟨d, read, given⟩ := exists_leastLost
  obtain ⟨env, built, lost⟩ := (unsigned_kept_iff _ _).1 read given "dev"
  have large : ¬(9223372036854775808 : UInt64).toNat < 2 ^ 63 := by decide +kernel
  refine ⟨d, env, read, given, built, lost.unsigned.trans (if_neg large), ?_, ?_⟩
  · have written :
        Decimal.plain (9223372036854775808 : UInt64).toFloat = "9223372036854776000" := by
      decide +kernel
    rw [← written]
    exact lost.text.trans (congrArg pure (if_neg large))
  · have blank : ∀ c ∈ " ".toList, Text.isBlank c = true := List.all_eq_true.mp rfl
    exact (unsigned_kept_iff 5 "size").2.1 blank blank

end ConfigStack
