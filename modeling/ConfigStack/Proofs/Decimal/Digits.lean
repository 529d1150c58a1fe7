import ConfigStack.Decimal.Text
import Mathlib.Data.List.Induction

/-!
# Whole numbers in decimal digits

A text of digits spells a number: it is the number's own digits with any number of zeros put in
front of them. A whole number with a sign, or without one, is read exactly where it is spelled
(`readInt_eq_some_iff`).
-/
namespace ConfigStack.Decimal

/-- The characters are the digits of the number behind any number of zeros. -/
def Spells (cs : List Char) (n : Nat) : Prop :=
  ∃ count, cs = List.replicate count '0' ++ digitsOf n

/-- The characters spell the number with a sign in front or without one. -/
inductive SpellsInt : List Char → Int → Prop where
  | bare {cs : List Char} {n : Nat} (spells : Spells cs n) : SpellsInt cs n
  | plus {cs : List Char} {n : Nat} (spells : Spells cs n) : SpellsInt ('+' :: cs) n
  | minus {cs : List Char} {n : Nat} (spells : Spells cs n) : SpellsInt ('-' :: cs) (-n)

theorem Spells.isDigit {cs : List Char} {n : Nat} (spells : Spells cs n) :
    ∀ c ∈ cs, c.isDigit = true := by
  obtain ⟨count, rfl⟩ := spells
  intro c member
  rcases List.mem_append.mp member with zero | digit
  · rw [(List.mem_replicate.mp zero).2]
    rfl
  · exact Nat.isDigit_of_mem_toDigits (by decide) (by decide) digit

theorem Spells.ne_nil {cs : List Char} {n : Nat} (spells : Spells cs n) : cs ≠ [] := by
  obtain ⟨count, rfl⟩ := spells
  exact List.append_ne_nil_of_right_ne_nil _ Nat.toDigits_ne_nil

theorem Spells.value {cs : List Char} {n : Nat} (spells : Spells cs n) :
    Nat.ofDigitChars 10 cs 0 = n := by
  obtain ⟨count, rfl⟩ := spells
  rw [Nat.ofDigitChars_append, Nat.ofDigitChars_replicate_zero, Nat.mul_zero]
  exact Nat.ofDigitChars_ten_toDigits

theorem digitsOf_of_isDigit {c : Char} (digit : c.isDigit = true) :
    c.toNat - '0'.toNat < 10 ∧ digitsOf (c.toNat - '0'.toNat) = [c] := by
  have range := Char.isDigit_iff_toNat.mp digit
  have zero : '0'.toNat = 48 := rfl
  have nine : '9'.toNat = 57 := rfl
  have small : c.toNat - '0'.toNat < 10 := by omega
  refine ⟨small, ?_⟩
  rw [digitsOf, Nat.toDigits_of_lt_base small, List.singleton_inj]
  apply Char.toNat_inj.mp
  rw [Nat.toNat_digitChar_of_lt_ten small]
  omega

/-- Digits spell the number that they are read as. -/
theorem spells_ofDigitChars {cs : List Char} (nonempty : cs ≠ [])
    (digits : ∀ c ∈ cs, c.isDigit = true) : Spells cs (Nat.ofDigitChars 10 cs 0) := by
  -- From the first digit on: each next one is put behind the digits of the number so far.
  induction cs using List.reverseRecOn with
  | nil => exact absurd rfl nonempty
  | append_singleton cs c ih =>
    obtain ⟨small, own⟩ := digitsOf_of_isDigit (digits c (by simp))
    rw [Nat.ofDigitChars_append, Nat.ofDigitChars_cons, Nat.ofDigitChars_nil]
    by_cases first : cs = []
    · subst first
      rw [Nat.ofDigitChars_nil, Nat.mul_zero, Nat.zero_add]
      exact ⟨0, own.symm⟩
    obtain ⟨count, cut⟩ := ih first fun c member => digits c (List.mem_append_left _ member)
    rcases Nat.eq_zero_or_pos (Nat.ofDigitChars 10 cs 0) with zero | positive
    · refine ⟨count + 1, ?_⟩
      rw [zero] at cut ⊢
      rw [Nat.mul_zero, Nat.zero_add, own, List.replicate_succ', cut]
      rfl
    · refine ⟨count, ?_⟩
      rw [digitsOf, ← Nat.toDigits_append_toDigits (by decide) positive small, ← List.append_assoc]
      exact congrArg₂ _ cut own.symm

theorem readDigits_eq_some_iff {cs : List Char} {n : Nat} :
    readDigits cs = some n ↔ Spells cs n := by
  have value : cs.foldl (fun n c => n * 10 + (c.toNat - '0'.toNat)) 0 =
      Nat.ofDigitChars 10 cs 0 := by
    simp only [Nat.ofDigitChars_eq_foldl, Nat.mul_comm]
  rw [readDigits, value]
  constructor
  · intro read
    split at read
    next => cases read
    next proper =>
      obtain ⟨nonempty, digits⟩ : cs ≠ [] ∧ ∀ c ∈ cs, c.isDigit = true := by simpa using proper
      obtain rfl := Option.some.inj read
      exact spells_ofDigitChars nonempty digits
  · intro spells
    have proper : ¬(cs.isEmpty || !cs.all Char.isDigit) = true := by
      simpa using ⟨spells.ne_nil, spells.isDigit⟩
    rw [if_neg proper, spells.value]

theorem cutSign_of_unsigned {cs : List Char} (plus : cs.head? ≠ some '+')
    (minus : cs.head? ≠ some '-') : cutSign cs = (false, cs) := by
  unfold cutSign
  split
  · exact absurd rfl minus
  · exact absurd rfl plus
  · rfl

theorem readInt_of_cut {cs ds : List Char} {negative : Bool} (cut : cutSign cs = (negative, ds)) :
    readInt cs = (readDigits ds).map fun n : Nat => if negative then -(n : Int) else n := by
  rw [readInt, cut]
  cases negative <;> dsimp only <;> cases readDigits ds <;> rfl

/-- A whole number is read where one is spelled. -/
theorem readInt_eq_some_iff {cs : List Char} {z : Int} :
    readInt cs = some z ↔ SpellsInt cs z := by
  constructor
  · intro read
    rcases cut : cutSign cs with ⟨negative, ds⟩
    rw [readInt_of_cut cut, Option.map_eq_some_iff] at read
    obtain ⟨n, digits, rfl⟩ := read
    have spells := readDigits_eq_some_iff.mp digits
    unfold cutSign at cut
    split at cut
    all_goals
      obtain ⟨rfl, rfl⟩ := Prod.mk.inj cut
    · exact .minus spells
    · exact .plus spells
    · exact .bare spells
  · intro spelled
    cases spelled with
    | bare spells =>
      have unsigned : ∀ sign : Char, sign.isDigit = false → cs.head? ≠ some sign := by
        intro sign other first
        rw [spells.isDigit sign (List.mem_of_head? first)] at other
        cases other
      rw [readInt_of_cut (cutSign_of_unsigned (unsigned '+' rfl) (unsigned '-' rfl)),
        readDigits_eq_some_iff.mpr spells]
      rfl
    | @plus ds n spells =>
      have cut : cutSign ('+' :: ds) = (false, ds) := rfl
      rw [readInt_of_cut cut, readDigits_eq_some_iff.mpr spells]
      rfl
    | @minus ds n spells =>
      have cut : cutSign ('-' :: ds) = (true, ds) := rfl
      rw [readInt_of_cut cut, readDigits_eq_some_iff.mpr spells]
      rfl

theorem SpellsInt.unique {cs : List Char} {y z : Int} (first : SpellsInt cs y)
    (second : SpellsInt cs z) : y = z :=
  Option.some.inj ((readInt_eq_some_iff.mpr first).symm.trans (readInt_eq_some_iff.mpr second))

end ConfigStack.Decimal
