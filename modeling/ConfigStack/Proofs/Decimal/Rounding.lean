import ConfigStack.Decimal.Binary64
import Mathlib.Algebra.Order.Group.Nat

/-!
# The binary64 number nearest to a whole one

From `2^63` on the whole numbers of sixty-four bits lie too close together for binary64: what is
nearest to one of them is a multiple of `2048`, namely the half-even rounding of the quotient. Where
that many are `2^53` they are a power of two, and are written with the next exponent
(`ofFloat_toFloat`).
-/
namespace ConfigStack.Decimal

open Float.Model Float.Model.UnpackedFloat

/-! ### Rounding -/

/-- A shift keeps the quotient, the bit below it, and whether there is anything below that bit. -/
theorem shiftRight_exact (n k : Nat) :
    ExtendedMantissa.mk n false false >>> (k + 1) =
      ⟨n / 2 ^ (k + 1), n / 2 ^ k % 2 != 0, n % 2 ^ k != 0⟩ := by
  induction k with
  | zero => simp [HShiftRight.hShiftRight, Nat.repeat, ExtendedMantissa.shiftRightOne, Nat.mod_one]
  | succ k ih =>
    change ExtendedMantissa.shiftRightOne (ExtendedMantissa.mk n false false >>> (k + 1)) = _
    have below : n % 2 ^ (k + 1) = 0 ↔ n / 2 ^ k % 2 = 0 ∧ n % 2 ^ k = 0 := by
      rw [Nat.pow_succ, Nat.mod_mul, Nat.add_eq_zero_iff, Nat.mul_eq_zero, and_comm]
      simp
    have sticky : (n / 2 ^ k % 2 != 0 || n % 2 ^ k != 0) = (n % 2 ^ (k + 1) != 0) := by
      rw [Bool.eq_iff_iff]
      simp only [Bool.or_eq_true, bne_iff_ne, ne_eq, below, Decidable.not_and_iff_or_not]
    rw [ih, ExtendedMantissa.shiftRightOne, sticky, Nat.div_div_eq_div_mul, ← Nat.pow_succ]

/-- To drop bits is to round the quotient. -/
theorem roundedMantissa_shiftRight (n k : Nat) :
    (ExtendedMantissa.mk n false false >>> (k + 1)).roundedMantissa =
      roundHalfEven n (2 ^ (k + 1)) := by
  have rest : n % 2 ^ (k + 1) = n % 2 ^ k + 2 ^ k * (n / 2 ^ k % 2) := by
    rw [Nat.pow_succ, Nat.mod_mul]
  have low := Nat.mod_lt n (Nat.two_pow_pos k)
  have unit : 2 ^ (k + 1) = 2 * 2 ^ k := by rw [Nat.pow_succ, Nat.mul_comm]
  rw [shiftRight_exact, roundHalfEven, rest, ExtendedMantissa.roundedMantissa]
  -- The bit below the kept ones says on which side of the half the rest is.
  rcases Nat.mod_two_eq_zero_or_one (n / 2 ^ k) with bit | bit
  · have less : 2 * (n % 2 ^ k + 2 ^ k * (n / 2 ^ k % 2)) < 2 ^ (k + 1) := by
      rw [bit, unit]
      omega
    rw [if_pos less, bit]
    cases n % 2 ^ k != 0 <;> rfl
  · have more : ¬2 * (n % 2 ^ k + 2 ^ k * (n / 2 ^ k % 2)) < 2 ^ (k + 1) := by
      rw [bit, unit]
      omega
    rw [if_neg more, bit]
    by_cases half : n % 2 ^ k = 0
    · rw [half, unit, Nat.zero_add, Nat.mul_one, if_pos rfl]
      rfl
    · have beyond : ¬2 * (n % 2 ^ k + 2 ^ k * 1) = 2 ^ (k + 1) := by
        rw [unit]
        omega
      rw [if_neg beyond, bne_iff_ne.mpr half]
      rfl

theorem roundHalfEven_cases (n : Nat) :
    (2 * (n % 2048) < 2048 ∧ roundHalfEven n 2048 = n / 2048) ∨
      (2 * (n % 2048) = 2048 ∧ roundHalfEven n 2048 = n / 2048 + n / 2048 % 2) ∨
        (2048 < 2 * (n % 2048) ∧ roundHalfEven n 2048 = n / 2048 + 1) := by
  rw [roundHalfEven]
  split_ifs <;> omega

/-- What is left of sixty-four bits are fifty-three, or the least number of fifty-four. -/
theorem roundHalfEven_bounds {n : Nat} (low : 2 ^ 63 ≤ n) (high : n < 2 ^ 64) :
    2 ^ 52 ≤ roundHalfEven n 2048 ∧ roundHalfEven n 2048 ≤ 2 ^ 53 := by
  have cases := roundHalfEven_cases n
  omega

theorem shiftToTargetExponent_exact {m t : Nat} {e : Int}
    (target : Format.binary64.targetExponent (totalExponent m e) = e + t) :
    shiftToTargetExponent Format.binary64 m e .exact =
      (ExtendedMantissa.mk m false false >>> t, e + t) := by
  rw [shiftToTargetExponent, target, shiftToExponent]
  have amount : (e + t - e).toNat = t := by omega
  rw [amount]
  rfl

theorem targetExponent_eq {m : Nat} {e : Int} (large : -1074 ≤ m.log2 + e - 52) :
    Format.binary64.targetExponent (totalExponent m e) = m.log2 + e - 52 := by
  have least : Format.binary64.targetExponent (totalExponent m e) =
      max (m.log2 + 1 + e - 53) (-1074) := rfl
  rw [least]
  omega

/-- Rounding shifts once more behind the rounded mantissa, which may have a bit more. -/
theorem roundWithAccuracy_eq {m : Nat} {e e₁ e₂ : Int} {em₁ em₂ : ExtendedMantissa}
    (first : shiftToTargetExponent Format.binary64 m e .exact = (em₁, e₁))
    (second : shiftToTargetExponent Format.binary64 em₁.roundedMantissa e₁ .exact = (em₂, e₂))
    (left : 0 < em₂.mantissa) :
    roundWithAccuracy Format.binary64 .positive m e .exact =
      .finite .positive em₂.mantissa e₂ left := by
  rw [roundWithAccuracy, first]
  dsimp only
  rw [second]
  exact dif_neg left.ne'

/-- A whole number is rounded where it has more bits than a mantissa, and once more shifted where
that makes a bit more. -/
theorem ofNat_eq {n t : Nat} {em : ExtendedMantissa} {e : Int} (positive : 0 < n)
    (target : Format.binary64.targetExponent (totalExponent n 0) = 0 + (t : Int))
    (second : shiftToTargetExponent Format.binary64
      (ExtendedMantissa.mk n false false >>> t).roundedMantissa (0 + t) .exact = (em, e))
    (left : 0 < em.mantissa) :
    UnpackedFloat.ofNat Format.binary64 n = .finite .positive em.mantissa e left := by
  have sign : compare (n : Int) 0 = .gt := Int.compare_eq_gt.mpr (by omega)
  have kept : decreaseExponent n 0 (0 + (t : Int)) = (n, 0) := by
    rw [decreaseExponent]
    have amount : ((0 : Int) - (0 + t)).toNat = 0 := by omega
    rw [amount]
    rfl
  rw [UnpackedFloat.ofNat, UnpackedFloat.ofInt, UnpackedFloat.normalize, sign]
  change UnpackedFloat.round Format.binary64 .positive n 0 = _
  rw [UnpackedFloat.round, target, kept]
  exact roundWithAccuracy_eq (shiftToTargetExponent_exact target) second left

/-- A whole number of sixty-four bits as an unpacked one. -/
theorem exists_ofNat {n : Nat} (low : 2 ^ 63 ≤ n) (high : n < 2 ^ 64) :
    ∃ m e positive, UnpackedFloat.ofNat Format.binary64 n = .finite .positive m e positive ∧
      ((m = roundHalfEven n 2048 ∧ m < 2 ^ 53 ∧ e = 11) ∨
        (roundHalfEven n 2048 = 2 ^ 53 ∧ m = 2 ^ 52 ∧ e = 12)) := by
  have bits : n.log2 = 63 := (Nat.log2_eq_iff (by omega)).mpr ⟨low, high⟩
  have target : Format.binary64.targetExponent (totalExponent n 0) = 0 + (11 : Nat) := by
    rw [targetExponent_eq (by omega), bits]
    rfl
  have rounded : (ExtendedMantissa.mk n false false >>> 11).roundedMantissa =
      roundHalfEven n 2048 := roundedMantissa_shiftRight n 10
  obtain ⟨least, most⟩ := roundHalfEven_bounds low high
  generalize roundHalfEven n 2048 = m at *
  rcases Nat.lt_or_eq_of_le most with fits | carries
  · have bits : m.log2 = 52 := (Nat.log2_eq_iff (by omega)).mpr ⟨least, fits⟩
    have again : Format.binary64.targetExponent (totalExponent m 11) = 11 + (0 : Nat) := by
      rw [targetExponent_eq (by omega), bits]
      rfl
    have second : shiftToTargetExponent Format.binary64
        (ExtendedMantissa.mk n false false >>> 11).roundedMantissa (0 + (11 : Nat)) .exact =
          (⟨m, false, false⟩, 11) := by
      rw [rounded]
      exact shiftToTargetExponent_exact again
    have positive : 0 < m := by omega
    exact ⟨m, 11, positive, ofNat_eq (by omega) target second positive, .inl ⟨rfl, fits, rfl⟩⟩
  · subst carries
    have again : Format.binary64.targetExponent (totalExponent (2 ^ 53) 11) = 11 + (1 : Nat) := by
      decide
    have second : shiftToTargetExponent Format.binary64
        (ExtendedMantissa.mk n false false >>> 11).roundedMantissa (0 + (11 : Nat)) .exact =
          (⟨2 ^ 52, false, false⟩, 12) := by
      rw [rounded]
      exact shiftToTargetExponent_exact again
    have positive : 0 < 2 ^ 52 := by decide
    exact ⟨2 ^ 52, 12, positive, ofNat_eq (by omega) target second positive, .inr ⟨rfl, rfl, rfl⟩⟩

/-! ### Bits -/

/-- The bits of a number with a full mantissa: the fraction below the exponent field. -/
theorem toNat_pack {m : Nat} {e : Int} (positive : 0 < m) (full : 2 ^ 52 ≤ m) (fits : m < 2 ^ 53)
    (low : -1074 ≤ e) (high : e ≤ 971) :
    (UnpackedFloat.pack Format.binary64 (.finite .positive m e positive)).toNat =
      (e + 1075).toNat * 2 ^ 52 + (m - 2 ^ 52) := by
  have bits : m.log2 = 52 := (Nat.log2_eq_iff (by omega)).mpr ⟨full, fits⟩
  have finite : ¬2 ^ Format.binary64.exponentBits ≤
      (e + Format.binary64.exponentBias +
        Format.binary64.mantissaBitsWithoutImplicit).toNat + 1 := by
    change ¬2048 ≤ (e + 1023 + 52).toNat + 1
    omega
  have normal : m.log2 + 1 = Format.binary64.mantissaBits := by
    rw [bits]
    rfl
  have packed : UnpackedFloat.pack Format.binary64 (.finite .positive m e positive) =
      0#1 ++ BitVec.ofNat 11 (e + 1023 + 52).toNat ++ BitVec.ofNat 52 m :=
    (if_neg finite).trans (if_pos normal)
  have field : (e + 1023 + 52).toNat % 2 ^ 11 = (e + 1075).toNat := by omega
  have fraction : m % 2 ^ 52 = m - 2 ^ 52 := by omega
  have room : m - 2 ^ 52 < 2 ^ 52 := by omega
  rw [packed]
  simp only [BitVec.toNat_append, BitVec.toNat_ofNat, Nat.shiftLeft_eq, field, fraction,
    Nat.zero_mod, Nat.zero_mul, Nat.zero_or]
  rw [Nat.mul_comm, Nat.two_pow_add_eq_or_of_lt room]

theorem ofBits_normal {field fraction : Nat} (low : 0 < field) (high : field < 2047)
    (fits : fraction < 2 ^ 52) :
    Binary64.ofBits (field * 2 ^ 52 + fraction) =
      .finite false (2 ^ 52 + fraction) (minExponent + ((field : Int) - 1)) := by
  have power (k : Nat) : Nat.pow 2 k = 2 ^ k := rfl
  have sign : (field * 2 ^ 52 + fraction) / 2 ^ 63 % 2 = 0 := by omega
  have upper : (field * 2 ^ 52 + fraction) / 2 ^ 52 % 2 ^ 11 = field := by omega
  have lower : (field * 2 ^ 52 + fraction) % 2 ^ 52 = fraction := by omega
  simp only [Binary64.ofBits, power, sign, upper, lower]
  rw [if_neg high.ne, if_neg low.ne']
  rfl

/-- A number with a full mantissa is read off its bits as it is. -/
theorem ofBits_toNat_pack {m : Nat} {e : Int} (positive : 0 < m) (full : 2 ^ 52 ≤ m)
    (fits : m < 2 ^ 53) (low : -1074 ≤ e) (high : e ≤ 971) :
    Binary64.ofBits (UnpackedFloat.pack Format.binary64 (.finite .positive m e positive)).toNat =
      .finite false m e := by
  have exponent : minExponent + (((e + 1075).toNat : Int) - 1) = e := by
    rw [minExponent]
    omega
  rw [toNat_pack positive full fits low high, ofBits_normal (by omega) (by omega) (by omega),
    Nat.add_sub_cancel' full, exponent]

/-- From `2^63` on, what is nearest to a whole number of sixty-four bits is a multiple of `2048`. -/
theorem ofFloat_toFloat {n : UInt64} (low : 2 ^ 63 ≤ n.toNat) :
    Binary64.ofFloat n.toFloat =
      if roundHalfEven n.toNat 2048 = 2 ^ 53 then .finite false (2 ^ 52) 12
      else .finite false (roundHalfEven n.toNat 2048) 11 := by
  obtain ⟨m, e, positive, unpacked, shape⟩ := exists_ofNat low n.toNat_lt
  have least := (roundHalfEven_bounds low n.toNat_lt).1
  have bits : n.toFloat.toBits.toNat =
      (UnpackedFloat.pack Format.binary64 (.finite .positive m e positive)).toNat := by
    rw [← unpacked]
    rfl
  rw [Binary64.ofFloat, bits]
  rcases shape with ⟨rfl, fits, rfl⟩ | ⟨carries, rfl, rfl⟩
  · rw [if_neg fits.ne, ofBits_toNat_pack positive least fits (by decide) (by decide)]
  · rw [if_pos carries, ofBits_toNat_pack positive (by decide) (by decide) (by decide) (by decide)]

end ConfigStack.Decimal
