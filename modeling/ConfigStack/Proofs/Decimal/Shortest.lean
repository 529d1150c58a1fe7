import ConfigStack.Proofs.Decimal.Digits
import ConfigStack.Proofs.Decimal.Rounding
import Mathlib.Data.Nat.Dist

/-!
# The digits that binary64 keeps

A whole number from `2^63` on is written with the digits of the binary64 number nearest to it: the
search for the shortest decimal goes through the multiples of ever smaller powers of ten, and takes
the one next to the binary64 number as soon as there is one in its basin. A thousand is always small
enough, and no basin has two multiples of ten thousand. So the text has the number's own digits
exactly if it is a multiple of ten thousand, or, where the basin has none, the multiple of a
thousand next to the binary64 number (`plain_toFloat_eq_iff`).
-/
namespace ConfigStack.Decimal

/-! ### Decimals without a fraction -/

theorem digitsOf_mul_pow {n : Nat} (positive : 0 < n) (k : Nat) :
    digitsOf (n * 10 ^ k) = digitsOf n ++ List.replicate k '0' := by
  induction k with
  | zero => simp
  | succ k ih =>
    have again : 0 < n * 10 ^ k := Nat.mul_pos positive (Nat.pow_pos (by decide))
    have zero : Nat.toDigits 10 0 = ['0'] := rfl
    rw [Nat.pow_succ, ← Nat.mul_assoc, Nat.mul_comm, digitsOf, ← Nat.add_zero (10 * _),
      ← Nat.toDigits_append_toDigits (by decide) again (by decide), ← digitsOf, ih, zero,
      List.append_assoc, List.replicate_succ']

/-- The decimal is the whole number, written with an exponent that is not negative. -/
def Scaled.IsWhole (d : Scaled) (n : Nat) : Prop :=
  ∃ k : Nat, d.exponent = k ∧ d.digits * 10 ^ k = n

theorem Scaled.IsWhole.normal {d : Scaled} {n : Nat} (whole : d.IsWhole n) (bound : Nat) :
    (d.normal bound).IsWhole n := by
  induction bound generalizing d with
  | zero => exact whole
  | succ bound ih =>
    rw [Scaled.normal]
    split
    next zeros =>
      obtain ⟨k, exponent, value⟩ := whole
      refine ih ⟨k + 1, ?_, ?_⟩
      · dsimp only
        rw [exponent]
        rfl
      · dsimp only
        rw [Nat.pow_succ', ← Nat.mul_assoc, Nat.div_mul_cancel (Nat.dvd_of_mod_eq_zero zeros.2),
          value]
    next => exact whole

theorem plainMagnitude_of_isWhole {d : Scaled} {n : Nat} (whole : d.IsWhole n) (positive : 0 < n) :
    plainMagnitude d = digitsOf n := by
  obtain ⟨k, exponent, value⟩ := whole
  have digits : 0 < d.digits := by
    rcases Nat.eq_zero_or_pos d.digits with zero | nonzero
    · rw [zero, Nat.zero_mul] at value
      omega
    · exact nonzero
  rw [plainMagnitude, exponent, if_pos (by omega), zeros, Int.toNat_natCast,
    ← digitsOf_mul_pow digits, value]

/-! ### Whole basins -/

theorem scaled_natCast (factor base k : Nat) :
    Fraction.scaled factor base k = ⟨factor * base ^ k, 1⟩ := by
  rw [Fraction.scaled, if_pos (by omega), Int.toNat_natCast]
  rfl

/-- The decimals between two whole numbers. -/
def Basin.whole (low high : Nat) (closed : Bool) : Basin :=
  ⟨⟨low, 1⟩, ⟨high, 1⟩, closed⟩

section

variable {low high x : Nat} {closed : Bool}

theorem contains_whole {y : Nat} : (Basin.whole low high closed).contains ⟨y, 1⟩ = true ↔
    if closed then low ≤ y ∧ y ≤ high else low < y ∧ y < high := by
  simp only [Basin.contains, Basin.whole, Fraction.le, Fraction.lt]
  cases closed <;> simp

/-- What is strictly between the ends is in the basin, whether the ends are or not. -/
theorem contains_whole_of_lt {y : Nat} (after : low < y) (before : y < high) :
    (Basin.whole low high closed).contains ⟨y, 1⟩ = true := by
  rw [contains_whole]
  split_ifs <;> omega

theorem contains_whole_between {y z w : Nat}
    (first : (Basin.whole low high closed).contains ⟨y, 1⟩ = true)
    (last : (Basin.whole low high closed).contains ⟨w, 1⟩ = true) (after : y ≤ z) (before : z ≤ w) :
    (Basin.whole low high closed).contains ⟨z, 1⟩ = true := by
  rw [contains_whole] at *
  split_ifs at * <;> omega

theorem lt_next_multiple {unit : Nat} (positive : 0 < unit) (x : Nat) :
    x < (x / unit + 1) * unit := by
  rw [Nat.mul_comm]
  exact Nat.lt_mul_div_succ x positive

section Neighbours

variable {tie : Tie} {k unit c : Nat}
variable (inside : (Basin.whole low high closed).contains ⟨x, 1⟩ = true)
include inside

/-- Between a number of the basin and a positive multiple in the basin there is a neighbour of the
number. -/
theorem neighbour_of_multiple (nonzero : 0 < unit) (positive : 0 < c)
    (multiple : (Basin.whole low high closed).contains ⟨c * unit, 1⟩ = true) :
    (0 < x / unit ∧ c * unit ≤ x / unit * unit ∧
        (Basin.whole low high closed).contains ⟨x / unit * unit, 1⟩ = true) ∨
      ((x / unit + 1) * unit ≤ c * unit ∧
        (Basin.whole low high closed).contains ⟨(x / unit + 1) * unit, 1⟩ = true) := by
  rcases Nat.lt_or_ge (x / unit) c with after | before
  · have order := Nat.mul_le_mul_right unit after
    exact .inr ⟨order, contains_whole_between inside multiple
      (lt_next_multiple nonzero x).le order⟩
  · have order := Nat.mul_le_mul_right unit before
    exact .inl ⟨by omega, order, contains_whole_between multiple inside order
      (Nat.div_mul_le_self x unit)⟩

/-- Where the upper neighbour is not nearer, the lower one is the nearest multiple. -/
theorem dist_lower_le (nonzero : 0 < unit)
    (better : (Basin.whole low high closed).contains ⟨(x / unit + 1) * unit, 1⟩ = true →
      x - x / unit * unit ≤ (x / unit + 1) * unit - x) (positive : 0 < c)
    (multiple : (Basin.whole low high closed).contains ⟨c * unit, 1⟩ = true) :
    Nat.dist (x / unit * unit) x ≤ Nat.dist (c * unit) x := by
  have under := Nat.div_mul_le_self x unit
  have beyond := lt_next_multiple nonzero x
  rw [Nat.dist, Nat.dist]
  rcases neighbour_of_multiple inside nonzero positive multiple with ⟨-, order, -⟩ | ⟨order, held⟩
  · omega
  · have nearer := better held
    omega

/-- Where the lower neighbour is not nearer, the upper one is the nearest multiple. -/
theorem dist_upper_le (nonzero : 0 < unit)
    (better : 0 < x / unit →
      (Basin.whole low high closed).contains ⟨x / unit * unit, 1⟩ = true →
        (x / unit + 1) * unit - x ≤ x - x / unit * unit) (positive : 0 < c)
    (multiple : (Basin.whole low high closed).contains ⟨c * unit, 1⟩ = true) :
    Nat.dist ((x / unit + 1) * unit) x ≤ Nat.dist (c * unit) x := by
  have under := Nat.div_mul_le_self x unit
  have beyond := lt_next_multiple nonzero x
  rw [Nat.dist, Nat.dist]
  rcases neighbour_of_multiple inside nonzero positive multiple with ⟨one, order, held⟩ | ⟨order, -⟩
  · have nearer := better one held
    omega
  · omega

/-- Without a neighbour in it the basin has no positive multiple. -/
theorem neighbour?_eq_none (missed : neighbour? tie (.whole low high closed) ⟨x, 1⟩ k = none)
    (positive : 0 < c) : (Basin.whole low high closed).contains ⟨c * 10 ^ k, 1⟩ = false := by
  have nonzero : 0 < 10 ^ k := Nat.pow_pos (by decide)
  simp only [neighbour?, scaled_natCast, Nat.one_mul, Nat.mul_one] at missed
  split at missed <;> try contradiction
  next lower upper =>
    by_contra multiple
    rcases neighbour_of_multiple inside nonzero positive (Bool.not_eq_false _ ▸ multiple) with
      ⟨one, -, held⟩ | ⟨-, held⟩
    · rw [held, decide_eq_true one] at lower
      cases lower
    · rw [held] at upper
      cases upper

/-- A neighbour that is taken is in the basin, and no positive multiple there is nearer. -/
theorem neighbour?_eq_some {d : Scaled}
    (taken : neighbour? tie (.whole low high closed) ⟨x, 1⟩ k = some d) :
    d.exponent = k ∧ (Basin.whole low high closed).contains ⟨d.digits * 10 ^ k, 1⟩ = true ∧
      ∀ c, 0 < c → (Basin.whole low high closed).contains ⟨c * 10 ^ k, 1⟩ = true →
        Nat.dist (d.digits * 10 ^ k) x ≤ Nat.dist (c * 10 ^ k) x := by
  have nonzero : 0 < 10 ^ k := Nat.pow_pos (by decide)
  simp only [neighbour?, scaled_natCast, Nat.one_mul, Nat.mul_one] at taken
  split at taken
  next => cases taken
  next lower upper =>
    obtain rfl := Option.some.inj taken
    rw [Bool.and_eq_true] at lower
    refine ⟨rfl, lower.1, fun c => dist_lower_le inside nonzero fun held => ?_⟩
    rw [held] at upper
    cases upper
  next lower upper =>
    obtain rfl := Option.some.inj taken
    refine ⟨rfl, upper, fun c => dist_upper_le inside nonzero fun one held => ?_⟩
    rw [held, decide_eq_true one] at lower
    cases lower
  next lower upper =>
    rw [Bool.and_eq_true] at lower
    -- Both are in the basin, and the tie is up to the caller where they are equally near.
    obtain ⟨upwards, rfl, nearer, farther⟩ : ∃ upwards : Bool,
        d = ⟨if upwards then x / 10 ^ k + 1 else x / 10 ^ k, k⟩ ∧
          (upwards = true → (x / 10 ^ k + 1) * 10 ^ k - x ≤ x - x / 10 ^ k * 10 ^ k) ∧
            (upwards = false → x - x / 10 ^ k * 10 ^ k ≤ (x / 10 ^ k + 1) * 10 ^ k - x) := by
      refine ⟨_, (Option.some.inj taken).symm, fun up => ?_, fun down => ?_⟩
      · simp only [Bool.or_eq_true, Bool.and_eq_true, beq_iff_eq, decide_eq_true_eq] at up
        omega
      · simp only [Bool.or_eq_false_iff, decide_eq_false_iff_not] at down
        omega
    cases upwards with
    | false => exact ⟨rfl, lower.1, fun c => dist_lower_le inside nonzero fun _ => farther rfl⟩
    | true => exact ⟨rfl, upper, fun c => dist_upper_le inside nonzero fun _ _ => nearer rfl⟩

end Neighbours

end

/-! ### The first hit -/

/-- The first hit is a hit, and at the size before there is none. -/
theorem firstHit_spec {tie : Tie} {basin : Basin} {x : Fraction} {size more last : Nat}
    {d : Scaled} (hit : neighbour? tie basin x (magnitude x - last) = some d)
    (after : size ≤ last) (within : last < size + more) :
    ∃ t, size ≤ t ∧ t ≤ last ∧
      neighbour? tie basin x (magnitude x - t) = some (firstHit tie basin x size more) ∧
        (size < t → neighbour? tie basin x (magnitude x - (t - 1 : Nat)) = none) := by
  induction more generalizing size with
  | zero => omega
  | succ more ih =>
    rw [firstHit]
    rcases found : neighbour? tie basin x (magnitude x - size) with _ | first
    · have other : size ≠ last := by
        rintro rfl
        rw [hit] at found
        cases found
      have later : size + 1 ≤ last := by omega
      obtain ⟨t, above, below, here, before⟩ := ih later (by omega)
      refine ⟨t, by omega, below, here, fun _ => ?_⟩
      rcases Nat.eq_or_lt_of_le above with rfl | further
      · exact found
      · exact before further
    · exact ⟨size, Nat.le_refl _, after, found, fun less => absurd less (Nat.lt_irrefl _)⟩

/-- The basin of a whole number from `2^63` on is more than a thousand wide and less than ten
thousand. -/
structure Window (low high x : Nat) : Prop where
  long : 10 ^ 18 ≤ x
  short : x < 10 ^ 20
  below : low + 512 ≤ x
  above : x + 1024 ≤ high
  narrow : high < low + 10 ^ 4

namespace Window

variable {low high x : Nat} (window : Window low high x) (closed : Bool)
include window

theorem magnitude_eq : ∃ last : Nat, magnitude ⟨x, 1⟩ = last + 3 ∧ 16 ≤ last ∧ last ≤ 17 := by
  have long := window.long
  have digits : magnitude ⟨x, 1⟩ = (Nat.toDigits 10 x).length := by
    rw [magnitude, if_pos (by dsimp only; omega), Nat.div_one]
  have least : ¬(Nat.toDigits 10 x).length ≤ 18 := by
    rw [Nat.length_toDigits_le_iff (by decide) (by decide)]
    omega
  have most : (Nat.toDigits 10 x).length ≤ 20 := by
    rw [Nat.length_toDigits_le_iff (by decide) (by decide)]
    exact window.short
  exact ⟨(Nat.toDigits 10 x).length - 3, by omega, by omega, by omega⟩

theorem inside : (Basin.whole low high closed).contains ⟨x, 1⟩ = true := by
  have below := window.below
  have above := window.above
  exact contains_whole_of_lt (by omega) (by omega)

/-- The nearest multiple of a thousand is in the basin. -/
theorem thousand_inside :
    (Basin.whole low high closed).contains ⟨(x + 500) / 1000 * 10 ^ 3, 1⟩ = true := by
  have below := window.below
  have above := window.above
  exact contains_whole_of_lt (by omega) (by omega)

theorem exists_hit (tie : Tie) :
    ∃ d, neighbour? tie (.whole low high closed) ⟨x, 1⟩ (3 : Nat) = some d := by
  have long := window.long
  rw [← Option.ne_none_iff_exists']
  intro missed
  have positive : 0 < (x + 500) / 1000 := by omega
  have outside := neighbour?_eq_none (window.inside closed) missed positive
  rw [window.thousand_inside] at outside
  cases outside

theorem outside_of_missed {tie : Tie} {k : Nat}
    (missed : neighbour? tie (.whole low high closed) ⟨x, 1⟩ k = none) {y : Nat}
    (multiple : 10 ^ k ∣ y) : (Basin.whole low high closed).contains ⟨y, 1⟩ = false := by
  obtain ⟨c, rfl⟩ := multiple
  rcases Nat.eq_zero_or_pos c with rfl | positive
  · have long := window.long
    have above := window.above
    have narrow := window.narrow
    rw [← Bool.not_eq_true, contains_whole]
    split_ifs <;> omega
  · rw [Nat.mul_comm]
    exact neighbour?_eq_none (window.inside closed) missed positive

/-- The number written is a multiple of ten thousand, or, where the basin has none, the nearest
multiple of a thousand. -/
theorem exists_written (tie : Tie) :
    ∃ w, (firstHit tie (.whole low high closed) ⟨x, 1⟩ 1 17).IsWhole w ∧
      (Basin.whole low high closed).contains ⟨w, 1⟩ = true ∧
        (10 ^ 4 ∣ w ∨ (10 ^ 3 ∣ w ∧ Nat.dist w x ≤ 500 ∧
          ∀ y, 10 ^ 4 ∣ y → (Basin.whole low high closed).contains ⟨y, 1⟩ = false)) := by
  have long := window.long
  obtain ⟨last, size, least, most⟩ := window.magnitude_eq
  obtain ⟨d, hit⟩ := window.exists_hit closed tie
  have final : magnitude ⟨x, 1⟩ - last = (3 : Nat) := by omega
  obtain ⟨t, first, early, here, before⟩ :=
    firstHit_spec (by rw [final]; exact hit) (by omega : 1 ≤ last) (by omega : last < 1 + 17)
  have exponent : magnitude ⟨x, 1⟩ - t = (last + 3 - t : Nat) := by omega
  rw [exponent] at here
  obtain ⟨shift, inside, nearest⟩ := neighbour?_eq_some (window.inside closed) here
  refine ⟨_, ⟨last + 3 - t, shift, rfl⟩, inside, ?_⟩
  -- What is hit before the thousands is a multiple of ten thousand; where nothing is, the multiples
  -- of ten thousand were tried last.
  rcases Nat.lt_or_eq_of_le early with sooner | same
  · exact .inl (Dvd.dvd.mul_left (Nat.pow_dvd_pow 10 (by omega)) _)
  · subst same
    have three : t + 3 - t = 3 := by omega
    have coarser : magnitude ⟨x, 1⟩ - (t - 1 : Nat) = (4 : Nat) := by omega
    have missed := before (by omega)
    rw [three] at nearest ⊢
    rw [coarser] at missed
    refine .inr ⟨Nat.dvd_mul_left _ _, ?_, fun y => window.outside_of_missed closed missed⟩
    refine (nearest ((x + 500) / 1000) (by omega) (window.thousand_inside closed)).trans ?_
    rw [Nat.dist]
    omega

end Window

/-! ### The digits of a whole number -/

/-- The text of the nearest binary64 number has the number's own digits: the number is a multiple of
ten thousand, or, where none of those has the same nearest one, the multiple of a thousand next to
it. -/
def KeepsDigits (n : Nat) : Prop :=
  10 ^ 4 ∣ n ∨
    (10 ^ 3 ∣ n ∧ Nat.dist n (2048 * roundHalfEven n 2048) < 500 ∧
      ∀ y, roundHalfEven y 2048 = roundHalfEven n 2048 → ¬10 ^ 4 ∣ y)

/-- Only the two multiples of ten thousand around the number can be rounded as it is. -/
theorem keepsDigits_iff {n : Nat} :
    KeepsDigits n ↔ 10 ^ 4 ∣ n ∨
      (10 ^ 3 ∣ n ∧ Nat.dist n (2048 * roundHalfEven n 2048) < 500 ∧
        roundHalfEven (n / 10 ^ 4 * 10 ^ 4) 2048 ≠ roundHalfEven n 2048 ∧
          roundHalfEven ((n / 10 ^ 4 + 1) * 10 ^ 4) 2048 ≠ roundHalfEven n 2048) := by
  refine or_congr_right (and_congr_right fun _ => and_congr_right fun _ => ?_)
  constructor
  · intro alone
    have multiple : ∀ c, roundHalfEven (c * 10 ^ 4) 2048 ≠ roundHalfEven n 2048 := fun c same =>
      alone _ same (Nat.dvd_mul_left _ _)
    exact ⟨multiple _, multiple _⟩
  · rintro ⟨below, above⟩ y same ⟨c, rfl⟩
    have own := roundHalfEven_cases n
    have other := roundHalfEven_cases (10 ^ 4 * c)
    -- What is rounded alike is no further apart than 2048.
    obtain rfl | rfl : c = n / 10 ^ 4 ∨ c = n / 10 ^ 4 + 1 := by omega
    · exact below (by rw [Nat.mul_comm]; exact same)
    · exact above (by rw [Nat.mul_comm]; exact same)

instance (n : Nat) : Decidable (KeepsDigits n) :=
  decidable_of_iff' _ keepsDigits_iff

/-- The basin of the binary64 number nearest to a whole one. At its ends it may hold other numbers
than those that are rounded so, but no multiples of ten thousand. -/
structure Surrounds (low high : Nat) (closed : Bool) (n : Nat) : Prop where
  window : Window low high (2048 * roundHalfEven n 2048)
  inside : (Basin.whole low high closed).contains ⟨n, 1⟩ = true
  alike : ∀ y, 10 ^ 4 ∣ y → ((Basin.whole low high closed).contains ⟨y, 1⟩ = true ↔
    roundHalfEven y 2048 = roundHalfEven n 2048)

section

variable {low high n : Nat} {closed : Bool}

theorem contains_whole_bounds {y : Nat}
    (inside : (Basin.whole low high closed).contains ⟨y, 1⟩ = true) : low ≤ y ∧ y ≤ high := by
  rw [contains_whole] at inside
  split_ifs at inside <;> omega

theorem Surrounds.exists_written (surrounds : Surrounds low high closed n) (tie : Tie) :
    ∃ w, 0 < w ∧ (firstHit tie (.whole low high closed) ⟨2048 * roundHalfEven n 2048, 1⟩ 1
      17).IsWhole w ∧ (w = n ↔ KeepsDigits n) := by
  obtain ⟨w, whole, inside, written⟩ := surrounds.window.exists_written closed tie
  have long := surrounds.window.long
  have below := surrounds.window.below
  have above := surrounds.window.above
  have narrow := surrounds.window.narrow
  obtain ⟨afterWritten, beforeWritten⟩ := contains_whole_bounds inside
  obtain ⟨after, before⟩ := contains_whole_bounds surrounds.inside
  refine ⟨w, by omega, whole, ?_⟩
  rcases written with coarse | ⟨fine, near, alone⟩
  · constructor
    · rintro rfl
      exact .inl coarse
    · rintro (multiple | ⟨-, -, none⟩)
      · omega
      · exact absurd coarse (none w ((surrounds.alike w coarse).mp inside))
  · constructor
    · rintro rfl
      refine .inr ⟨fine, ?_, fun y same multiple => ?_⟩
      · -- The distance is even more than once, so it is not five hundred.
        rw [Nat.dist] at near ⊢
        omega
      · have outside := alone y multiple
        rw [(surrounds.alike y multiple).mpr same] at outside
        cases outside
    · rintro (multiple | ⟨thousand, nearest, -⟩)
      · have outside := alone n multiple
        rw [surrounds.inside] at outside
        cases outside
      · rw [Nat.dist] at near nearest
        omega

end

/-- Away from a power of two the basin reaches equally far to both sides. -/
theorem basin_of_full {m : Nat} (inner : m ≠ 2 ^ 52) :
    Basin.of m 11 = .whole (2048 * m - 1024) (2048 * m + 1024) (m % 2 = 0) := by
  have power : 2 ^ 9 = 512 := rfl
  have lower : (4 * m - 2) * 512 = 2048 * m - 1024 := by
    rw [Nat.sub_mul, Nat.mul_right_comm]
  have upper : (4 * m + 2) * 512 = 2048 * m + 1024 := by
    rw [Nat.add_mul, Nat.mul_right_comm]
  have apart : ¬(m = 2 ^ 52 ∧ minExponent < 11) := fun both => inner both.1
  have nine : (11 : Int) - 2 = (9 : Nat) := rfl
  rw [Basin.of, Nat.pow_eq, if_neg apart, nine, scaled_natCast, scaled_natCast, power, lower, upper]
  rfl

theorem basin_of_first : Basin.of (2 ^ 52) 11 = .whole (2 ^ 63 - 512) (2 ^ 63 + 1024) true := by
  rw [Basin.of, if_pos ⟨rfl, by decide⟩]
  rfl

theorem basin_of_carried : Basin.of (2 ^ 52) 12 = .whole (2 ^ 64 - 1024) (2 ^ 64 + 2048) true := by
  rw [Basin.of, if_pos ⟨rfl, by decide⟩]
  rfl

/-! The basins of the numbers that are rounded to a mantissa inside the range, to the least one, and
to the power of two behind the greatest one. -/

theorem surrounds_full {n : Nat} (low : 2 ^ 63 ≤ n) (fits : roundHalfEven n 2048 < 2 ^ 53) :
    Surrounds (2048 * roundHalfEven n 2048 - 1024) (2048 * roundHalfEven n 2048 + 1024)
      (roundHalfEven n 2048 % 2 = 0) n := by
  have own := roundHalfEven_cases n
  refine ⟨by constructor <;> omega, ?_, fun y _ => ?_⟩
  · rw [contains_whole]
    split_ifs with even <;> rw [decide_eq_true_eq] at even <;> omega
  · have other := roundHalfEven_cases y
    rw [contains_whole]
    split_ifs with even <;> rw [decide_eq_true_eq] at even <;> omega

theorem surrounds_first {n : Nat} (low : 2 ^ 63 ≤ n) (first : roundHalfEven n 2048 = 2 ^ 52) :
    Surrounds (2 ^ 63 - 512) (2 ^ 63 + 1024) true n := by
  have own := roundHalfEven_cases n
  refine ⟨by constructor <;> omega, ?_, fun y multiple => ?_⟩
  · rw [contains_whole, if_pos rfl]
    omega
  · have other := roundHalfEven_cases y
    rw [contains_whole, if_pos rfl]
    omega

theorem surrounds_carried {n : Nat} (high : n < 2 ^ 64) (carries : roundHalfEven n 2048 = 2 ^ 53) :
    Surrounds (2 ^ 64 - 1024) (2 ^ 64 + 2048) true n := by
  have own := roundHalfEven_cases n
  refine ⟨by constructor <;> omega, ?_, fun y multiple => ?_⟩
  · rw [contains_whole, if_pos rfl]
    omega
  · have other := roundHalfEven_cases y
    rw [contains_whole, if_pos rfl]
    omega

/-- The basin that the text of a whole number is searched in. -/
theorem exists_surrounds {n : UInt64} (large : 2 ^ 63 ≤ n.toNat) :
    ∃ m e low high closed, Binary64.ofFloat n.toFloat = .finite false m e ∧ m ≠ 0 ∧
      Fraction.scaled m 2 e = ⟨2048 * roundHalfEven n.toNat 2048, 1⟩ ∧
        Basin.of m e = .whole low high closed ∧ Surrounds low high closed n.toNat := by
  obtain ⟨least, most⟩ := roundHalfEven_bounds large n.toNat_lt
  have value := ofFloat_toFloat large
  split_ifs at value with carries
  · refine ⟨_, _, _, _, _, value, by decide, ?_, basin_of_carried,
      surrounds_carried n.toNat_lt carries⟩
    rw [carries]
    decide
  by_cases first : roundHalfEven n.toNat 2048 = 2 ^ 52
  · rw [first] at value
    refine ⟨_, _, _, _, _, value, by decide, ?_, basin_of_first, surrounds_first large first⟩
    rw [first]
    decide
  · refine ⟨_, _, _, _, _, value, by omega, ?_, basin_of_full first,
      surrounds_full large (by omega)⟩
    rw [Nat.mul_comm]
    exact scaled_natCast _ 2 11

theorem digitsOf_inj {n k : Nat} : digitsOf n = digitsOf k ↔ n = k := by
  refine ⟨fun same => ?_, fun same => same ▸ rfl⟩
  rw [← Nat.ofDigitChars_ten_toDigits (n := n), ← digitsOf, same]
  exact Nat.ofDigitChars_ten_toDigits

/-- The text of the binary64 number nearest to a whole one. -/
theorem exists_plain_toFloat {n : UInt64} (large : 2 ^ 63 ≤ n.toNat) :
    ∃ w, plain n.toFloat = String.ofList (digitsOf w) ∧ (w = n.toNat ↔ KeepsDigits n.toNat) := by
  obtain ⟨m, e, low, high, closed, value, nonzero, scaled, basin, surrounds⟩ :=
    exists_surrounds large
  obtain ⟨w, positive, whole, own⟩ := surrounds.exists_written .up
  refine ⟨w, ?_, own⟩
  rw [plain, value]
  dsimp only
  rw [shortest, if_neg nonzero, basin, scaled,
    plainMagnitude_of_isWhole (whole.normal 20) positive]
  rfl

/-- From `2^63` on the digits of a whole number survive binary64 exactly where it keeps them. -/
theorem plain_toFloat_eq_iff {n : UInt64} (large : 2 ^ 63 ≤ n.toNat) :
    plain n.toFloat = toString n.toNat ↔ KeepsDigits n.toNat := by
  obtain ⟨w, text, own⟩ := exists_plain_toFloat large
  rw [text, Nat.toString_eq_ofList_toDigits, String.ofList_inj, ← own]
  exact digitsOf_inj

example : ¬KeepsDigits 9223372036854775808 ∧ KeepsDigits 9223372036854776000 := by decide

example : plain (9223372036854775808 : UInt64).toFloat = "9223372036854776000" := by decide +kernel

end ConfigStack.Decimal
