import ConfigStack.Decimal.Binary64

/-!
# The shortest decimal that reads back

For a positive finite binary64 number, the decimal with the fewest digits among those that round
to it, and among those the nearest one. The decimals that round to `m · 2^q` fill an interval
whose ends belong to it exactly when `m` is even. If a decimal of `n` digits lies in the interval
then so does one of the number's two neighbours on the grid of `n` digits, so trying the two
neighbours for `n = 1, 2, …` finds the shortest; seventeen digits always suffice.
-/
namespace ConfigStack.Decimal

/-- Where a decimal halfway between two candidates goes. -/
inductive Tie where
  | up
  | even
  deriving DecidableEq, Repr

structure Scaled where
  digits : Nat
  exponent : Int
  deriving DecidableEq, Repr

/-- A positive power of `base` above or below the line of a fraction. -/
structure Fraction where
  num : Nat
  den : Nat
  deriving DecidableEq, Repr

def Fraction.scaled (factor base : Nat) (exponent : Int) : Fraction :=
  if 0 ≤ exponent then ⟨factor * base.pow exponent.toNat, 1⟩
  else ⟨factor, base.pow (-exponent).toNat⟩

def Fraction.le (a b : Fraction) : Bool :=
  a.num * b.den ≤ b.num * a.den

def Fraction.lt (a b : Fraction) : Bool :=
  a.num * b.den < b.num * a.den

/-- How many zeros stand between the point and the first digit of a fraction below one, looked for
up to a bound. -/
def zerosAfterPoint (x : Fraction) : Nat → Nat
  | 0 => 0
  | bound + 1 =>
    if x.den ≤ x.num * 10 then 0
    else zerosAfterPoint ⟨x.num * 10, x.den⟩ bound + 1

/-- The `k` with `10^(k-1) ≤ x < 10^k`. The least positive binary64 number has 323 zeros after
the point. -/
def magnitude (x : Fraction) : Int :=
  if x.den ≤ x.num then (Nat.toDigits 10 (x.num / x.den)).length
  else -(zerosAfterPoint x 400 : Int)

/-- The interval of the decimals that round to `mantissa · 2^exponent`. Just above a power of two
the numbers below are twice as dense, except at the least exponent. -/
structure Basin where
  low : Fraction
  high : Fraction
  closed : Bool

def Basin.of (mantissa : Nat) (exponent : Int) : Basin where
  low :=
    if mantissa = Nat.pow 2 52 ∧ minExponent < exponent then
      .scaled (4 * mantissa - 1) 2 (exponent - 2)
    else .scaled (4 * mantissa - 2) 2 (exponent - 2)
  high := .scaled (4 * mantissa + 2) 2 (exponent - 2)
  closed := mantissa % 2 = 0

def Basin.contains (b : Basin) (x : Fraction) : Bool :=
  if b.closed then b.low.le x && x.le b.high else b.low.lt x && x.lt b.high

/-- The better of the two neighbours of `x` on the grid of the multiples of `10^exponent`, if one of
them is in the basin. -/
def neighbour? (tie : Tie) (basin : Basin) (x : Fraction) (exponent : Int) : Option Scaled :=
  let unit := Fraction.scaled 1 10 exponent
  let below := x.num * unit.den / (x.den * unit.num)
  let lower := Fraction.scaled below 10 exponent
  let upper := Fraction.scaled (below + 1) 10 exponent
  match basin.contains lower && 0 < below, basin.contains upper with
  | false, false => none
  | true, false => some ⟨below, exponent⟩
  | false, true => some ⟨below + 1, exponent⟩
  | true, true =>
    -- the distances to the two neighbours, as multiples of the unit over `x.den * unit.num`
    let toLower := x.num * unit.den - below * (x.den * unit.num)
    let toUpper := (below + 1) * (x.den * unit.num) - x.num * unit.den
    let takeUpper :=
      toUpper < toLower ||
        (toUpper == toLower && (match tie with | .up => true | .even => below % 2 == 1))
    some ⟨if takeUpper then below + 1 else below, exponent⟩

/-- The first hit on the grids of `size`, `size + 1`, … digits, with `more` grids to try. -/
def firstHit (tie : Tie) (basin : Basin) (x : Fraction) (size : Nat) : Nat → Scaled
  | 0 => ⟨0, 0⟩
  | more + 1 =>
    match neighbour? tie basin x (magnitude x - size) with
    | some found => found
    | none => firstHit tie basin x (size + 1) more

/-- Zeros at the end of the digits moved into the exponent, up to a bound. -/
def Scaled.normal (d : Scaled) : Nat → Scaled
  | 0 => d
  | bound + 1 =>
    if d.digits ≠ 0 ∧ d.digits % 10 = 0 then Scaled.normal ⟨d.digits / 10, d.exponent + 1⟩ bound
    else d

/-- The shortest decimal that reads back as `mantissa · 2^exponent`, without zeros at its end. -/
def shortest (tie : Tie) (mantissa : Nat) (exponent : Int) : Scaled :=
  if mantissa = 0 then ⟨0, 0⟩
  else
    (firstHit tie (.of mantissa exponent) (.scaled mantissa 2 exponent) 1 17).normal 20

end ConfigStack.Decimal
