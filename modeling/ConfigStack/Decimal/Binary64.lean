/-!
# Finite binary64 numbers as integers

A finite binary64 number is `±mantissa · 2^exponent`. `Binary64.ofFloat` reads that off the bits,
and `nearest` goes the other way: from an exact quotient of two natural numbers to the binary64
number nearest to it, a tie going to the even mantissa. Both are exact integer arithmetic, so a
decimal text is read and written without any rounding except the one the format asks for.
-/
namespace ConfigStack.Decimal

inductive Binary64 where
  | nan
  | infinite (negative : Bool)
  | finite (negative : Bool) (mantissa : Nat) (exponent : Int)
  deriving DecidableEq, Repr

/-- The least exponent: the subnormal numbers are the multiples of `2^minExponent`. -/
def minExponent : Int := -1074

/-- The value spelled by sign bit, eleven exponent bits and fifty-two fraction bits. -/
def Binary64.ofBits (bits : Nat) : Binary64 :=
  let negative := bits / Nat.pow 2 63 % 2 == 1
  let field : Nat := bits / Nat.pow 2 52 % Nat.pow 2 11
  let fraction := bits % Nat.pow 2 52
  if field = 2047 then
    if fraction = 0 then .infinite negative else .nan
  else if field = 0 then .finite negative fraction minExponent
  else .finite negative (Nat.pow 2 52 + fraction) (minExponent + ((field : Int) - 1))

def Binary64.ofFloat (x : Float) : Binary64 :=
  .ofBits x.toBits.toNat

/-- The natural number nearest to `num / den`, a tie going to the even one. -/
def roundHalfEven (num den : Nat) : Nat :=
  let whole := num / den
  let rest := 2 * (num % den)
  if rest < den then whole
  else if rest = den then whole + whole % 2
  else whole + 1

/-- `num / den` scaled by `2^(-exponent)` and rounded. -/
def mantissaAt (num den : Nat) (exponent : Int) : Nat :=
  if 0 ≤ exponent then roundHalfEven num (den * Nat.pow 2 exponent.toNat)
  else roundHalfEven (num * Nat.pow 2 (-exponent).toNat) den

/-- The exponent at which the mantissa of `num / den` has fifty-three bits, or the least exponent
where that is larger. -/
def exponentOf (num den : Nat) : Int :=
  -- The two bit lengths leave two candidates; the smaller one is right exactly when the scaled
  -- quotient stays below `2^53`.
  let guess : Int := (num.log2 : Int) - den.log2 - 53
  let fits : Bool :=
    if 0 ≤ guess then num < den * Nat.pow 2 guess.toNat * Nat.pow 2 53
    else num * Nat.pow 2 (-guess).toNat < den * Nat.pow 2 53
  max minExponent (if fits then guess else guess + 1)

/-- The bits, sign apart, of the binary64 number nearest to `num / den`; infinity from half a unit
above the greatest finite number on. -/
def nearestBits (num den : Nat) : Nat :=
  -- A mantissa that rounds up to `2^53` carries into the exponent field by itself.
  let exponent := exponentOf num den
  min ((exponent - minExponent).toNat * Nat.pow 2 52 + mantissaAt num den exponent)
    (2047 * Nat.pow 2 52)

def nearest (negative : Bool) (num den : Nat) : Float :=
  let magnitude := if num = 0 then 0 else nearestBits num den
  Float.ofBits (UInt64.ofNat (magnitude + if negative then Nat.pow 2 63 else 0))

end ConfigStack.Decimal
