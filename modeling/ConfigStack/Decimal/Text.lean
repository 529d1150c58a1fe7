import ConfigStack.Decimal.Shortest

/-!
# Decimal text

Two written forms of a binary64 number, both made of the shortest digits that read back:
`plain` never uses an exponent and has no point in a whole number; `pointed` always has a point or
an exponent. And the reading of a number from text.
-/
namespace ConfigStack.Decimal

def digitsOf (n : Nat) : List Char :=
  Nat.toDigits 10 n

def zeros (count : Int) : List Char :=
  List.replicate count.toNat '0'

/-- The digits with a point put after the first `places` of them. -/
def withPoint (ds : List Char) (places : Nat) : List Char :=
  ds.take places ++ '.' :: ds.drop places

/-- Written with as many zeros as it takes and never with an exponent. -/
def plainMagnitude (d : Scaled) : List Char :=
  let ds := digitsOf d.digits
  let places : Int := ds.length + d.exponent
  if 0 ≤ d.exponent then ds ++ zeros d.exponent
  else if 0 < places then withPoint ds places.toNat
  else '0' :: '.' :: zeros (-places) ++ ds

/-- Positional, with a final `.0` in a whole number, between `1e-5` and `1e16`; else one digit
before the point and an exponent without a plus sign. -/
def pointedMagnitude (d : Scaled) : List Char :=
  let ds := digitsOf d.digits
  let places : Int := ds.length + d.exponent
  if 0 ≤ d.exponent && places ≤ 16 then ds ++ zeros d.exponent ++ ['.', '0']
  else if 0 < places && places ≤ 16 then withPoint ds places.toNat
  else if -5 < places && places ≤ 0 then '0' :: '.' :: zeros (-places) ++ ds
  else
    let lead := if ds.length = 1 then ds else withPoint ds 1
    lead ++ 'e' :: (toString (places - 1)).toList

def signed (negative : Bool) (cs : List Char) : String :=
  String.ofList (if negative then '-' :: cs else cs)

/-- The shortest text that reads back, always positional: `1`, `-0`, `0.0000001`. -/
def plain (x : Float) : String :=
  match Binary64.ofFloat x with
  | .nan => "NaN"
  | .infinite negative => signed negative ['i', 'n', 'f']
  | .finite negative m e => signed negative (plainMagnitude (shortest .up m e))

/-- The shortest text that reads back and shows that it is no whole-number type: `1.0`, `1e21`.
Only for finite numbers. -/
def pointed (x : Float) : String :=
  match Binary64.ofFloat x with
  | .nan => "NaN"
  | .infinite negative => signed negative ['i', 'n', 'f']
  | .finite negative 0 _ => signed negative ['0', '.', '0']
  | .finite negative m e => signed negative (pointedMagnitude (shortest .even m e))

/-- Digits as a number, if there is at least one and nothing else. -/
def readDigits (cs : List Char) : Option Nat :=
  if cs.isEmpty || !cs.all Char.isDigit then none
  else some (cs.foldl (fun n c => n * 10 + (c.toNat - '0'.toNat)) 0)

/-- A sign taken off the front: whether it was a minus, and the rest. -/
def cutSign : List Char → Bool × List Char
  | '-' :: rest => (true, rest)
  | '+' :: rest => (false, rest)
  | rest => (false, rest)

/-- A whole number: an optional sign and digits. -/
def readInt (cs : List Char) : Option Int :=
  match cutSign cs with
  | (true, ds) => (readDigits ds).map fun n => -(n : Int)
  | (false, ds) => (readDigits ds).map fun n => (n : Int)

/-- A decimal exponent: `e` or `E`, an optional sign, digits; nothing at all is exponent zero. -/
def readExponent : List Char → Option Int
  | [] => some 0
  | c :: rest => if c = 'e' || c = 'E' then readInt rest else none

/-- The number nearest to `± digits · 10^exponent`. An exponent far outside the range is answered
without computing the power. -/
def ofScaled (negative : Bool) (digits : Nat) (exponent : Int) : Float :=
  let places : Int := (digitsOf digits).length + exponent
  if digits = 0 || places < -400 then nearest negative 0 1
  else if 400 < places then nearest negative (Nat.pow 10 400) 1
  else
    let x := Fraction.scaled digits 10 exponent
    nearest negative x.num x.den

/-- A decimal number without its sign: digits with at most one point among or beside them, then an
exponent. At least one digit stands before the exponent. -/
def readMagnitude (negative : Bool) (cs : List Char) : Option Float :=
  let whole := cs.takeWhile Char.isDigit
  let rest := cs.dropWhile Char.isDigit
  let (fraction, tail) :=
    match rest with
    | '.' :: more => (more.takeWhile Char.isDigit, more.dropWhile Char.isDigit)
    | _ => ([], rest)
  match readDigits (whole ++ fraction), readExponent tail with
  | some digits, some exponent => some (ofScaled negative digits (exponent - fraction.length))
  | _, _ => none

/-- A binary64 number: an optional sign, then `inf`, `infinity` or `nan` in any case, or a decimal
number. -/
def readFloat (cs : List Char) : Option Float :=
  let (negative, rest) := cutSign cs
  let word := String.ofList (rest.map Char.toLower)
  if word == "inf" || word == "infinity" then some (nearest negative (Nat.pow 10 400) 1)
  else if word == "nan" then some (0.0 / 0.0)
  else readMagnitude negative rest

end ConfigStack.Decimal
