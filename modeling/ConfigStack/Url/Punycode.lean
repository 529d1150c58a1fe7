/-!
# Punycode

The spelling of a label with other characters by ASCII letters, digits and dashes. The ASCII
characters stand first, then come, after a last dash, numbers of variable length in base 36. Each
number says how far it is to the next insertion, counted through all places of all code points,
smaller code points first.
-/
namespace ConfigStack.Url.Punycode

def digitOf (n : Nat) : Char :=
  Char.ofNat (if n < 26 then n + 'a'.toNat else n - 26 + '0'.toNat)

def valueOf (c : Char) : Option Nat :=
  if 'a' ≤ c ∧ c ≤ 'z' then some (c.toNat - 'a'.toNat)
  else if 'A' ≤ c ∧ c ≤ 'Z' then some (c.toNat - 'A'.toNat)
  else if c.isDigit then some (c.toNat - '0'.toNat + 26)
  else none

/-- The least value a digit with a successor has, at the place `k`. -/
def threshold (bias k : Nat) : Nat :=
  if k ≤ bias then 1 else if bias + 26 ≤ k then 26 else k - bias

theorem threshold_pos (bias k : Nat) : 0 < threshold bias k := by
  unfold threshold
  split
  · omega
  · split <;> omega

theorem threshold_lt (bias k : Nat) : threshold bias k < 36 := by
  unfold threshold
  split
  · omega
  · split <;> omega

/-- A distance divided by 35 until it is at most 455, and 36 for each division. -/
def damp (delta k : Nat) : Nat × Nat :=
  if 455 < delta then damp (delta / 35) (k + 36) else (delta, k)
termination_by delta
decreasing_by omega

/-- The bias for the next number, after a distance with `count` characters in place. -/
def adapt (delta count : Nat) (first : Bool) : Nat :=
  let halved := if first then delta / 700 else delta / 2
  let (rest, k) := damp (halved + halved / count) 0
  k + 36 * rest / (rest + 38)

/-- A distance as digits, from the place `k` on. -/
def encodeNumber (bias k q : Nat) : List Char :=
  let t := threshold bias k
  if q < t then [digitOf q]
  else digitOf (t + (q - t) % (36 - t)) :: encodeNumber bias (k + 36) ((q - t) / (36 - t))
termination_by q
decreasing_by
  have positive := threshold_pos bias k
  have small := threshold_lt bias k
  exact Nat.lt_of_le_of_lt (Nat.div_le_self _ _) (by omega)

/-- The encoder between two characters: digits written so far, the distance since the last
insertion, the bias, and the characters in place. -/
structure Writing where
  digits : List Char
  delta : Nat
  bias : Nat
  count : Nat

/-- Passes one character of the text while `code` is inserted. -/
def Writing.pass (basic code : Nat) (w : Writing) (c : Char) : Writing :=
  if c.toNat < code then { w with delta := w.delta + 1 }
  else if c.toNat = code then
    { digits := w.digits ++ encodeNumber w.bias 36 w.delta
      delta := 0
      bias := adapt w.delta (w.count + 1) (w.count = basic)
      count := w.count + 1 }
  else w

/-- Inserts the code points one after the other; `next` is the least one not passed yet. -/
def insertAll (cs : List Char) (basic : Nat) : Writing → (next : Nat) → List Nat → List Char
  | w, _, [] => w.digits
  | w, next, code :: more =>
    let reached := { w with delta := w.delta + (code - next) * (w.count + 1) }
    let passed := cs.foldl (Writing.pass basic code) reached
    insertAll cs basic { passed with delta := passed.delta + 1 } (code + 1) more

def isBasic (c : Char) : Bool := c.toNat < 0x80

def encode (cs : List Char) : List Char :=
  let basic := cs.filter isBasic
  let codes := ((cs.filter fun c => !isBasic c).map Char.toNat).mergeSort.eraseDups
  let digits := insertAll cs basic.length ⟨[], 0, 72, basic.length⟩ 128 codes
  if basic.isEmpty then digits else basic ++ '-' :: digits

/-- A distance from the front of digits, and the rest. -/
def decodeNumber (bias : Nat) : (k weight sum : Nat) → List Char → Option (Nat × List Char)
  | _, _, _, [] => none
  | k, weight, sum, c :: rest =>
    match valueOf c with
    | none => none
    | some d =>
      let t := threshold bias k
      let sum := sum + d * weight
      if Nat.pow 2 32 ≤ sum then none
      else if d < t then some (sum, rest)
      else decodeNumber bias (k + 36) (weight * (36 - t)) sum rest

/-- Inserts what the digits say into the characters in place. Each number has at least one digit,
so the count of digits bounds the insertions. -/
def insertDigits (out : List Char) (code place bias : Nat) (first : Bool) :
    Nat → List Char → Option (List Char)
  | 0, digits => if digits.isEmpty then some out else none
  | _ + 1, [] => some out
  | steps + 1, digits =>
    match decodeNumber bias 36 1 0 digits with
    | none => none
    | some (delta, rest) =>
      let size := out.length + 1
      let reached := place + delta
      let code := code + reached / size
      let place := reached % size
      if h : code.isValidChar then
        let c : Char := Char.ofNatAux code h
        insertDigits (out.take place ++ c :: out.drop place) code (place + 1)
          (adapt delta size first) false steps rest
      else none

/-- A text cut at its last dash: what stands before it, and the digits. -/
def cutLastDash (cs : List Char) : List Char × List Char :=
  match cs.reverse.dropWhile (· ≠ '-') with
  | [] => ([], cs)
  | _ :: before => (before.reverse, (cs.reverse.takeWhile (· ≠ '-')).reverse)

def decode (cs : List Char) : Option (List Char) :=
  let (basic, digits) := cutLastDash cs
  if basic.all isBasic then insertDigits basic 128 0 72 true (digits.length + 1) digits else none

end ConfigStack.Url.Punycode
