import ConfigStack.Text.Blank
import ConfigStack.Text.Utf8

/-!
# Tables of code points

A property of characters is kept as the lengths of the runs of code points that share a value, from
the first code point on. Reading a property is a binary search among the places where runs begin.
The lengths are written in hexadecimal, some to a line, with blanks between them.
-/
namespace ConfigStack.Unicode

/-- The number of hexadecimal digits; other characters count as zeros. -/
def hexNumber (cs : List Char) : Nat :=
  cs.foldl (fun n c => n * 16 + (Text.hexValue c).getD 0) 0

def itemsOf (lines : List String) : List (List Char) :=
  lines.flatMap fun line => (Text.pieces ' ' line.toList).filter fun item => !item.isEmpty

/-- How many of the ascending numbers are at most `n`, if those before `low` are and those from
`high` on are not. -/
def countFrom (edges : Array Nat) (n low high : Nat) : Nat :=
  if low < high then
    let middle := (low + high) / 2
    if edges.getD middle 0 ≤ n then countFrom edges n (middle + 1) high
    else countFrom edges n low middle
  else low
termination_by high - low
decreasing_by
  all_goals omega

/-- How many of the ascending numbers are at most `n`. -/
def countUpTo (edges : Array Nat) (n : Nat) : Nat :=
  countFrom edges n 0 edges.size

/-- The sums of the first numbers of a list, of one of them up to all. -/
def runningSums (total : Nat) : List Nat → List Nat
  | [] => []
  | n :: rest => (total + n) :: runningSums (total + n) rest

/-- A set of characters: the code points at which it begins and ends, in turn. -/
structure Ranges where
  edges : Array Nat

namespace Ranges

/-- The set of the code points in every second run; the first run is outside. -/
def ofRuns (lines : List String) : Ranges :=
  ⟨(runningSums 0 ((itemsOf lines).map hexNumber)).toArray⟩

def contains (r : Ranges) (c : Char) : Bool :=
  countUpTo r.edges c.toNat % 2 == 1

end Ranges

/-- A value for each character: where the runs of one value begin, and the value of each run. -/
structure Classes (α : Type) where
  starts : Array Nat
  values : Array α

namespace Classes

variable {α : Type}

/-- The values of runs, each written as its length, a colon and the name of the value. What is
beyond the last run has the value of the empty name. -/
def ofRuns (read : String → α) (lines : List String) : Classes α :=
  let items := (itemsOf lines).map fun item =>
    let length := item.takeWhile (· != ':')
    (hexNumber length, read (String.ofList (item.drop (length.length + 1))))
  ⟨(0 :: runningSums 0 (items.map (·.1))).toArray, (items.map (·.2) ++ [read ""]).toArray⟩

def get (classes : Classes α) (c : Char) (default : α) : α :=
  classes.values.getD (countUpTo classes.starts c.toNat - 1) default

end Classes

end ConfigStack.Unicode
