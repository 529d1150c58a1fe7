import ConfigStack.Decimal.Text
import ConfigStack.Table
import ConfigStack.Text.Blank

/-!
# Configuration values

The dynamic values a configuration holds, the text of the scalar ones, and their reading as a set
of strings. A scalar is a string, a number or a truth value; `null`, lists and maps have no text
of their own.
-/
namespace ConfigStack

/-- A configuration value. The entries of a map have different keys; their order carries no
meaning. -/
inductive Value where
  | string (text : String)
  | integer (n : Int64)
  | float (x : Float)
  | bool (b : Bool)
  | null
  | list (items : List Value)
  | map (entries : List (String × Value))
  deriving Inhabited

/-- The settings of one source: a value for each key it defines. -/
abbrev Settings := Table Value

namespace Value

def text? : Value → Option String
  | .string s => some s
  | _ => none

theorem text?_eq_some_iff {v : Value} {s : String} : v.text? = some s ↔ v = .string s := by
  cases v <;> simp [text?]

def ofStrings (items : List String) : Value :=
  .list (items.map .string)

def scalarText? : Value → Option String
  | .string s => some s
  | .integer n => some (toString n.toInt)
  | .float x => some (Decimal.plain x)
  | .bool true => some "true"
  | .bool false => some "false"
  | .null | .list _ | .map _ => none

/-- The scalar texts a value offers: of a list those of its scalar items, of a scalar its own. A
list inside a list offers none. -/
def scalarTexts : Value → List String
  | .list items => items.filterMap scalarText?
  | v => v.scalarText?.toList

end Value

namespace StringSet

/-- The comma-separated pieces of a text, trimmed, without the empty ones. -/
def piecesOf (text : String) : List String :=
  ((Text.pieces ',' text.toList).map fun piece => String.ofList (Text.trim piece)).filter (· ≠ "")

/-- The list with only the first of equal items, in the order of the first ones. -/
def distinct : List String → List String
  | [] => []
  | item :: rest => item :: (distinct rest).filter (· ≠ item)

end StringSet

/-- The value as an ordered set of strings: the pieces of its scalar texts, each once. -/
def Value.stringSet (v : Value) : List String :=
  StringSet.distinct (v.scalarTexts.flatMap StringSet.piecesOf)

end ConfigStack
