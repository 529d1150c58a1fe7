import ConfigStack.Error
import ConfigStack.Value

/-!
# Reading a value as a type

A `Target` says what a value is to be read as; `Target.Result` is the type of what comes out, so a
conversion that succeeds has the right shape by its type. A failure names the type that the
failing scalar was to have and the place of that scalar: inside lists the key is followed by the
indices that lead to it.
-/
namespace ConfigStack

/-- What a value can be read as. -/
inductive Target where
  | scalar (kind : Scalar)
  | value
  | option (inner : Target)
  | list (item : Target)
  deriving DecidableEq, Repr

abbrev Scalar.Result : Scalar → Type
  | .text => String
  | .signed => Int64
  | .unsigned => UInt64
  | .float => Float
  | .truth => Bool

abbrev Target.Result : Target → Type
  | .scalar kind => kind.Result
  | .value => Value
  | .option inner => Option inner.Result
  | .list item => List item.Result

/-- A signed 64-bit number, if the text between blanks is one. -/
def readSigned (s : String) : Option Int64 :=
  match Decimal.readInt (Text.trim s.toList) with
  | some n =>
    if Int64.minValue.toInt ≤ n ∧ n ≤ Int64.maxValue.toInt then some (Int64.ofInt n) else none
  | none => none

/-- The words for the two truth values, in any case of their letters. No character outside ASCII
has a small letter of these words as its lower case, so lowering the ASCII letters is enough. -/
def readTruth (s : String) : Option Bool :=
  let word := Text.lowered s
  if word = "true" ∨ word = "1" ∨ word = "yes" then some true
  else if word = "false" ∨ word = "0" ∨ word = "no" then some false
  else none

/-- An error of a scalar that is not of the type asked for. -/
def mismatch {α : Type} (key : String) (expected : Scalar) : Except ConfigError α :=
  .error (.typeMismatch key expected)

/-- A value given, or the error of one missing. -/
def orMismatch {α : Type} (key : String) (expected : Scalar) : Option α → Except ConfigError α
  | some a => .ok a
  | none => mismatch key expected

namespace Value

/-- The value as text: that of any scalar. -/
def asText (v : Value) (key : String) : Except ConfigError String :=
  orMismatch key .text v.scalarText?

/-- The value as a signed number: an integer, or a string that spells one. -/
def asSigned (v : Value) (key : String) : Except ConfigError Int64 :=
  match v with
  | .integer n => .ok n
  | .string s => orMismatch key .signed (readSigned s)
  | _ => mismatch key .signed

/-- The value as an unsigned number: a signed one that is not negative. -/
def asUnsigned (v : Value) (key : String) : Except ConfigError UInt64 :=
  match v.asSigned key with
  | .ok n => if n < 0 then mismatch key .unsigned else .ok n.toUInt64
  | .error e => .error e

/-- The value as a binary64 number: a float, an integer, or a string that spells one. -/
def asFloat (v : Value) (key : String) : Except ConfigError Float :=
  match v with
  | .float x => .ok x
  | .integer n => .ok n.toFloat
  | .string s => orMismatch key .float (Decimal.readFloat (Text.trim s.toList))
  | _ => mismatch key .float

/-- The value as a truth value: one, or a string that is a word for one. -/
def asTruth (v : Value) (key : String) : Except ConfigError Bool :=
  match v with
  | .bool b => .ok b
  | .string s => orMismatch key .truth (readTruth s)
  | _ => mismatch key .truth

def asScalar (kind : Scalar) (v : Value) (key : String) : Except ConfigError kind.Result :=
  match kind with
  | .text => v.asText key
  | .signed => v.asSigned key
  | .unsigned => v.asUnsigned key
  | .float => v.asFloat key
  | .truth => v.asTruth key

end Value

/-- The key of an item of the list under `key`. -/
def itemKey (key : String) (index : Nat) : String :=
  key ++ "[" ++ toString index ++ "]"

/-- Reads the items one after the other, each under its own key, up to the first that fails. -/
def convertItems {α : Type} (read : Value → String → Except ConfigError α) (key : String) :
    Nat → List Value → Except ConfigError (List α)
  | _, [] => .ok []
  | index, item :: rest =>
    match read item (itemKey key index) with
    | .error e => .error e
    | .ok first =>
      match convertItems read key (index + 1) rest with
      | .error e => .error e
      | .ok others => .ok (first :: others)

/-- Reads a value as a target. `null` is the missing optional value, and what is no list is read as
the only item of one. -/
def convert : (target : Target) → Value → String → Except ConfigError target.Result
  | .scalar kind, v, key => v.asScalar kind key
  | .value, v, _ => .ok v
  | .option inner, v, key =>
    match v with
    | .null => .ok none
    | v => (convert inner v key).map some
  | .list item, v, key =>
    match v with
    | .list items => convertItems (convert item) key 0 items
    | v => (convert item v key).map fun only => [only]

end ConfigStack
