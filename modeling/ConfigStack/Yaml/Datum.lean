import ConfigStack.Decimal.Text
import ConfigStack.Text.Quoted

/-!
# YAML data

What a YAML document says once its scalars have a meaning and its aliases are replaced: null, truth
values, numbers, texts, sequences, mappings, and data with a tag of their own. Here are also two
texts of a datum: the one that shows it and the one under which it is a key.
-/
namespace ConfigStack.Yaml

/-- A number: a whole one that fits into sixty-four bits, with or without a sign, or a binary64
number. -/
inductive Number where
  | natural (n : UInt64)
  | negative (n : Int64)
  | float (x : Float)
  deriving Inhabited

def Number.text : Number → String
  | .natural n => toString n.toNat
  | .negative n => toString n.toInt
  | .float x =>
    if x.isNaN then ".nan"
    else if x.isInf then if x < 0 then "-.inf" else ".inf"
    else Decimal.pointed x

inductive Datum where
  | null
  | bool (b : Bool)
  | number (n : Number)
  | string (s : String)
  | sequence (items : List Datum)
  | mapping (entries : List (Datum × Datum))
  | tagged (tag : String) (content : Datum)
  deriving Inhabited

def boolText (b : Bool) : String :=
  if b then "true" else "false"

/-- A tag without the exclamation mark in front, unless it is nothing else. -/
def tagName (tag : String) : String :=
  match tag.toList with
  | '!' :: c :: rest => String.ofList (c :: rest)
  | _ => tag

namespace Datum

/-- Braces around items, or just braces. -/
def inBraces (items : List String) : String :=
  "\x7b" ++ String.intercalate ", " items ++ "\x7d"

mutual

/-- The datum as text that shows what it is. -/
def describe : Datum → String
  | .null => "Null"
  | .bool b => "Bool(" ++ boolText b ++ ")"
  | .number n => "Number(" ++ n.text ++ ")"
  | .string s => "String(" ++ Text.quoted s ++ ")"
  | .sequence items => "Sequence [" ++ String.intercalate ", " (describeItems items) ++ "]"
  | .mapping entries => "Mapping " ++ inBraces (describeEntries entries)
  | .tagged tag content =>
    "TaggedValue \x7b tag: !" ++ tagName tag ++ ", value: " ++ content.describe ++ " \x7d"

def describeItems : List Datum → List String
  | [] => []
  | item :: rest => item.describe :: describeItems rest

def describeEntries : List (Datum × Datum) → List String
  | [] => []
  | (key, value) :: rest =>
    (key.describeKey ++ ": " ++ value.describe) :: describeEntries rest

/-- A key of a mapping is shown without the word for its kind where it is a scalar. -/
def describeKey : Datum → String
  | .bool b => boolText b
  | .number n => n.text
  | .string s => Text.quoted s
  | .null => "Null"
  | .sequence items => "Sequence [" ++ String.intercalate ", " (describeItems items) ++ "]"
  | .mapping entries => "Mapping " ++ inBraces (describeEntries entries)
  | .tagged tag content =>
    "TaggedValue \x7b tag: !" ++ tagName tag ++ ", value: " ++ content.describe ++ " \x7d"

end

/-- The text under which a datum is a key: that of a scalar, else the text that shows it. -/
def keyText : Datum → String
  | .string s => s
  | .number n => n.text
  | .bool b => boolText b
  | d => d.describe

end Datum

/-! ### Equal data -/

/-- Whether two numbers are the same: of the same kind and equal. There is one number that is
none. -/
def Number.same : Number → Number → Bool
  | .natural m, .natural n => m == n
  | .negative m, .negative n => m == n
  | .float x, .float y => x == y || (x.isNaN && y.isNaN)
  | _, _ => false

namespace Datum

mutual

/-- Whether two data are the same. The order of the entries of a mapping makes no difference. -/
def same : Datum → Datum → Bool
  | .null, .null => true
  | .bool a, .bool b => a == b
  | .number m, .number n => m.same n
  | .string s, .string t => s == t
  | .sequence xs, .sequence ys => sameItems xs ys
  | .mapping xs, .mapping ys => xs.length == ys.length && allFound xs ys
  | .tagged t a, .tagged u b => tagName t == tagName u && a.same b
  | _, _ => false

def sameItems : List Datum → List Datum → Bool
  | [], [] => true
  | x :: xs, y :: ys => x.same y && sameItems xs ys
  | _, _ => false

/-- Whether each entry of the first list is one of the second. -/
def allFound : List (Datum × Datum) → List (Datum × Datum) → Bool
  | [], _ => true
  | (key, value) :: rest, ys =>
    ys.any (fun entry => key.same entry.1 && value.same entry.2) && allFound rest ys

end

def repeatsKey : List (Datum × Datum) → Bool
  | [] => false
  | (key, _) :: rest => rest.any (fun entry => key.same entry.1) || repeatsKey rest

end Datum

end ConfigStack.Yaml
