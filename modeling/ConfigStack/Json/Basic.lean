import ConfigStack.Decimal.Text
import ConfigStack.Table
import ConfigStack.Text.Utf8

/-!
# JSON values

A number is kept as an integer where it is written as one and fits into sixty-four bits, and as
a binary64 number otherwise. The members of an object have different names; where their order
shows, it is the order of the names.
-/
namespace ConfigStack

inductive JsonNumber where
  | natural (n : UInt64)
  | negative (n : Int64)
  | float (x : Float)
  deriving Inhabited

inductive Json where
  | null
  | bool (b : Bool)
  | number (n : JsonNumber)
  | string (s : String)
  | array (items : List Json)
  | object (members : List (String × Json))
  deriving Inhabited

namespace JsonNumber

def text : JsonNumber → String
  | .natural n => toString n.toNat
  | .negative n => toString n.toInt
  | .float x => Decimal.pointed x

end JsonNumber

namespace Json

def member? (name : String) : Json → Option Json
  | .object members => members.lookup name
  | _ => none

/-- A member of an object that is there and not `null`. -/
def present? (name : String) (j : Json) : Option Json :=
  match j.member? name with
  | some .null => none
  | found => found

/-- A character inside a quoted text: quotes and backslashes are escaped, and so are control
characters. -/
def escaped (c : Char) : List Char :=
  if c = '"' then ['\\', '"']
  else if c = '\\' then ['\\', '\\']
  else if c = '\n' then ['\\', 'n']
  else if c = '\r' then ['\\', 'r']
  else if c = '\t' then ['\\', 't']
  else if c.toNat < 0x20 then
    ['\\', 'u', '0', '0', Text.hexSmall (c.toNat / 16), Text.hexSmall (c.toNat % 16)]
  else [c]

def quoted (s : String) : String :=
  String.ofList ('"' :: s.toList.flatMap escaped ++ ['"'])

mutual

/-- The JSON text of a value, without blanks. -/
def render : Json → String
  | .null => "null"
  | .bool true => "true"
  | .bool false => "false"
  | .number n => n.text
  | .string s => quoted s
  | .array items => "[" ++ String.intercalate "," (renderItems items) ++ "]"
  | .object members => "\x7b" ++ String.intercalate "," (renderMembers members) ++ "\x7d"

def renderItems : List Json → List String
  | [] => []
  | item :: rest => item.render :: renderItems rest

def renderMembers : List (String × Json) → List String
  | [] => []
  | (name, value) :: rest => (quoted name ++ ":" ++ value.render) :: renderMembers rest

end

end Json

end ConfigStack
