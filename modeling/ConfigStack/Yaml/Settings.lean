import ConfigStack.Error
import ConfigStack.Value
import ConfigStack.Yaml.Resolution

/-!
# Settings of a YAML document

A document becomes flat settings: the keys on the way to a datum are joined with dots. A sequence
is a value as a whole, and each of its items has a key of its own besides, with its index. A
sequence that is the whole document, or a lone scalar, has no key and gives no settings. Where two
data have one key the later counts.
-/
namespace ConfigStack.Yaml

namespace Datum

mutual

/-- The datum as a value. A whole number too large for a signed one becomes a binary64 number, and
a datum with a tag of its own the text that shows it. -/
def value : Datum → Value
  | .null => .null
  | .bool b => .bool b
  | .number (.natural n) =>
    if n.toNat < Nat.pow 2 63 then .integer (Int64.ofNat n.toNat) else .float n.toFloat
  | .number (.negative n) => .integer n
  | .number (.float x) => .float x
  | .string s => .string s
  | .sequence items => .list (itemValues items)
  | .mapping entries => .map (Table.ofList (entryValues entries)).entries
  | .tagged tag content => .string (describe (.tagged tag content))

def itemValues : List Datum → List Value
  | [] => []
  | item :: rest => item.value :: itemValues rest

def entryValues : List (Datum × Datum) → List (String × Value)
  | [] => []
  | (key, d) :: rest => (key.keyText, d.value) :: entryValues rest

end

/-- The key of something inside a mapping or a sequence. -/
def joinKeys (outer inner : String) : String :=
  if outer.isEmpty then inner else outer ++ "." ++ inner

mutual

/-- The values below a key, in the order of the document. -/
def valuesBelow (key : String) : Datum → List (String × Value)
  | .mapping entries => valuesOfEntries key entries
  | .sequence items =>
    if key.isEmpty then []
    else (key, .list (itemValues items)) :: valuesOfItems key 0 items
  | d => if key.isEmpty then [] else [(key, d.value)]

def valuesOfEntries (key : String) : List (Datum × Datum) → List (String × Value)
  | [] => []
  | (inner, d) :: rest =>
    valuesBelow (joinKeys key inner.keyText) d ++ valuesOfEntries key rest

def valuesOfItems (key : String) (index : Nat) : List Datum → List (String × Value)
  | [] => []
  | item :: rest =>
    valuesBelow (joinKeys key (toString index)) item ++ valuesOfItems key (index + 1) rest

end

def settings (d : Datum) : Settings :=
  .ofList (d.valuesBelow "")

end Datum

def readSettings (text : String) : Except LoadError Settings :=
  match datum? text with
  | some d => .ok d.settings
  | none => .error .malformed

end ConfigStack.Yaml
