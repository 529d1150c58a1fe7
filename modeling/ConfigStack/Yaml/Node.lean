import ConfigStack.Yaml.Token

/-!
# YAML nodes

The tree a document is written as, before scalars have a meaning: what is an alias is still one,
and a scalar is a text and whether it was written plainly.

Anchors are numbered. Each is given the count of the different names that were used before it, and
an alias the number its name had last. Where a name is used again two anchors may get one number;
an alias then means the last node with its number.
-/
namespace ConfigStack.Yaml

/-- What stands in front of a node: the number of its anchor and its tag. -/
structure Properties where
  anchor : Option Nat := none
  tag : Option String := none
  deriving DecidableEq, Repr

inductive Node where
  | alias (number : Nat)
  | scalar (properties : Properties) (text : String) (plain : Bool)
  | sequence (properties : Properties) (items : List Node)
  | mapping (properties : Properties) (entries : List (Node × Node))
  deriving Inhabited

namespace Node

def blank (properties : Properties) : Node :=
  .scalar properties "" true

/-- The node with the number of its anchor, if it has one. -/
def labelled (properties : Properties) (node : Node) : List (Nat × Node) :=
  match properties.anchor with
  | some number => [(number, node)]
  | none => []

mutual

/-- The anchored nodes in the order in which they begin. -/
def anchored : Node → List (Nat × Node)
  | .alias _ => []
  | .scalar properties text plain => labelled properties (.scalar properties text plain)
  | .sequence properties items =>
    labelled properties (.sequence properties items) ++ anchoredItems items
  | .mapping properties entries =>
    labelled properties (.mapping properties entries) ++ anchoredEntries entries

def anchoredItems : List Node → List (Nat × Node)
  | [] => []
  | item :: rest => item.anchored ++ anchoredItems rest

def anchoredEntries : List (Node × Node) → List (Nat × Node)
  | [] => []
  | (key, value) :: rest => key.anchored ++ (value.anchored ++ anchoredEntries rest)

end

mutual

/-- How many signs a node is written with: one for a scalar or an alias, and two around the
content of a collection. -/
def size : Node → Nat
  | .alias _ => 1
  | .scalar _ _ _ => 1
  | .sequence _ items => 2 + sizeItems items
  | .mapping _ entries => 2 + sizeEntries entries

def sizeItems : List Node → Nat
  | [] => 0
  | item :: rest => item.size + sizeItems rest

def sizeEntries : List (Node × Node) → Nat
  | [] => 0
  | (key, value) :: rest => key.size + (value.size + sizeEntries rest)

end

end Node

end ConfigStack.Yaml
