import ConfigStack.Inquiry
import ConfigStack.Text.Quoted

/-!
# Sources of settings

A source has a name, says whether it defines a key, and gives a value for it. Process variables
and static layers look at nothing else; a conditional layer asks which keys are present, an alias
layer passes another key on, and a computed layer may ask anything. A source asks only about a
key that it could define.
-/
namespace ConfigStack

/-- The name under which a key is looked for among the process variables: dots and dashes become
underscores and small letters large ones, ASCII letters only. -/
def variableName (key : String) : String :=
  Text.raised (String.ofList (key.toList.map fun c => if c = '.' ∨ c = '-' then '_' else c))

/-- Fixed settings, always visible. -/
structure StaticLayer where
  name : String
  settings : Settings

/-- Fixed settings, visible while every required key is contained and no forbidden key is. -/
structure ConditionalLayer where
  name : String
  settings : Settings
  required : List String := []
  forbidden : List String := []

/-- Keys that stand for other keys and have their current values. -/
structure AliasLayer where
  name : String
  targets : Table String

/-- One key whose value is computed from the environment, visible while there is a value. -/
structure ComputedLayer where
  name : String
  key : String
  compute : Inquiry (Option Value)

/-- A computed layer as text, without what it computes. -/
def ComputedLayer.describe (l : ComputedLayer) : String :=
  "ComputedLayer \x7b name: " ++ Text.quoted l.name ++ ", key: " ++ Text.quoted l.key ++ ", .. \x7d"

/-- A derived source of settings. -/
inductive Layer where
  | static (layer : StaticLayer)
  | conditional (layer : ConditionalLayer)
  | alias (layer : AliasLayer)
  | computed (layer : ComputedLayer)

/-- A source of settings: a layer, or the variables of the process. -/
inductive Source where
  | layer (l : Layer)
  | variables (vars : Table String)

/-- The variable with the name of the key, else the one with its variable name. -/
def lookupVariable (vars : Table String) (key : String) : Option String :=
  (vars.get? key).or (vars.get? (variableName key))

namespace ConditionalLayer

/-- Whether the layer shows the key. It is asked first whether the key is one of its own: what the
layer requires is looked for in the environment that the layer is part of. -/
def shows (l : ConditionalLayer) (key : String) : Inquiry Bool :=
  if l.settings.contains key then do
    if ← Inquiry.allContained l.required then
      return !(← Inquiry.anyContained l.forbidden)
    return false
  else .done false

end ConditionalLayer

namespace Layer

def name : Layer → String
  | .static l => l.name
  | .conditional l => l.name
  | .alias l => l.name
  | .computed l => l.name

/-- Every key the layer could ever define, in order. -/
def definedKeys : Layer → List String
  | .static l => l.settings.sortedKeys
  | .conditional l => l.settings.sortedKeys
  | .alias l => l.targets.sortedKeys
  | .computed l => [l.key]

def contains : Layer → String → Inquiry Bool
  | .static l, key => .done (l.settings.contains key)
  | .conditional l, key => l.shows key
  | .alias l, key =>
    match l.targets.get? key with
    | some target => .contains target
    | none => .done false
  | .computed l, key =>
    if key = l.key then do return (← l.compute).isSome else .done false

/-- The value the layer gives for the key, if it defines it. -/
def get : Layer → String → Inquiry (Option Value)
  | .static l, key => .done (l.settings.get? key)
  | .conditional l, key => do
    if ← l.shows key then return l.settings.get? key
    return none
  | .alias l, key =>
    match l.targets.get? key with
    | some target => .property target
    | none => .done none
  | .computed l, key => if key = l.key then l.compute else .done none

/-- How many of the layer's keys it may have to ask about before it answers. -/
def askingKeys : Layer → Nat
  | .static _ => 0
  | .conditional l => l.settings.entries.length
  | .alias l => l.targets.entries.length
  | .computed _ => 1

end Layer

namespace Source

/-- The name of the source made of the process variables. -/
def variablesName : String := "systemEnvironment"

def name : Source → String
  | .layer l => l.name
  | .variables _ => variablesName

def contains : Source → String → Inquiry Bool
  | .layer l, key => l.contains key
  | .variables vars, key => .done (lookupVariable vars key).isSome

/-- The value the source gives for the key, if it defines it. -/
def get : Source → String → Inquiry (Option Value)
  | .layer l, key => l.get key
  | .variables vars, key => .done ((lookupVariable vars key).map .string)

def askingKeys : Source → Nat
  | .layer l => l.askingKeys
  | .variables _ => 0

end Source

end ConfigStack
