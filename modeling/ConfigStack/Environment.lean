import ConfigStack.Conversion
import ConfigStack.Source
import ConfigStack.Template
import ConfigStack.Text.Quoted

/-!
# The layered environment

An environment is a list of sources; the first that gives a value for a key wins. A source may ask
the environment back while it answers, so reading a key is a recursion through the sources. It
need not end: an alias may lead to itself. `answer` therefore counts down the questions that may be
nested, and `Environment.budget` is the greatest number that can be nested without a question
being asked again inside itself. Within one number of open expansions only a key that a source
asks about can lead on to another question, and there are only so many of those; each open
expansion adds one question. An exhausted budget is thus a read that never ends, and not a read
that was given up.
-/
namespace ConfigStack

/-- A read that may fail for a reason, or never end: then it is `none`. -/
abbrev Reading := ExceptT ConfigError Option

namespace Expansion

/-- The text of a value in the place of a reference: the text of a scalar, or those of the scalar
items of a list with commas between them. -/
def referenceText (key : String) : Value → Except ConfigError String
  | .list items => .ok (String.intercalate "," (items.filterMap Value.scalarText?))
  | v => v.asText key

/-- The text with its references replaced by the texts of what they name, expanded themselves.
`levels` is how many strings with references may still be nested. -/
def text (property : String → Option (Option Value)) : (levels : Nat) → String → Reading String
  | levels, raw =>
    if Template.hasOpening raw then
      match levels with
      | 0 => throw (.placeholder (.tooDeep raw))
      | levels + 1 =>
        Template.expand (fun key => do
          match ← ExceptT.lift (property key) with
          | none => throw (.placeholder (.unresolved key raw))
          | some v =>
            let inner ← ExceptT.mk (some (referenceText key v))
            text property levels inner) raw
    else pure raw

mutual

/-- The value with the references in a string, or in the strings of a list, expanded. -/
def value (property : String → Option (Option Value)) : Value → Reading Value
  | .string s => do return .string (← text property nestingLimit s)
  | .list items => do return .list (← values property items)
  | v => pure v

def values (property : String → Option (Option Value)) : List Value → Reading (List Value)
  | [] => pure []
  | item :: rest => do
    let first ← value property item
    let others ← values property rest
    pure (first :: others)

end

end Expansion

def anyDefines (oracle : Oracle) (key : String) : List Source → Option Bool
  | [] => some false
  | source :: rest =>
    match (source.contains key).run oracle with
    | some true => some true
    | some false => anyDefines oracle key rest
    | none => none

def firstValue (oracle : Oracle) (key : String) : List Source → Option (Option Value)
  | [] => some none
  | source :: rest =>
    match (source.get key).run oracle with
    | some (some v) => some (some v)
    | some none => firstValue oracle key rest
    | none => none

/-- The answer of the sources to a question with `opened` expansions open around it, if it takes
fewer than `steps` nested questions. -/
def answer (sources : List Source) : (steps opened : Nat) → (q : Query) → Option q.Answer
  | 0, _, _ => none
  | steps + 1, opened, .contains key => anyDefines (answer sources steps opened) key sources
  | steps + 1, opened, .property key => firstValue (answer sources steps opened) key sources
  | steps + 1, opened, .resolved key =>
    -- At the limit of open expansions nothing is resolved any more.
    if nestingLimit ≤ opened then some none
    else
      let property := fun k => answer sources steps (opened + 1) (.property k)
      match property key with
      | none => none
      | some none => some none
      -- A value whose placeholders have no expansion counts as absent.
      | some (some v) => (Expansion.value property v).run.map Except.toOption

/-- An ordered list of sources, the first with the highest priority, under the name of the active
profile. -/
structure Environment where
  profile : String
  sources : List Source

namespace Environment

def new (profile : String) : Environment := ⟨profile, []⟩

def addFirst (env : Environment) (s : Source) : Environment :=
  { env with sources := s :: env.sources }

def addLast (env : Environment) (s : Source) : Environment :=
  { env with sources := env.sources ++ [s] }

def sourceNames (env : Environment) : List String :=
  env.sources.map Source.name

def hasSource (env : Environment) (name : String) : Bool :=
  env.sources.any fun s => s.name == name

/-- The environment as text: its profile and the names of its sources. -/
def describe (env : Environment) : String :=
  "Environment \x7b profile: " ++ Text.quoted env.profile ++ ", sources: " ++
    Text.quotedList env.sourceNames ++ " \x7d"

/-- How many questions can be nested without one being asked again inside itself: for each number
of open expansions the two questions about every key that some source asks about and the one
that opened the expansion, and then the innermost. -/
def budget (env : Environment) : Nat :=
  (nestingLimit + 1) * (2 * (env.sources.map Source.askingKeys).foldr (· + ·) 0 + 1) + 1

/-- The answer to a question; none if asking it never ends. -/
def ask (env : Environment) : Oracle :=
  answer env.sources env.budget 0

/-- Whether any source defines the key. -/
def contains (env : Environment) (key : String) : Option Bool :=
  env.ask (.contains key)

/-- The first value a source gives for the key, placeholders untouched. -/
def property (env : Environment) (key : String) : Option (Option Value) :=
  env.ask (.property key)

/-- The value of the key with its placeholders expanded, if it has one and they can be. -/
def resolved (env : Environment) (key : String) : Option (Option Value) :=
  env.ask (.resolved key)

/-- The value of a key that has to have one. -/
def require (env : Environment) (key : String) : Reading Value := do
  match ← ExceptT.lift (env.property key) with
  | some v => pure v
  | none => throw (.notFound key)

/-- The value of the key read as a target, placeholders untouched. -/
def get (env : Environment) (target : Target) (key : String) : Reading target.Result := do
  let v ← env.require key
  ExceptT.mk (some (convert target v key))

/-- The value of the key read as a target, or a default if it is missing or of another type. -/
def getOr (env : Environment) (target : Target) (key : String) (default : target.Result) :
    Option target.Result :=
  (env.get target key).run.map fun
    | .ok result => result
    | .error _ => default

/-- The value of the key with its placeholders expanded, read as a target. -/
def getResolved (env : Environment) (target : Target) (key : String) : Reading target.Result := do
  let v ← env.require key
  let expanded ← Expansion.value env.property v
  ExceptT.mk (some (convert target expanded key))

/-- As `getResolved`, with a missing key as no value. -/
def getOptional (env : Environment) (target : Target) (key : String) :
    Reading (Option target.Result) :=
  ExceptT.mk <| (env.getResolved target key).run.map fun
    | .ok result => .ok (some result)
    | .error (.notFound missing) => if missing = key then .ok none else .error (.notFound missing)
    | .error e => .error e

end Environment

end ConfigStack
