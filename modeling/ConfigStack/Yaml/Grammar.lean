import ConfigStack.Yaml.Lexer
import ConfigStack.Yaml.Node

/-!
# From tokens to nodes

`document?` reads the one document of a text. The readers go down through the collections; a place
where a node could stand and does not is a blank node. They count down one step per call: between
two calls that read a token there are at most three that do not, so four steps per token are
enough.
-/
namespace ConfigStack.Yaml

/-- What is left of the tokens, the names of the anchors so far, and the tag handles. -/
structure Reading where
  tokens : List Token
  anchors : List (String × Nat) := []
  handles : List (String × String) := []

/-- A step of reading; none if the tokens are refused. -/
abbrev Reader := StateT Reading Option

namespace Reader

/-- The next token, which stays. -/
def peek : Reader (Option Token) := do
  return (← get).tokens.head?

/-- Over one token. -/
def skip : Reader Unit :=
  modify fun r => { r with tokens := r.tokens.drop 1 }

def refuse {α : Type} : Reader α := StateT.lift none

/-- Over this token, which has to stand here. -/
def expect (t : Token) : Reader Unit := do
  if (← peek) = some t then skip else refuse

/-- Whether the next token is one of these, or there is none. -/
def isAt (ts : List Token) : Reader Bool := do
  match ← peek with
  | none => return true
  | some t => return ts.contains t

/-- Gives an anchor its number. -/
def number (name : String) : Reader Nat := do
  let r ← get
  let count := r.anchors.length
  set { r with anchors := (name, count) :: r.anchors.filter fun entry => entry.1 != name }
  return count

/-- The whole tag of a handle and a suffix. -/
def wholeTag (handle suffix : String) : Reader String := do
  if handle.isEmpty then return suffix
  match (← get).handles.lookup handle with
  | some stem => return stem ++ suffix
  | none => refuse

def anchorName : Reader (Option String) := do
  match ← peek with
  | some (.anchor name) => skip; return some name
  | _ => return none

/-- The handle and the suffix of a tag, if one stands here. -/
def tagParts : Reader (Option (String × String)) := do
  match ← peek with
  | some (.tag handle suffix) => skip; return some (handle, suffix)
  | _ => return none

/-- The properties in front of a node, each at most once, in either order. -/
def properties : Reader Properties := do
  let early ← anchorName
  let parts ← tagParts
  let name ← if early.isSome then pure early else if parts.isSome then anchorName else pure none
  let tag ← parts.mapM fun (handle, suffix) => wholeTag handle suffix
  return ⟨← name.mapM number, tag⟩

/-- The properties of a scalar: a lone exclamation mark is as no tag. -/
def scalarProperties (p : Properties) : Properties :=
  if p.tag = some "!" then { p with tag := none } else p

mutual

/-- A node. Block collections only where `block` allows them; where `bare` does, also a sequence
whose entries are not indented. -/
def node (block bare : Bool) : Nat → Reader Node
  | 0 => refuse
  | steps + 1 => do
    if let some (.alias name) ← peek then
      skip
      match (← get).anchors.lookup name with
      | some number => return .alias number
      | none => refuse
    else
      let p ← properties
      match ← peek with
      | some .entry =>
        if bare then return .sequence p (← bareItems steps)
        else if p = {} then refuse
        else return .blank p
      | some (.scalar text plain) => skip; return .scalar (scalarProperties p) text plain
      | some .flowSequence => skip; return .sequence p (← flowItems true steps)
      | some .flowMapping => skip; return .mapping p (← flowEntries true steps)
      | some .blockSequence =>
        if block then
          skip
          return .sequence p (← blockItems steps)
        else if p = {} then refuse
        else return .blank p
      | some .blockMapping =>
        if block then
          skip
          return .mapping p (← blockEntries steps)
        else if p = {} then refuse
        else return .blank p
      | _ => if p = {} then refuse else return .blank p

/-- A node of a block, or a blank one before the given tokens. -/
def nodeUnless (bare : Bool) (ends : List Token) : Nat → Reader Node
  | 0 => refuse
  | steps + 1 => do
    match ← peek with
    | some t => if ends.contains t then return .blank {} else node true bare steps
    | none => refuse

/-- The items of a block sequence up to its end. -/
def blockItems : Nat → Reader (List Node)
  | 0 => refuse
  | steps + 1 => do
    match ← peek with
    | some .entry =>
      skip
      let item ← nodeUnless false [.entry, .blockEnd] steps
      return item :: (← blockItems steps)
    | _ => expect .blockEnd; return []

/-- The items of a sequence that is not indented and ends where no entry follows. -/
def bareItems : Nat → Reader (List Node)
  | 0 => refuse
  | steps + 1 => do
    match ← peek with
    | some .entry =>
      skip
      let item ← nodeUnless false [.entry, .key, .value, .blockEnd] steps
      return item :: (← bareItems steps)
    | _ => return []

/-- The entries of a block mapping up to its end. -/
def blockEntries : Nat → Reader (List (Node × Node))
  | 0 => refuse
  | steps + 1 => do
    match ← peek with
    | some .key =>
      skip
      let key ← nodeUnless true [.key, .value, .blockEnd] steps
      let value ← blockValue steps
      return (key, value) :: (← blockEntries steps)
    | _ => expect .blockEnd; return []

def blockValue : Nat → Reader Node
  | 0 => refuse
  | steps + 1 => do
    if (← peek) = some .value then
      skip
      nodeUnless true [.key, .value, .blockEnd] steps
    else return .blank {}

/-- A node inside a flow collection, or a blank one before the given tokens. -/
def flowNodeUnless (ends : List Token) : Nat → Reader Node
  | 0 => refuse
  | steps + 1 => do
    if ← isAt ends then return .blank {} else node false false steps

def flowValue (closing : Token) : Nat → Reader Node
  | 0 => refuse
  | steps + 1 => do
    if (← peek) = some .value then
      skip
      flowNodeUnless [.comma, closing] steps
    else return .blank {}

/-- The items of a flow sequence up to its end, commas between them. A key with its value is an
item by itself: a mapping of one entry. -/
def flowItems (first : Bool) : Nat → Reader (List Node)
  | 0 => refuse
  | steps + 1 => do
    if (← peek) = some .flowSequenceEnd then
      skip
      return []
    if !first then expect .comma
    match ← peek with
    | some .flowSequenceEnd => skip; return []
    | some .key =>
      skip
      let item ← pair steps
      return item :: (← flowItems false steps)
    | _ =>
      let item ← node false false steps
      return item :: (← flowItems false steps)

/-- A mapping of one entry behind its key sign. Where the key is missing the sign that follows is
taken for it. -/
def pair : Nat → Reader Node
  | 0 => refuse
  | steps + 1 => do
    let key ←
      if ← isAt [.value, .comma, .flowSequenceEnd] then
        skip
        pure (.blank {})
      else node false false steps
    return .mapping {} [(key, ← flowValue .flowSequenceEnd steps)]

/-- The entries of a flow mapping up to its end, commas between them. A node without a key sign
is a key without a value. -/
def flowEntries (first : Bool) : Nat → Reader (List (Node × Node))
  | 0 => refuse
  | steps + 1 => do
    if (← peek) = some .flowMappingEnd then
      skip
      return []
    if !first then expect .comma
    match ← peek with
    | some .flowMappingEnd => skip; return []
    | some .key =>
      skip
      let key ← flowNodeUnless [.value, .comma, .flowMappingEnd] steps
      let value ← flowValue .flowMappingEnd steps
      return (key, value) :: (← flowEntries false steps)
    | _ =>
      let key ← node false false steps
      return (key, .blank {}) :: (← flowEntries false steps)

end

/-! ### Documents -/

/-- The tag handles every document knows. -/
def standardHandles : List (String × String) :=
  [("!", "!"), ("!!", "tag:yaml.org,2002:")]

/-- The directives in front of a document, of which the version may be said once and each handle
be defined once. -/
def directives (seenVersion : Bool) (defined : List (String × String)) :
    List Token → Option (List (String × String) × List Token)
  | .version major minor :: rest =>
    if seenVersion || major ≠ 1 || (minor ≠ 1 && minor ≠ 2) then none
    else directives true defined rest
  | .tagHandle handle stem :: rest =>
    if (defined.lookup handle).isSome then none
    else directives seenVersion (defined ++ [(handle, stem)]) rest
  | rest => some (defined, rest)

/-- The node of a document whose start is written out: it may be blank. -/
def content (steps : Nat) : Reader Node := do
  match ← peek with
  | none | some .documentStart | some .documentEnd | some (.version _ _) | some (.tagHandle _ _) =>
    return .blank {}
  | _ => node true false steps

end Reader

/-- The node of a text's only document; a text without any is a blank node. -/
def document? (tokens : List Token) : Option Node := do
  if tokens.isEmpty then return .blank {}
  let (defined, rest) ← Reader.directives false [] tokens
  let steps := 4 * tokens.length + 4
  let handles := defined ++ Reader.standardHandles
  let (node, after) ←
    match rest with
    | .documentStart :: more => (Reader.content steps).run { tokens := more, handles }
    | _ =>
      if rest.length = tokens.length then
        (Reader.node true false steps).run { tokens, handles }
      else none
  if (after.tokens.dropWhile (· == .documentEnd)).isEmpty then return node else none

end ConfigStack.Yaml
