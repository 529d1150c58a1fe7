import ConfigStack.Decimal.Text
import ConfigStack.Yaml.Scalar

/-!
# YAML tokens

The signs a YAML text is made of once its layout is read: what opens, divides and closes
collections, the texts of scalars, and the properties of nodes. Here are also the readers of the
tokens that are names: anchors, aliases, tags and directives.
-/
namespace ConfigStack.Yaml

inductive Token where
  | version (major minor : Nat)
  | tagHandle (handle stem : String)
  | documentStart
  | documentEnd
  | blockSequence
  | blockMapping
  | blockEnd
  | flowSequence
  | flowSequenceEnd
  | flowMapping
  | flowMappingEnd
  | entry
  | comma
  | key
  | value
  | alias (name : String)
  | anchor (name : String)
  | tag (handle suffix : String)
  | scalar (text : String) (plain : Bool)
  deriving DecidableEq, Repr

/-! ### Anchors and aliases -/

/-- A character that may follow the name of an anchor. -/
def endsAnchor : List Char → Bool
  | [] => true
  | c :: _ => isSeparator c || "?:,]\x7d%@`".toList.contains c

def readAnchor (c : Cursor) : Option (String × Cursor) :=
  let name := c.rest.takeWhile isNameChar
  let next := c.advance name.length
  if name.isEmpty || !endsAnchor next.rest then none else some (String.ofList name, next)

/-! ### Tags -/

/-- A character of a tag; those that mean something in a flow collection only in a tag between
angle brackets. -/
def isTagChar (verbatim : Bool) (c : Char) : Bool :=
  isNameChar c || ";/?:@&=+$.!~*'()".toList.contains c || (verbatim && ",[]".toList.contains c)

/-- How many bytes a character has whose first byte this is. -/
def characterWidth (lead : Nat) : Option Nat :=
  if lead < 0x80 then some 1
  else if 0xc0 ≤ lead && lead < 0xe0 then some 2
  else if 0xe0 ≤ lead && lead < 0xf0 then some 3
  else if 0xf0 ≤ lead && lead < 0xf8 then some 4
  else none

/-- A byte written as a percent sign and two digits. -/
def readEscapedByte : List Char → Option Nat
  | '%' :: digits => readHex 2 digits
  | _ => none

/-- `count` bytes written as escapes, each one that continues a character. -/
def readTailBytes : Nat → List Char → Option (List UInt8)
  | 0, _ => some []
  | count + 1, cs => do
    let b ← readEscapedByte cs
    if b / 0x40 ≠ 2 then none
    return b.toUInt8 :: (← readTailBytes count (cs.drop 3))

/-- One character written byte by byte in escapes, and the length of its escapes. -/
def readEscapedChar (cs : List Char) : Option (List Char × Nat) := do
  let lead ← readEscapedByte cs
  let width ← characterWidth lead
  let tails ← readTailBytes (width - 1) (cs.drop 3)
  return (← Text.decodeUtf8 (lead.toUInt8 :: tails), 3 * width)

/-- The longest run of tag characters and escapes. -/
def readTagTextFrom (verbatim : Bool) : Nat → Cursor → Option Scanned
  | 0, _ => none
  | steps + 1, c =>
    match c.rest with
    | [] => some ([], c)
    | ch :: _ =>
      if ch = '%' then do
        let (decoded, count) ← readEscapedChar c.rest
        (readTagTextFrom verbatim steps (c.advance count)).map (precededBy decoded)
      else if isTagChar verbatim ch then
        (readTagTextFrom verbatim steps (c.advance 1)).map (precededBy [ch])
      else some ([], c)

def readTagText (verbatim : Bool) (c : Cursor) : Option Scanned :=
  readTagTextFrom verbatim c.steps c

def nonEmpty (s : Scanned) : Option Scanned :=
  if s.1.isEmpty then none else some s

/-- A tag handle: a name between exclamation marks, of which the second may be missing. -/
def readHandle (c : Cursor) : Option Scanned :=
  match c.rest with
  | '!' :: rest =>
    let name := rest.takeWhile isNameChar
    let next := c.advance (1 + name.length)
    if next.rest.head? = some '!' then some ('!' :: name ++ ['!'], next.advance 1)
    else some ('!' :: name, next)
  | _ => none

/-- Whether a handle has its second exclamation mark. -/
def isClosedHandle (handle : List Char) : Bool :=
  2 ≤ handle.length && handle.getLast? = some '!'

/-- A tag: between angle brackets as it stands; a handle and a suffix; a suffix of the primary
handle; or a lone exclamation mark. -/
def readTag (flow : Bool) (c : Cursor) : Option (Token × Cursor) := do
  let (token, next) ←
    match c.rest with
    | '!' :: '<' :: _ => do
      let (suffix, next) ← nonEmpty (← readTagText true (c.advance 2))
      if next.rest.head? = some '>' then
        some (Token.tag "" (String.ofList suffix), next.advance 1)
      else none
    | _ => do
      let (handle, next) ← readHandle c
      if isClosedHandle handle then
        let (suffix, next) ← nonEmpty (← readTagText false next)
        some (.tag (String.ofList handle) (String.ofList suffix), next)
      else
        let (more, next) ← readTagText false next
        match handle.drop 1 ++ more with
        | [] => some (.tag "" "!", next)
        | suffix => some (.tag "!" (String.ofList suffix), next)
  if endsWord next.rest || (flow && next.rest.head? = some ',') then some (token, next) else none

/-! ### Directives -/

/-- A part of a version: at most nine digits. -/
def readVersionPart (c : Cursor) : Option (Nat × Cursor) :=
  let digits := c.rest.takeWhile Char.isDigit
  if 9 < digits.length then none
  else (Decimal.readDigits digits).map fun n => (n, c.advance digits.length)

def readVersion (c : Cursor) : Option (Token × Cursor) := do
  let (major, c) ← readVersionPart c.skipGaps
  if c.rest.head? ≠ some '.' then none
  let (minor, c) ← readVersionPart (c.advance 1)
  return (.version major minor, c)

/-- The value of a tag directive: a handle, which is closed or the primary one, and what it stands
for. -/
def readTagHandle (c : Cursor) : Option (Token × Cursor) := do
  let (handle, c) ← readHandle c.skipGaps
  if !isClosedHandle handle && handle ≠ ['!'] then none
  if !c.rest.head?.any isGap then none
  let (stem, c) ← nonEmpty (← readTagText true c.skipGaps)
  if endsWord c.rest then
    return (.tagHandle (String.ofList handle) (String.ofList stem), c)
  else none

/-- A directive, from behind its percent sign to the end of its line. -/
def readDirective (c : Cursor) : Option (Token × Cursor) := do
  let name := c.rest.takeWhile isNameChar
  let c := c.advance name.length
  if name.isEmpty || !endsWord c.rest then none
  let (token, c) ←
    match String.ofList name with
    | "YAML" => readVersion c
    | "TAG" => readTagHandle c
    | _ => none
  let c := c.skipGaps
  let c := if c.rest.head? = some '#' then c.skipToBreak else c
  match c.lineBreak? with
  | some (_, next) => return (token, next)
  | none => if c.rest.isEmpty then return (token, c) else none

end ConfigStack.Yaml
