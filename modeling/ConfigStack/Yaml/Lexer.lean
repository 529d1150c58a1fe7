import ConfigStack.Yaml.Token

/-!
# From text to tokens

The layout of a YAML text is made explicit here: an indentation that grows opens a block
collection, one that shrinks closes the collections it leaves. A word may turn out to be a key
only when the colon behind it is reached. Until then its place is remembered, one for each flow
collection that is open and one outside of them, and the key is put in at that place afterwards.

The margin is the least column at which a line still belongs to an entry of the innermost open
block collection: one more than the column of that collection, or zero if none is open.
-/
namespace ConfigStack.Yaml

/-- A place at which a key may begin: before the token with this number. A key is required where
nothing else can stand. -/
structure PossibleKey where
  required : Bool
  position : Nat
  index : Nat
  line : Nat
  column : Nat

/-- The farthest a colon may be behind the beginning of its key. -/
def keyLength : Nat := 1024

structure Lexer where
  cursor : Cursor
  tokens : Array Token := #[]
  margin : Nat := 0
  outerMargins : List Nat := []
  possibleKey : Option PossibleKey := none
  outerKeys : List (Option PossibleKey) := []
  keyAllowed : Bool := true

namespace Lexer

def inFlow (l : Lexer) : Bool :=
  !l.outerKeys.isEmpty

def push (l : Lexer) (t : Token) : Lexer :=
  { l with tokens := l.tokens.push t }

/-- A token of `count` characters. -/
def sign (t : Token) (count : Nat) (l : Lexer) : Lexer :=
  { l.push t with cursor := l.cursor.advance count }

def allowKey (allowed : Bool) (l : Lexer) : Lexer :=
  { l with keyAllowed := allowed }

/-! ### Possible keys -/

/-- Whether a colon would come too late for the key: on another line, or too far behind. -/
def isStale (l : Lexer) (k : PossibleKey) : Bool :=
  k.line < l.cursor.line || k.index + keyLength < l.cursor.index

/-- A possible key that is given up when it is stale; a required one must not be. -/
def freshKey (l : Lexer) : Option PossibleKey → Option (Option PossibleKey)
  | none => some none
  | some k => if !l.isStale k then some (some k) else if k.required then none else some none

/-- Gives up the keys for which a colon would come too late. -/
def dropStaleKeys (l : Lexer) : Option Lexer := do
  let possibleKey ← l.freshKey l.possibleKey
  let outerKeys ← l.outerKeys.mapM l.freshKey
  return { l with possibleKey, outerKeys }

/-- Gives up the possible key of the innermost level, which must not be a required one. -/
def dropKey (l : Lexer) : Option Lexer :=
  if l.possibleKey.any PossibleKey.required then none else some { l with possibleKey := none }

/-- Remembers that a key may begin here. -/
def noteKey (l : Lexer) : Option Lexer :=
  if l.keyAllowed then do
    let l ← l.dropKey
    let here : PossibleKey :=
      { required := !l.inFlow && l.margin == l.cursor.column + 1
        position := l.tokens.size
        index := l.cursor.index
        line := l.cursor.line
        column := l.cursor.column }
    return { l with possibleKey := some here }
  else some l

/-! ### Layout -/

/-- Opens a block collection at a column right of the innermost one, its token put at the
position. -/
def openBlock (column position : Nat) (t : Token) (l : Lexer) : Lexer :=
  if l.inFlow || column < l.margin then l
  else
    { l with
      tokens := l.tokens.insertIdxIfInBounds position t
      margin := column + 1
      outerMargins := l.margin :: l.outerMargins }

/-- Closes the block collections whose margin is right of the given one. -/
def closeBlocksFrom (margin : Nat) (l : Lexer) : List Nat → Lexer
  | [] => l
  | outer :: rest =>
    if margin < l.margin then
      closeBlocksFrom margin { l.push .blockEnd with margin := outer, outerMargins := rest } rest
    else l

def closeBlocks (margin : Nat) (l : Lexer) : Lexer :=
  if l.inFlow then l else closeBlocksFrom margin l l.outerMargins

/-! ### Tokens -/

/-- A sign that begins a document, ends one, or directs it: it stands outside of all blocks. -/
def outside (l : Lexer) : Option Lexer := do
  return (← (l.closeBlocks 0).dropKey).allowKey false

def openFlow (t : Token) (l : Lexer) : Option Lexer := do
  let l ← l.noteKey
  let inside := { l with possibleKey := none, outerKeys := l.possibleKey :: l.outerKeys }
  return (inside.allowKey true).sign t 1

def closeFlow (t : Token) (l : Lexer) : Option Lexer := do
  let l ← l.dropKey
  let l :=
    match l.outerKeys with
    | outer :: rest => { l with possibleKey := outer, outerKeys := rest }
    | [] => l
  return (l.allowKey false).sign t 1

def comma (l : Lexer) : Option Lexer := do
  return ((← l.dropKey).allowKey true).sign .comma 1

/-- A sign before which a block collection begins if none is open at its column. -/
def blockSign (collection : Token) (l : Lexer) : Option Lexer :=
  if l.inFlow then some l
  else if l.keyAllowed then some (l.openBlock l.cursor.column l.tokens.size collection)
  else none

def entry (l : Lexer) : Option Lexer := do
  let l ← l.blockSign .blockSequence
  return ((← l.dropKey).allowKey true).sign .entry 1

def explicitKey (l : Lexer) : Option Lexer := do
  let l ← l.blockSign .blockMapping
  let l ← l.dropKey
  return (l.allowKey (!l.inFlow)).sign .key 1

/-- A colon. It makes a key of the word that is possibly one. -/
def colon (l : Lexer) : Option Lexer :=
  match l.possibleKey with
  | some k =>
    let l := { l with tokens := l.tokens.insertIdxIfInBounds k.position .key, possibleKey := none }
    some (((l.openBlock k.column k.position .blockMapping).allowKey false).sign .value 1)
  | none => do
    let l ← l.blockSign .blockMapping
    return (l.allowKey (!l.inFlow)).sign .value 1

/-- A token that may begin a key, read by `read` behind its first `skip` characters. -/
def named (skip : Nat) (read : Cursor → Option (Token × Cursor)) (l : Lexer) : Option Lexer := do
  let l ← l.noteKey
  let (t, next) ← read (l.cursor.advance skip)
  return { (l.push t).allowKey false with cursor := next }

def blockText (folded : Bool) (l : Lexer) : Option Lexer := do
  let l ← l.dropKey
  let (text, next) ← readBlock folded l.margin (l.cursor.advance 1)
  return { (l.push (.scalar (String.ofList text) false)).allowKey true with cursor := next }

def plainText (l : Lexer) : Option Lexer := do
  let l ← l.noteKey
  let plain ← readPlain l.inFlow l.margin l.cursor
  return { (l.push (.scalar (String.ofList plain.text) true)).allowKey plain.newLine with
    cursor := plain.next }

def quotedText (read : Cursor → Option Scanned) (l : Lexer) : Option Lexer :=
  l.named 1 fun c => (read c).map fun (text, next) => (.scalar (String.ofList text) false, next)

/-- A character that cannot begin a plain text, whatever comes behind it. -/
def isReserved (ch : Char) : Bool :=
  "-?:,[]\x7b\x7d#&*!|>'\"%@`".toList.contains ch

def beginsPlain (inFlow : Bool) : List Char → Bool
  | [] => false
  | ch :: rest =>
    !(isSeparator ch || isReserved ch) ||
      (ch = '-' && !rest.head?.any isGap) ||
      (!inFlow && (ch = '?' || ch = ':') && !endsWord rest)

/-- Over blanks, comments and line breaks. A tab counts as blank only where no key may begin. -/
def skipToToken (l : Lexer) : Nat → Lexer
  | 0 => l
  | steps + 1 =>
    let skips (ch : Char) : Bool := ch = ' ' || ((l.inFlow || !l.keyAllowed) && ch = '\t')
    let c := l.cursor.skipWhile skips
    let c := if c.rest.head? = some '#' then c.skipToBreak else c
    match c.lineBreak? with
    | some (_, next) =>
      skipToToken { l with cursor := next, keyAllowed := l.keyAllowed || !l.inFlow } steps
    | none => { l with cursor := c }

def token (l : Lexer) : Option Lexer :=
  let c := l.cursor
  if c.column == 0 && c.rest.head? = some '%' then do
    let l ← l.outside
    let (t, next) ← readDirective (l.cursor.advance 1)
    return { l.push t with cursor := next }
  else if c.atMarker '-' then l.outside.map (sign .documentStart 3)
  else if c.atMarker '.' then l.outside.map (sign .documentEnd 3)
  else
    match c.rest with
    | [] => none
    | '[' :: _ => l.openFlow .flowSequence
    | '{' :: _ => l.openFlow .flowMapping
    | ']' :: _ => l.closeFlow .flowSequenceEnd
    | '}' :: _ => l.closeFlow .flowMappingEnd
    | ',' :: _ => l.comma
    | '*' :: _ => l.named 1 fun c => (readAnchor c).map fun (name, next) => (.alias name, next)
    | '&' :: _ => l.named 1 fun c => (readAnchor c).map fun (name, next) => (.anchor name, next)
    | '!' :: _ => l.named 0 (readTag l.inFlow)
    | '\'' :: _ => l.quotedText readSingleQuoted
    | '"' :: _ => l.quotedText readDoubleQuoted
    | ch :: rest =>
      if ch = '-' && endsWord rest then l.entry
      else if ch = '?' && (l.inFlow || endsWord rest) then l.explicitKey
      else if ch = ':' && (l.inFlow || endsWord rest) then l.colon
      else if ch = '|' && !l.inFlow then l.blockText false
      else if ch = '>' && !l.inFlow then l.blockText true
      else if beginsPlain l.inFlow c.rest then l.plainText
      else none

/-- All tokens from here on. Each step reads at least one character. -/
def run : Nat → Lexer → Option (List Token)
  | 0, _ => none
  | steps + 1, l => do
    let l := l.skipToToken (steps + 1)
    let l ← l.dropStaleKeys
    let l := l.closeBlocks (l.cursor.column + 1)
    if l.cursor.rest.isEmpty then
      return (← l.outside).tokens.toList
    else run steps (← l.token)

end Lexer

/-- The text without the mark of its encoding. -/
def withoutMark : List Char → List Char
  | '\ufeff' :: rest => rest
  | cs => cs

/-- The tokens of a text; none if its characters or its layout are refused. -/
def tokens? (text : List Char) : Option (List Token) :=
  let cs := withoutMark text
  let cursor := Cursor.start cs
  if cs.all isAdmissible then Lexer.run cursor.steps { cursor } else none

end ConfigStack.Yaml
