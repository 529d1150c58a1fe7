/-!
# Places in a YAML text

A cursor is the rest of a text of known size together with how much of it was read: the characters,
the lines and the characters of the current line. The layout of a block is told by columns, and
whether a word can still become a key by lines and characters.
-/
namespace ConfigStack.Yaml

/-- A character that may stand in a YAML text at all. -/
def isAdmissible (c : Char) : Bool :=
  let n := c.toNat
  n == 0x9 || n == 0xa || n == 0xd || (0x20 ≤ n && n ≤ 0x7e) || n == 0x85 ||
    (0xa0 ≤ n && n ≤ 0xd7ff) || (0xe000 ≤ n && n ≤ 0xfffd && n != 0xfeff) || 0x10000 ≤ n

def isBreak (c : Char) : Bool :=
  c = '\n' || c = '\r' || c = '\u0085' || c = '\u2028' || c = '\u2029'

/-- A character that separates words on a line. -/
def isGap (c : Char) : Bool :=
  c = ' ' || c = '\t'

def isSeparator (c : Char) : Bool :=
  isGap c || isBreak c

def isNameChar (c : Char) : Bool :=
  c.isAlphanum || c = '_' || c = '-'

/-- A character that opens, closes or divides a flow collection. -/
def isFlowIndicator (c : Char) : Bool :=
  c = ',' || c = '[' || c = ']' || c = '{' || c = '}'

/-- Whether a word ends here: before a separator, or where the text ends. -/
def endsWord : List Char → Bool
  | [] => true
  | c :: _ => isSeparator c

structure Cursor where
  rest : List Char
  size : Nat
  index : Nat := 0
  line : Nat := 0
  column : Nat := 0

namespace Cursor

def start (text : List Char) : Cursor :=
  { rest := text, size := text.length }

/-- One step for each character that is left, and one to see that there is none. -/
def steps (c : Cursor) : Nat :=
  c.size - c.index + 1

/-- Over `count` characters of the same line. -/
def advance (c : Cursor) (count : Nat) : Cursor :=
  { c with rest := c.rest.drop count, index := c.index + count, column := c.column + count }

/-- Over the characters of a class that holds no line break. -/
def skipWhile (skip : Char → Bool) (c : Cursor) : Cursor :=
  c.advance (c.rest.takeWhile skip).length

def skipGaps (c : Cursor) : Cursor :=
  c.skipWhile isGap

/-- Over what is left of the line. -/
def skipToBreak (c : Cursor) : Cursor :=
  c.skipWhile fun ch => !isBreak ch

/-- Over one line break, with the character it stands for: all that end a plain line are one, the
separators of lines and paragraphs are kept. -/
def lineBreak? (c : Cursor) : Option (Char × Cursor) :=
  let next (count : Nat) : Cursor :=
    { c with rest := c.rest.drop count, index := c.index + count, line := c.line + 1, column := 0 }
  match c.rest with
  | '\r' :: '\n' :: _ => some ('\n', next 2)
  | '\r' :: _ | '\n' :: _ | '\u0085' :: _ => some ('\n', next 1)
  | '\u2028' :: _ => some ('\u2028', next 1)
  | '\u2029' :: _ => some ('\u2029', next 1)
  | _ => none

/-- Whether a line begins here with the three characters, as a word. -/
def atMarker (mark : Char) (c : Cursor) : Bool :=
  c.column == 0 &&
    match c.rest with
    | x :: y :: z :: rest => x == mark && y == mark && z == mark && endsWord rest
    | _ => false

/-- Whether a line begins here that starts or ends a document. -/
def atDocumentMarker (c : Cursor) : Bool :=
  c.atMarker '-' || c.atMarker '.'

end Cursor

end ConfigStack.Yaml
