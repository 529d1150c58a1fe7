import ConfigStack.Text.Blank
import ConfigStack.Text.Utf8

/-!
# Lines of a dotenv file

A line of a dotenv file may go on over a line break inside of quotes, and ends early at a comment.
`Dotenv.lines` gives the lines of a file up to the first that cannot be read: one that is not
UTF-8, or one that the end of the file leaves open.
-/
namespace ConfigStack.Dotenv

/-- What a line is in the middle of. -/
inductive Position where
  | plain
  | afterBlank
  | escape
  | strong
  | strongEscape
  | weak
  | weakEscape
  deriving DecidableEq, Repr

/-- The position behind a quote, a backslash or any other character. -/
def Position.opened (c : Char) : Position :=
  if c = '\\' then .escape
  else if c = '"' then .weak
  else if c = '\'' then .strong
  else .plain

/-- The position behind a character; none where a comment begins with it. Of two blanks in a row
the second is as any other character. -/
def Position.step : Position → Char → Option Position
  | .plain, c =>
    if Text.isBlank c && c ≠ '\n' && c ≠ '\r' then some .afterBlank else some (.opened c)
  | .afterBlank, c => if c = '#' then none else some (.opened c)
  | .escape, _ => some .plain
  | .strong, c =>
    if c = '\\' then some .strongEscape else if c = '\'' then some .plain else some .strong
  | .strongEscape, _ => some .strong
  | .weak, c => if c = '\\' then some .weakEscape else if c = '"' then some .plain else some .weak
  | .weakEscape, _ => some .weak

/-- How a piece of text ends: at a comment, before which this part stands, or in a position. -/
inductive Ending where
  | comment (before : List Char)
  | position (p : Position)

/-- Follows a piece of text from a position on. -/
def follow (p : Position) : List Char → Ending
  | [] => .position p
  | c :: rest =>
    match p.step c with
    | none => .comment []
    | some next =>
      match follow next rest with
      | .comment before => .comment (c :: before)
      | .position last => .position last

/-- The bytes of a text cut behind every line feed. -/
def cutBytes : List UInt8 → List (List UInt8)
  | [] => []
  | b :: rest =>
    if b = 0x0a then [b] :: cutBytes rest
    else
      match cutBytes rest with
      | [] => [[b]]
      | first :: others => (b :: first) :: others

/-- The text without the line break at its end. -/
def withoutBreak (cs : List Char) : List Char :=
  match cs.reverse with
  | '\n' :: '\r' :: rest => rest.reverse
  | '\n' :: rest => rest.reverse
  | _ => cs

/-- Joins the pieces of a text that was cut behind its line feeds into lines. `open_` is the line
that was begun, and `p` the position in which it was left. -/
def joinLines (open_ : List Char) (p : Position) : List (List UInt8) → List (List Char)
  | [] => []
  | piece :: rest =>
    match Text.decodeUtf8 piece with
    | none => []
    | some cs =>
      let line := open_ ++ cs
      -- A line that begins with a number sign says nothing.
      if (line.dropWhile Text.isBlank).head? = some '#' then [] :: joinLines [] .plain rest
      else
        match follow p cs with
        | .comment before => (open_ ++ before) :: joinLines [] .plain rest
        | .position .plain => withoutBreak line :: joinLines [] .plain rest
        | .position next => joinLines line next rest

def withoutMark : List UInt8 → List UInt8
  | 0xef :: 0xbb :: 0xbf :: rest => rest
  | bytes => bytes

/-- The lines of a file that can be read. -/
def lines (bytes : List UInt8) : List (List Char) :=
  joinLines [] .plain (cutBytes (withoutMark bytes))

end ConfigStack.Dotenv
