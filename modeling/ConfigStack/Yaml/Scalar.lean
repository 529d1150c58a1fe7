import ConfigStack.Text.Utf8
import ConfigStack.Yaml.Cursor

/-!
# The texts of scalars

Five styles of writing a text: plain, in single quotes, in double quotes, literal and folded. Each
reader starts behind the indicator of its style and answers the text and the place behind it, or
none where the text is refused. A reader that goes on over several lines counts down one step per
character that is left, and each of its steps reads at least one.
-/
namespace ConfigStack.Yaml

/-! ### Gaps between words -/

/-- A run of separators: the blanks before its first line break, and its line breaks. -/
structure Gap where
  blanks : List Char
  breaks : List Char

/-- What a run of separators inside a text stands for: blanks on one line for themselves, a single
line break for a space, and of several the first for nothing. -/
def Gap.folded (g : Gap) : List Char :=
  match g.breaks with
  | [] => g.blanks
  | ['\n'] => [' ']
  | '\n' :: more => more
  | breaks => breaks

/-- Reads a run of separators. A tab left of the margin at the beginning of a line is refused. -/
def readGapFrom (margin : Nat) : Nat → Gap → Cursor → Option (Gap × Cursor)
  | 0, _, _ => none
  | steps + 1, gap, c =>
    match c.lineBreak? with
    | some (br, next) => readGapFrom margin steps { gap with breaks := gap.breaks ++ [br] } next
    | none =>
      match c.rest with
      | ch :: _ =>
        if !isGap ch then some (gap, c)
        else if gap.breaks.isEmpty then
          readGapFrom margin steps { gap with blanks := gap.blanks ++ [ch] } (c.advance 1)
        else if ch = '\t' && c.column < margin then none
        else readGapFrom margin steps gap (c.advance 1)
      | [] => some (gap, c)

def readGap (margin : Nat) (c : Cursor) : Option (Gap × Cursor) :=
  readGapFrom margin c.steps ⟨[], []⟩ c

/-! ### Plain texts -/

/-- The characters of a plain text up to a separator or an indicator. Inside a flow collection a
colon right before an indicator is refused. -/
def plainWord (flow : Bool) : List Char → Option (List Char)
  | [] => some []
  | ch :: rest =>
    if isSeparator ch then some []
    else if flow && ch = ':' && rest.head?.any fun next => isFlowIndicator next || next = '?' then
      none
    else if (ch = ':' && endsWord rest) || (flow && isFlowIndicator ch) then some []
    else (plainWord flow rest).map (ch :: ·)

/-- A plain text, and whether it was left at the beginning of a line. -/
structure Plain where
  text : List Char
  newLine : Bool
  next : Cursor

def readPlainFrom (flow : Bool) (margin : Nat) : Nat → Gap → Cursor → Option Plain
  | 0, _, _ => none
  | steps + 1, gap, c =>
    let left : Plain := ⟨[], !gap.breaks.isEmpty, c⟩
    if c.atDocumentMarker || c.rest.head? = some '#' then some left
    else do
      let word ← plainWord flow c.rest
      if word.isEmpty then return left
      let c := c.advance word.length
      let (next, after) ← readGap margin c
      if next.blanks.isEmpty && next.breaks.isEmpty then
        return ⟨gap.folded ++ word, false, c⟩
      if !flow && after.column < margin then
        return ⟨gap.folded ++ word, !next.breaks.isEmpty, after⟩
      let more ← readPlainFrom flow margin steps next after
      return { more with text := gap.folded ++ word ++ more.text }

/-- A plain text. Outside of flow collections its lines must not begin left of the margin. -/
def readPlain (flow : Bool) (margin : Nat) (c : Cursor) : Option Plain :=
  readPlainFrom flow margin c.steps ⟨[], []⟩ c

/-! ### Quoted texts -/

def readHex (count : Nat) (cs : List Char) : Option Nat :=
  let digits := cs.take count
  if digits.length < count then none
  else
    digits.foldl
      (fun n ch => do
        let high ← n
        let low ← Text.hexValue ch
        pure (high * 16 + low))
      (some 0)

/-- The character with the number given by `count` hexadecimal digits, and the length of its
escape. -/
def readCodePoint (count : Nat) (cs : List Char) : Option (Char × Nat) := do
  let n ← readHex count cs
  if n.isValidChar then return (Char.ofNat n, count + 1) else none

/-- The character an escape stands for, and the length of the escape behind its backslash. -/
def readEscape : List Char → Option (Char × Nat)
  | '0' :: _ => some ('\x00', 1)
  | 'a' :: _ => some ('\x07', 1)
  | 'b' :: _ => some ('\x08', 1)
  | 't' :: _ | '\t' :: _ => some ('\t', 1)
  | 'n' :: _ => some ('\n', 1)
  | 'v' :: _ => some ('\x0b', 1)
  | 'f' :: _ => some ('\x0c', 1)
  | 'r' :: _ => some ('\r', 1)
  | 'e' :: _ => some ('\x1b', 1)
  | ' ' :: _ => some (' ', 1)
  | '"' :: _ => some ('"', 1)
  | '/' :: _ => some ('/', 1)
  | '\\' :: _ => some ('\\', 1)
  | 'N' :: _ => some ('\u0085', 1)
  | '_' :: _ => some ('\u00a0', 1)
  | 'L' :: _ => some ('\u2028', 1)
  | 'P' :: _ => some ('\u2029', 1)
  | 'x' :: digits => readCodePoint 2 digits
  | 'u' :: digits => readCodePoint 4 digits
  | 'U' :: digits => readCodePoint 8 digits
  | _ => none

abbrev Scanned := List Char × Cursor

/-- The text with something put in front. -/
def precededBy (front : List Char) (s : Scanned) : Scanned :=
  (front ++ s.1, s.2)

def readSingleQuotedFrom : Nat → Cursor → Option Scanned
  | 0, _ => none
  | steps + 1, c =>
    if c.atDocumentMarker then none
    else
      match c.rest with
      | [] => none
      | '\'' :: '\'' :: _ => (readSingleQuotedFrom steps (c.advance 2)).map (precededBy ['\''])
      | '\'' :: _ => some ([], c.advance 1)
      | ch :: _ =>
        if isSeparator ch then do
          let (gap, next) ← readGap 0 c
          (readSingleQuotedFrom steps next).map (precededBy gap.folded)
        else (readSingleQuotedFrom steps (c.advance 1)).map (precededBy [ch])

/-- A text in single quotes, in which a quote is written twice. -/
def readSingleQuoted (c : Cursor) : Option Scanned :=
  readSingleQuotedFrom c.steps c

def readDoubleQuotedFrom : Nat → Cursor → Option Scanned
  | 0, _ => none
  | steps + 1, c =>
    if c.atDocumentMarker then none
    else
      match c.rest with
      | [] => none
      | '"' :: _ => some ([], c.advance 1)
      | '\\' :: _ =>
        let behind := c.advance 1
        match behind.lineBreak? with
        | some (_, next) => do
          let (gap, next) ← readGap 0 next
          (readDoubleQuotedFrom steps next).map (precededBy gap.breaks)
        | none => do
          let (ch, count) ← readEscape behind.rest
          (readDoubleQuotedFrom steps (behind.advance count)).map (precededBy [ch])
      | ch :: _ =>
        if isSeparator ch then do
          let (gap, next) ← readGap 0 c
          (readDoubleQuotedFrom steps next).map (precededBy gap.folded)
        else (readDoubleQuotedFrom steps (c.advance 1)).map (precededBy [ch])

/-- A text in double quotes, with escapes. An escaped line break stands for nothing. -/
def readDoubleQuoted (c : Cursor) : Option Scanned :=
  readDoubleQuotedFrom c.steps c

/-! ### Block texts -/

/-- What becomes of the line breaks at the end of a block text. -/
inductive Chomping where
  | strip
  | clip
  | keep
  deriving DecidableEq, Repr

/-- The header of a block text: what becomes of its end, and by how much its lines are indented
where that is said. -/
structure BlockHeader where
  chomping : Chomping := .clip
  indent? : Option Nat := none

def readChomping : List Char → Option Chomping
  | '+' :: _ => some .keep
  | '-' :: _ => some .strip
  | _ => none

/-- A digit that says an indentation; a zero is refused. -/
def readIndent : List Char → Option (Option Nat)
  | ch :: _ =>
    if ch = '0' then none
    else if ch.isDigit then some (some (ch.toNat - '0'.toNat))
    else some none
  | [] => some none

/-- The header, its two parts in either order. -/
def readHeader (c : Cursor) : Option (BlockHeader × Cursor) :=
  match readChomping c.rest with
  | some chomping => do
    let c := c.advance 1
    match ← readIndent c.rest with
    | some n => return (⟨chomping, some n⟩, c.advance 1)
    | none => return (⟨chomping, none⟩, c)
  | none => do
    match ← readIndent c.rest with
    | none => return ({}, c)
    | some n =>
      let c := c.advance 1
      match readChomping c.rest with
      | some chomping => return (⟨chomping, some n⟩, c.advance 1)
      | none => return (⟨.clip, some n⟩, c)

/-- The blank lines before a line of a block text: their breaks, the widest run of spaces that
was seen, and the place where the next line begins behind its indentation. Where no indentation is
known all spaces count as such. A tab in an indentation is refused. -/
def readBlankLines (indent? : Option Nat) : Nat → Nat → Cursor → Option (List Char × Nat × Cursor)
  | 0, _, _ => none
  | steps + 1, widest, c =>
    let spaces := (c.rest.takeWhile (· == ' ')).length
    let c := c.advance (min spaces ((indent?.map (· - c.column)).getD spaces))
    let widest := max widest c.column
    if c.rest.head? = some '\t' && indent?.all (c.column < ·) then none
    else
      match c.lineBreak? with
      | none => some ([], widest, c)
      | some (br, next) => do
        let (breaks, widest, after) ← readBlankLines indent? steps widest next
        return (br :: breaks, widest, after)

/-- What joins a line of a block text to the line before it. In a folded text a single line break
between two lines that do not begin with a blank is a space, and the first of several is nothing.
-/
def joint (folds : Bool) (lastBreak blankLines : List Char) : List Char :=
  if folds && lastBreak.head? = some '\n' then
    if blankLines.isEmpty then [' '] else blankLines
  else lastBreak ++ blankLines

/-- The line breaks that stay at the end of a block text. -/
def Chomping.ending (chomping : Chomping) (lastBreak blankLines : List Char) : List Char :=
  match chomping with
  | .strip => []
  | .clip => lastBreak
  | .keep => lastBreak ++ blankLines

/-- The lines of a block text from one that begins here on. -/
def readLines (folded : Bool) (chomping : Chomping) (indent : Nat) :
    Nat → (lastBreak blankLines : List Char) → (lastBeganBlank : Bool) → Cursor → Option Scanned
  | 0, _, _, _, _ => none
  | steps + 1, lastBreak, blankLines, lastBeganBlank, c =>
    match c.rest with
    | ch :: _ =>
      if c.column = indent then do
        let beginsBlank := isGap ch
        let front := joint (folded && !lastBeganBlank && !beginsBlank) lastBreak blankLines
        let line := c.rest.takeWhile fun ch => !isBreak ch
        let c := c.advance line.length
        let (nextBreak, c) :=
          match c.lineBreak? with
          | some (br, next) => ([br], next)
          | none => ([], c)
        let (nextBlanks, _, c) ← readBlankLines (some indent) c.steps 0 c
        (readLines folded chomping indent steps nextBreak nextBlanks beginsBlank c).map
          (precededBy (front ++ line))
      else some (chomping.ending lastBreak blankLines, c)
    | [] => some (chomping.ending lastBreak blankLines, c)

/-- A block text, literal or folded. Its indentation counts from the innermost open collection
where the header gives one; else it is that of its first line that is not blank. -/
def readBlock (folded : Bool) (margin : Nat) (c : Cursor) : Option Scanned := do
  let (header, c) ← readHeader c
  let c := c.skipGaps
  let c := if c.rest.head? = some '#' then c.skipToBreak else c
  let c ←
    match c.lineBreak? with
    | some (_, next) => some next
    | none => if c.rest.isEmpty then some c else none
  let indent? := header.indent?.map fun n => margin - 1 + n
  let (blankLines, widest, c) ← readBlankLines indent? c.steps 0 c
  let indent := indent?.getD (max widest (max margin 1))
  readLines folded header.chomping indent c.steps [] blankLines false c

end ConfigStack.Yaml
