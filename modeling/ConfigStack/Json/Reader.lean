import ConfigStack.Json.Basic
import ConfigStack.Text.Utf8

/-!
# Reading JSON text

`Json.parse` reads one value and allows blanks around it. A text that is not JSON is refused with
the cause and the place of the first fault: its line, and the number of bytes of that line read
so far. Some faults are found at the character just read, others at one that was only looked at;
in the second case that character counts as read.

The recursion goes down a budget of one step per character: every nested call has read at least
one character more, so the budget never runs out before the text does.
-/
namespace ConfigStack.Json

inductive Fault where
  | eofInValue
  | eofInString
  | eofInArray
  | eofInObject
  | expectedValue
  | expectedWord
  | expectedColon
  | expectedCommaOrBracket
  | expectedCommaOrBrace
  | nameNotQuoted
  | trailingComma
  | trailingCharacters
  | invalidNumber
  | numberOutOfRange
  | invalidEscape
  | controlCharacter
  | loneSurrogate
  | endOfEscape
  | tooDeep
  deriving DecidableEq, Repr

def Fault.message : Fault → String
  | .eofInValue => "EOF while parsing a value"
  | .eofInString => "EOF while parsing a string"
  | .eofInArray => "EOF while parsing a list"
  | .eofInObject => "EOF while parsing an object"
  | .expectedValue => "expected value"
  | .expectedWord => "expected ident"
  | .expectedColon => "expected `:`"
  | .expectedCommaOrBracket => "expected `,` or `]`"
  | .expectedCommaOrBrace => "expected `,` or `\x7d`"
  | .nameNotQuoted => "key must be a string"
  | .trailingComma => "trailing comma"
  | .trailingCharacters => "trailing characters"
  | .invalidNumber => "invalid number"
  | .numberOutOfRange => "number out of range"
  | .invalidEscape => "invalid escape"
  | .controlCharacter =>
    "control character (\\u0000-\\u001F) found while parsing a string"
  | .loneSurrogate => "lone leading surrogate in hex escape"
  | .endOfEscape => "unexpected end of hex escape"
  | .tooDeep => "recursion limit exceeded"

/-- A fault and what was not read yet. `peeked` says that the next character was looked at. -/
structure Refusal where
  fault : Fault
  unread : List Char
  peeked : Bool

/-- The rest of the text after something was read from its front. -/
abbrev Read (α : Type) := Except Refusal (α × List Char)

/-- Refuses at the character just read. -/
def refuse {α : Type} (fault : Fault) (unread : List Char) : Except Refusal α :=
  .error ⟨fault, unread, false⟩

/-- Refuses at the character looked at. -/
def refusePeek {α : Type} (fault : Fault) (unread : List Char) : Except Refusal α :=
  .error ⟨fault, unread, true⟩

/-- The most arrays and objects that may be nested. -/
def depthLimit : Nat := 127

def isSpace (c : Char) : Bool :=
  c = ' ' || c = '\n' || c = '\t' || c = '\r'

def skipSpaces (cs : List Char) : List Char :=
  cs.dropWhile isSpace

/-- The rest of a word whose first letter was recognised. -/
def readWord (value : Json) : List Char → List Char → Read Json
  | [], cs => .ok (value, cs)
  | _ :: _, [] => refuse .eofInValue []
  | expected :: more, c :: cs =>
    if c = expected then readWord value more cs else refuse .expectedWord cs

/-! ### Numbers -/

def signedFloat (positive : Bool) (x : Float) : Float :=
  if positive then x else -x

def powerOfTen (k : Nat) : Float :=
  Decimal.ofScaled false 1 k

/-- `x · 10^exponent` by one multiplication or division, or by several of `10^308` where the
exponent is too small for one; none on overflow. -/
def scaleByTen (x : Float) (exponent : Int) : Nat → Option Float
  | 0 => some x
  | bound + 1 =>
    if exponent.natAbs ≤ 308 then
      if 0 ≤ exponent then
        let y := x * powerOfTen exponent.toNat
        if y.isInf then none else some y
      else some (x / powerOfTen exponent.natAbs)
    else if x == 0 then some x
    else if 0 ≤ exponent then none
    else scaleByTen (x / powerOfTen 308) (exponent + 308) bound

def floatOfParts (positive : Bool) (significand : UInt64) (exponent : Int) (rest : List Char) :
    Read JsonNumber :=
  match scaleByTen significand.toFloat exponent 10 with
  | some x => .ok (.float (signedFloat positive x), rest)
  | none => refuse .numberOutOfRange rest

def fitsDigit (significand : UInt64) (digit : Nat) : Bool :=
  significand.toNat * 10 + digit < Nat.pow 2 64

def digitValue (c : Char) : Nat := c.toNat - '0'.toNat

/-- The digits taken into the significand while they fit, the digits beyond them, the rest. -/
def takeDigits (significand : UInt64) (taken : Nat) : List Char → UInt64 × Nat × List Char
  | [] => (significand, taken, [])
  | c :: cs =>
    if c.isDigit && fitsDigit significand (digitValue c) then
      takeDigits (significand * 10 + UInt64.ofNat (digitValue c)) (taken + 1) cs
    else (significand, taken, c :: cs)

/-- The exponent of a number, after its `e`. -/
def readExponent (positive : Bool) (significand : UInt64) (start : Int) (cs : List Char) :
    Read JsonNumber :=
  let (negative, digits) :=
    match cs with
    | '+' :: more => (false, more)
    | '-' :: more => (true, more)
    | more => (false, more)
  match digits with
  | [] => refuse .eofInValue []
  | c :: more =>
    if c.isDigit then
      let size := digits.takeWhile Char.isDigit
      let rest := digits.dropWhile Char.isDigit
      let exponent : Int := size.foldl (fun n d => n * 10 + digitValue d) 0
      if exponent < Int.pow 2 31 then
        floatOfParts positive significand (if negative then start - exponent else start + exponent)
          rest
      else if significand ≠ 0 && !negative then refuse .numberOutOfRange rest
      else .ok (.float (signedFloat positive 0), rest)
    else refuse .invalidNumber more

def afterFraction (positive : Bool) (significand : UInt64) (exponent : Int) (cs : List Char) :
    Read JsonNumber :=
  match cs with
  | 'e' :: more | 'E' :: more => readExponent positive significand exponent more
  | _ => floatOfParts positive significand exponent cs

/-- The fraction of a number, after its point. Digits beyond sixty-four bits are dropped. -/
def readFraction (positive : Bool) (significand : UInt64) (exponent : Int) (cs : List Char) :
    Read JsonNumber :=
  let (significand, taken, rest) := takeDigits significand 0 cs
  if taken = 0 && !(rest.headD ' ').isDigit then
    refusePeek (if rest.isEmpty then .eofInValue else .invalidNumber) rest
  else
    afterFraction positive significand (exponent - taken) (rest.dropWhile Char.isDigit)

/-- What follows the digits before the point. An integer stays one where it fits; minus zero does
not. -/
def afterWhole (positive : Bool) (significand : UInt64) (cs : List Char) : Read JsonNumber :=
  match cs with
  | '.' :: more => readFraction positive significand 0 more
  | 'e' :: more | 'E' :: more => readExponent positive significand 0 more
  | _ =>
    if positive then .ok (.natural significand, cs)
    else if significand ≠ 0 && significand.toNat ≤ Nat.pow 2 63 then
      .ok (.negative (Int64.ofInt (-(significand.toNat : Int))), cs)
    else .ok (.float (-significand.toFloat), cs)

/-- What follows the digits before the point when there are more than fit: each further digit
raises the exponent. -/
def afterLongWhole (positive : Bool) (significand : UInt64) (cs : List Char) : Read JsonNumber :=
  let dropped : Int := (cs.takeWhile Char.isDigit).length
  match cs.dropWhile Char.isDigit with
  | '.' :: more => readFraction positive significand dropped more
  | 'e' :: more | 'E' :: more => readExponent positive significand dropped more
  | rest => floatOfParts positive significand dropped rest

/-- A number, after its sign. -/
def readNumber (positive : Bool) : List Char → Read JsonNumber
  | [] => refuse .eofInValue []
  | c :: cs =>
    if c = '0' then
      if (cs.headD ' ').isDigit then refusePeek .invalidNumber cs else afterWhole positive 0 cs
    else if c.isDigit then
      let (significand, _, rest) := takeDigits 0 0 (c :: cs)
      if (rest.headD ' ').isDigit then afterLongWhole positive significand rest
      else afterWhole positive significand rest
    else refuse .invalidNumber cs

/-! ### Strings -/

/-- Four hexadecimal digits. Fewer than four bytes left are the end of the text. -/
def readHex (cs : List Char) : Read Nat :=
  match cs with
  | a :: b :: c :: d :: rest =>
    match Text.hexValue a, Text.hexValue b, Text.hexValue c, Text.hexValue d with
    | some a, some b, some c, some d => .ok (((a * 16 + b) * 16 + c) * 16 + d, rest)
    | _, _, _, _ => refuse .invalidEscape rest
  | _ => refuse .eofInString []

/-- The character of an escape that begins with `u`; a pair of surrogates is one character. -/
def readUnicode (cs : List Char) : Except Refusal (Char × List Char) := do
  let (first, rest) ← readHex cs
  if 0xdc00 ≤ first && first ≤ 0xdfff then refuse .loneSurrogate rest
  else if first < 0xd800 || 0xdbff < first then .ok (Char.ofNat first, rest)
  else
    match rest with
    | [] => refuse .eofInString []
    | '\\' :: [] => refuse .eofInString []
    | '\\' :: 'u' :: more =>
      let (second, rest) ← readHex more
      if second < 0xdc00 || 0xdfff < second then refuse .loneSurrogate rest
      else .ok (Char.ofNat ((first - 0xd800) * 0x400 + (second - 0xdc00) + 0x10000), rest)
    | '\\' :: _ :: more => refuse .endOfEscape more
    | _ :: more => refuse .endOfEscape more

/-- The character of an escape, after its backslash. -/
def readEscape : List Char → Read Char
  | [] => refuse .eofInString []
  | c :: cs =>
    match c with
    | '"' => .ok ('"', cs)
    | '\\' => .ok ('\\', cs)
    | '/' => .ok ('/', cs)
    | 'b' => .ok ('\x08', cs)
    | 'f' => .ok ('\x0c', cs)
    | 'n' => .ok ('\n', cs)
    | 'r' => .ok ('\r', cs)
    | 't' => .ok ('\t', cs)
    | 'u' => readUnicode cs
    | _ => refuse .invalidEscape cs

/-- A string, after its opening quote. -/
def readString (read : List Char) : Nat → List Char → Except Refusal (String × List Char)
  | 0, cs => refuse .eofInString cs
  | _ + 1, [] => refuse .eofInString []
  | steps + 1, c :: cs =>
    if c = '"' then .ok (String.ofList read.reverse, cs)
    else if c = '\\' then do
      let (d, rest) ← readEscape cs
      readString (d :: read) steps rest
    else if c.toNat < 0x20 then refuse .controlCharacter cs
    else readString (c :: read) steps cs

/-! ### Values -/

/-- The object with one member more; the later of two members with one name counts. -/
def addMember (members : List (String × Json)) (name : String) (value : Json) :
    List (String × Json) :=
  ((⟨members⟩ : Table Json).insert name value).entries

mutual

/-- A value, with `depth` more arrays and objects allowed around further ones. -/
def readValue : (steps depth : Nat) → List Char → Read Json
  | 0, _, cs => refuse .eofInValue cs
  | steps + 1, depth, cs =>
    match skipSpaces cs with
    | [] => refusePeek .eofInValue []
    | c :: rest =>
      match c with
      | 'n' => readWord .null ['u', 'l', 'l'] rest
      | 't' => readWord (.bool true) ['r', 'u', 'e'] rest
      | 'f' => readWord (.bool false) ['a', 'l', 's', 'e'] rest
      | '-' => (readNumber false rest).map fun (n, rest) => (.number n, rest)
      | '"' => (readString [] (rest.length + 1) rest).map fun (s, rest) => (.string s, rest)
      | '[' =>
        match depth with
        | 0 => refusePeek .tooDeep (c :: rest)
        | depth + 1 => (readItems steps depth true rest).map fun (js, rest) => (.array js, rest)
      | '{' =>
        match depth with
        | 0 => refusePeek .tooDeep (c :: rest)
        | depth + 1 =>
          (readMembers steps depth true [] rest).map fun (ms, rest) => (.object ms, rest)
      | c =>
        if c.isDigit then
          (readNumber true (c :: rest)).map fun (n, rest) => (.number n, rest)
        else refusePeek .expectedValue (c :: rest)

/-- The items of an array up to its bracket. -/
def readItems : (steps depth : Nat) → (first : Bool) → List Char →
    Except Refusal (List Json × List Char)
  | 0, _, _, cs => refuse .eofInArray cs
  | steps + 1, depth, first, cs =>
    match skipSpaces cs with
    | [] => refusePeek .eofInArray []
    | ']' :: rest => .ok ([], rest)
    | c :: rest => do
      let start : List Char ←
        if first then .ok (c :: rest)
        else if c = ',' then
          match skipSpaces rest with
          | [] => refusePeek .eofInValue []
          | ']' :: more => refusePeek .trailingComma (']' :: more)
          | more => .ok more
        else refusePeek .expectedCommaOrBracket (c :: rest)
      let (item, rest) ← readValue steps depth start
      let (others, rest) ← readItems steps depth false rest
      .ok (item :: others, rest)

/-- The members of an object up to its brace, added to those read so far. -/
def readMembers :
    (steps depth : Nat) → (first : Bool) → List (String × Json) → List Char →
      Except Refusal (List (String × Json) × List Char)
  | 0, _, _, _, cs => refuse .eofInObject cs
  | steps + 1, depth, first, members, cs =>
    match skipSpaces cs with
    | [] => refusePeek .eofInObject []
    | '}' :: rest => .ok (members, rest)
    | c :: rest => do
      let start : List Char ←
        if first then
          if c = '"' then .ok rest else refusePeek .nameNotQuoted (c :: rest)
        else if c = ',' then
          match skipSpaces rest with
          | [] => refusePeek .eofInValue []
          | '"' :: more => .ok more
          | '}' :: more => refusePeek .trailingComma ('}' :: more)
          | more => refusePeek .nameNotQuoted more
        else refusePeek .expectedCommaOrBrace (c :: rest)
      let (name, rest) ← readString [] (start.length + 1) start
      match skipSpaces rest with
      | [] => refusePeek .eofInObject []
      | ':' :: rest =>
        let (value, rest) ← readValue steps depth rest
        readMembers steps depth false (addMember members name value) rest
      | rest => refusePeek .expectedColon rest

end

/-! ### Places -/

/-- A place in a text: the line, from one on, and the bytes of the line before the place. -/
structure Position where
  line : Nat
  column : Nat
  deriving DecidableEq, Repr

def Position.after (cs : List Char) : Position :=
  cs.foldl
    (fun p c => if c = '\n' then ⟨p.line + 1, 0⟩ else ⟨p.line, p.column + c.utf8Size⟩) ⟨1, 0⟩

def Refusal.position (r : Refusal) (text : List Char) : Position :=
  let here := Position.after (text.take (text.length - r.unread.length))
  match r.peeked, r.unread with
  | true, '\n' :: _ => ⟨here.line + 1, 0⟩
  | true, _ :: _ => ⟨here.line, here.column + 1⟩
  | _, _ => here

structure SyntaxError where
  fault : Fault
  position : Position
  deriving DecidableEq, Repr

def SyntaxError.message (e : SyntaxError) : String :=
  e.fault.message ++ " at line " ++ toString e.position.line ++ " column " ++
    toString e.position.column

/-- Reads a text that is one value. -/
def parseChars (cs : List Char) : Except Refusal Json := do
  let (value, rest) ← readValue (cs.length + 1) depthLimit cs
  match skipSpaces rest with
  | [] => .ok value
  | rest => refusePeek .trailingCharacters rest

def parse (text : String) : Except SyntaxError Json :=
  (parseChars text.toList).mapError fun r => ⟨r.fault, r.position text.toList⟩

end ConfigStack.Json
