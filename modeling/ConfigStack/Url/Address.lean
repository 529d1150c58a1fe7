import ConfigStack.Decimal.Text
import ConfigStack.Text.Blank
import ConfigStack.Text.Utf8

/-!
# Numeric host addresses

The forms of an IPv4 address that a URL may have, with fewer than four numbers and with octal or
hexadecimal ones, and IPv6 addresses with their shortest text.
-/
namespace ConfigStack.Url

/-! ### IPv4 -/

def readBase (base : Nat) (cs : List Char) : Option Nat :=
  cs.foldl
    (fun n c =>
      match n, Text.hexValue c with
      | some n, some d => if d < base then some (n * base + d) else none
      | _, _ => none)
    (some 0)

/-- One number of an IPv4 address: hexadecimal after `0x`, octal after `0`, decimal otherwise.
Nothing after the mark of the base is zero. -/
def readIpv4Number : List Char → Option Nat
  | [] => none
  | '0' :: 'x' :: digits => readBase 16 digits
  | '0' :: 'X' :: digits => readBase 16 digits
  | '0' :: d :: digits => readBase 8 (d :: digits)
  | digits => readBase 10 digits

/-- The parts of a dotted name, without an empty last one. -/
def dottedParts (cs : List Char) : List (List Char) :=
  let parts := Text.pieces '.' cs
  if parts.getLast? = some [] then parts.dropLast else parts

/-- Whether a name is to be read as an IPv4 address: its last part is a number. -/
def endsInNumber (cs : List Char) : Bool :=
  match (dottedParts cs).getLast? with
  | none => false
  | some last => (!last.isEmpty && last.all Char.isDigit) || (readIpv4Number last).isSome

/-- An IPv4 address: at most four numbers, all but the last below 256, the last filling the bytes
that are left. -/
def readIpv4 (cs : List Char) : Option Nat := do
  let parts := dottedParts cs
  if 4 < parts.length then none
  let numbers ← parts.mapM readIpv4Number
  let last ← numbers.getLast?
  let leading := numbers.dropLast
  if Nat.pow 256 (4 - leading.length) ≤ last || leading.any (255 < ·) then none
  let high := leading.foldl (fun n b => n * 256 + b) 0
  some (high * Nat.pow 256 (4 - leading.length) + last)

def ipv4Text (address : Nat) : String :=
  String.intercalate "."
    ([16777216, 65536, 256, 1].map fun unit => toString (address / unit % 256))

/-! ### IPv6 -/

/-- Up to four hexadecimal digits from the front of a text. -/
def cutPiece (cs : List Char) : Nat × Nat × List Char :=
  let digits := (cs.take 4).takeWhile fun c => (Text.hexValue c).isSome
  ((readBase 16 digits).getD 0, digits.length, cs.drop digits.length)

/-- A decimal number below 256 without needless zeros, from the front of a text. -/
def cutByte (cs : List Char) : Option (Nat × List Char) :=
  let digits := cs.takeWhile Char.isDigit
  match digits, Decimal.readDigits digits with
  | '0' :: _ :: _, _ => none
  | _, some n => if n < 256 then some (n, cs.drop digits.length) else none
  | _, none => none

/-- Four such numbers with dots between them and nothing behind. -/
def readDotted (cs : List Char) : Option (Nat × Nat) :=
  match cutByte cs with
  | some (a, '.' :: rest) =>
    match cutByte rest with
    | some (b, '.' :: rest) =>
      match cutByte rest with
      | some (c, '.' :: rest) =>
        match cutByte rest with
        | some (d, []) => some (a * 256 + b, c * 256 + d)
        | _ => none
      | _ => none
    | _ => none
  | _ => none

/-- What was read of an IPv6 address: its pieces, and how many stood before `::`. -/
structure Ipv6Parts where
  pieces : List Nat
  compressed : Option Nat

/-- How many of the eight pieces are taken: `::` stands for at least one. -/
def Ipv6Parts.taken (p : Ipv6Parts) : Nat :=
  p.pieces.length + if p.compressed.isSome then 1 else 0

def Ipv6Parts.add (p : Ipv6Parts) (more : List Nat) : Ipv6Parts :=
  { p with pieces := p.pieces ++ more }

/-- The pieces of an IPv6 address from some point on. Every step takes at least one character, so
the length of the text bounds them. -/
def readPieces (read : Ipv6Parts) : Nat → List Char → Option Ipv6Parts
  | 0, cs => if cs.isEmpty then some read else none
  | _ + 1, [] => some read
  | steps + 1, c :: cs =>
    if read.taken = 8 then none
    else if c = ':' then
      if read.compressed.isSome then none
      else readPieces { read with compressed := some read.pieces.length } steps cs
    else
      let (value, size, rest) := cutPiece (c :: cs)
      match rest with
      | '.' :: _ =>
        if size = 0 || 6 < read.taken then none
        else
          match readDotted (c :: cs) with
          | some (high, low) => some (read.add [high, low])
          | none => none
      | [] => if size = 0 then none else some (read.add [value])
      | ':' :: [] => none
      | ':' :: rest => readPieces (read.add [value]) steps rest
      | _ => none

def readIpv6 (cs : List Char) : Option (List Nat) := do
  let start? :=
    match cs with
    | ':' :: ':' :: rest => some (⟨[], some 0⟩, rest)
    | ':' :: _ => none
    | cs => some (⟨[], none⟩, cs)
  let (start, rest) ← start?
  let read ← readPieces start (rest.length + 1) rest
  match read.compressed with
  | none => if read.pieces.length = 8 then some read.pieces else none
  | some place =>
    some (read.pieces.take place ++ List.replicate (8 - read.pieces.length) 0 ++
      read.pieces.drop place)

/-- The start and the length of the first longest run of zeros, from the pieces from `index` on. -/
def longestZeros : Nat → List Nat → Nat × Nat
  | _, [] => (0, 0)
  | index, piece :: rest =>
    let here := ((piece :: rest).takeWhile (· = 0)).length
    let later := longestZeros (index + 1) rest
    if later.2 ≤ here then (index, here) else later

def hexText (n : Nat) : String :=
  String.ofList (Nat.toDigits 16 n)

/-- The text of an address, with the first longest run of two zeros or more left out. -/
def ipv6Text (pieces : List Nat) : String :=
  let (start, size) := longestZeros 0 pieces
  let join := fun ps => String.intercalate ":" (ps.map hexText)
  if size < 2 then join pieces
  else join (pieces.take start) ++ "::" ++ join (pieces.drop (start + size))

end ConfigStack.Url
