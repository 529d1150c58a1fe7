/-!
# Text as bytes

Strict decoding of UTF-8, the lenient decoding that puts a replacement character in the place of
whatever is no UTF-8, and hexadecimal digits.
-/
namespace ConfigStack.Text

def bytesOf (cs : List Char) : List UInt8 :=
  cs.flatMap String.utf8EncodeChar

/-- The text the bytes are the UTF-8 of, if they are. -/
def decodeUtf8 (bytes : List UInt8) : Option (List Char) :=
  (String.fromUTF8? ⟨bytes.toArray⟩).map String.toList

/-- A byte that continues a character. -/
def isTail (b : UInt8) : Bool :=
  0x80 ≤ b && b ≤ 0xbf

/-- The bytes that may follow a leading byte: how many in all, and the range of the first. -/
def tailsOf (lead : UInt8) : Option (Nat × UInt8 × UInt8) :=
  if 0xc2 ≤ lead && lead ≤ 0xdf then some (1, 0x80, 0xbf)
  else if lead = 0xe0 then some (2, 0xa0, 0xbf)
  else if lead = 0xed then some (2, 0x80, 0x9f)
  else if 0xe1 ≤ lead && lead ≤ 0xef then some (2, 0x80, 0xbf)
  else if lead = 0xf0 then some (3, 0x90, 0xbf)
  else if 0xf1 ≤ lead && lead ≤ 0xf3 then some (3, 0x80, 0xbf)
  else if lead = 0xf4 then some (3, 0x80, 0x8f)
  else none

/-- The longest run of bytes that begins a character after its leading byte, at most `count`. -/
def tailRun (count : Nat) (low high : UInt8) (bytes : List UInt8) : List UInt8 :=
  match count, bytes with
  | count + 1, b :: rest => if low ≤ b && b ≤ high then b :: tailRun count 0x80 0xbf rest else []
  | _, _ => []

def replacement : Char := '\ufffd'

/-- The character of a leading byte and the bytes after it. -/
def joinBytes (lead : UInt8) (tails : List UInt8) : Char :=
  let first :=
    match tails.length with
    | 1 => lead.toNat % 0x20
    | 2 => lead.toNat % 0x10
    | _ => lead.toNat % 0x08
  Char.ofNat (tails.foldl (fun n b => n * 0x40 + b.toNat % 0x40) first)

/-- Decodes UTF-8; each longest beginning of a character that is not completed, and each byte
that begins none, becomes one replacement character. -/
def decodeLenient : List UInt8 → List Char
  | [] => []
  | lead :: rest =>
    if lead < 0x80 then Char.ofNat lead.toNat :: decodeLenient rest
    else
      match tailsOf lead with
      | none => replacement :: decodeLenient rest
      | some (count, low, high) =>
        let tails := tailRun count low high rest
        let c := if tails.length = count then joinBytes lead tails else replacement
        c :: decodeLenient (rest.drop tails.length)
termination_by bytes => bytes.length
decreasing_by
  all_goals simp only [List.length_cons, List.length_drop]
  all_goals omega

def hexValue (c : Char) : Option Nat :=
  if c.isDigit then some (c.toNat - '0'.toNat)
  else if 'a' ≤ c ∧ c ≤ 'f' then some (c.toNat - 'a'.toNat + 10)
  else if 'A' ≤ c ∧ c ≤ 'F' then some (c.toNat - 'A'.toNat + 10)
  else none

def hexLarge (n : Nat) : Char :=
  Char.ofNat (if n < 10 then n + '0'.toNat else n - 10 + 'A'.toNat)

def hexSmall (n : Nat) : Char :=
  Char.ofNat (if n < 10 then n + '0'.toNat else n - 10 + 'a'.toNat)

end ConfigStack.Text
