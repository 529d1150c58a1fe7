import ConfigStack.Text.Utf8

/-!
# Percent-encoding

Which characters are written as `%XX` depends on the part of a URL they stand in. Characters
outside ASCII and control characters are encoded everywhere, byte by byte of their UTF-8.
-/
namespace ConfigStack.Url

/-- A part of a URL with its own set of characters to encode. -/
inductive Part where
  | bare
  | fragment
  | query
  | specialQuery
  | path
  | userinfo
  deriving DecidableEq, Repr

/-- The printable ASCII characters that are encoded in a part. -/
def Part.encodes : Part → List Char
  | .bare => []
  | .fragment => [' ', '"', '<', '>', '`']
  | .query => [' ', '"', '#', '<', '>']
  | .specialQuery => [' ', '"', '#', '<', '>', '\'']
  | .path => [' ', '"', '<', '>', '`', '#', '?', '{', '}']
  | .userinfo =>
    [' ', '"', '<', '>', '`', '#', '?', '{', '}', '/', ':', ';', '=', '@', '[', '\\', ']', '^',
      '|']

/-- A byte as a percent sign and two digits. -/
def encodeByte (b : UInt8) : List Char :=
  ['%', Text.hexLarge (b.toNat / 16), Text.hexLarge (b.toNat % 16)]

def encodeChar (part : Part) (c : Char) : List Char :=
  if c.toNat < 0x20 || 0x7e < c.toNat || part.encodes.contains c then
    (String.utf8EncodeChar c).flatMap encodeByte
  else [c]

def encode (part : Part) (cs : List Char) : List Char :=
  cs.flatMap (encodeChar part)

/-- The bytes of a text in which each `%XX` is the byte it spells; a percent sign without two
digits is itself. -/
def decodeBytes : List Char → List UInt8
  | [] => []
  | '%' :: a :: b :: rest =>
    match Text.hexValue a, Text.hexValue b with
    | some high, some low => UInt8.ofNat (high * 16 + low) :: decodeBytes rest
    | _, _ => '%'.toUInt8 :: decodeBytes (a :: b :: rest)
  | c :: rest => String.utf8EncodeChar c ++ decodeBytes rest

end ConfigStack.Url
