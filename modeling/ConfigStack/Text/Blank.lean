/-!
# Blank characters and trimming

The characters of Unicode's `White_Space` property, and the two ways text is cut by them: blanks
taken off both ends, and text taken apart at a separator. Everything works on `List Char`; the
`String` versions only convert.
-/
namespace ConfigStack.Text

/-- A character of Unicode's `White_Space` property. -/
def isBlank (c : Char) : Bool :=
  let n := c.toNat
  (0x9 ≤ n && n ≤ 0xd) || n == 0x20 || n == 0x85 || n == 0xa0 || n == 0x1680 ||
    (0x2000 ≤ n && n ≤ 0x200a) || n == 0x2028 || n == 0x2029 || n == 0x202f ||
    n == 0x205f || n == 0x3000

/-- The text without the characters of the class `drop` at its end. -/
def dropEndWhile (drop : Char → Bool) (cs : List Char) : List Char :=
  (cs.reverse.dropWhile drop).reverse

def trim (cs : List Char) : List Char :=
  dropEndWhile isBlank (cs.dropWhile isBlank)

def trimmed (s : String) : String :=
  String.ofList (trim s.toList)

def withoutFinalSlashes (s : String) : String :=
  String.ofList (dropEndWhile (· == '/') s.toList)

/-- The pieces between the separators: one more than there are separators. -/
def pieces (separator : Char) : List Char → List (List Char)
  | [] => [[]]
  | c :: rest =>
    if c = separator then [] :: pieces separator rest
    else
      match pieces separator rest with
      | [] => [[c]]
      | first :: others => (c :: first) :: others

/-- Whether `needle` stands somewhere in the text. -/
def occursIn (needle : List Char) : List Char → Bool
  | [] => needle.isEmpty
  | c :: rest => needle.isPrefixOf (c :: rest) || occursIn needle rest

/-- The string with the letters `A` to `Z` made small; no other character changes. -/
def lowered (s : String) : String :=
  String.ofList (s.toList.map Char.toLower)

/-- The string with the letters `a` to `z` made large; no other character changes. -/
def raised (s : String) : String :=
  String.ofList (s.toList.map Char.toUpper)

end ConfigStack.Text
