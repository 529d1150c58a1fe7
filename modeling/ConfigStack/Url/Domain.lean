import ConfigStack.Unicode.Composition
import ConfigStack.Unicode.Direction
import ConfigStack.Unicode.DomainMapping
import ConfigStack.Unicode.Joining
import ConfigStack.Url.Punycode

/-!
# Domain names

The ASCII form of a domain name. A name in ASCII only has its letters made small. Any other name is
mapped character by character and composed, its labels are checked, and those with other characters
are spelled in Punycode behind the mark `xn--`. A label that has the mark already is checked by what
it spells.
-/
namespace ConfigStack.Url

/-- The characters that no domain name may have, besides control characters. -/
def forbiddenInDomain : List Char :=
  ['%', ' ', '#', '/', ':', '<', '>', '?', '@', '[', '\\', ']', '^', '|']

def isForbidden (c : Char) : Bool :=
  c.toNat < 0x20 || c.toNat = 0x7f || forbiddenInDomain.contains c

namespace Label

/-- The mark of a label in Punycode. -/
def punycodeMark : List Char := ['x', 'n', '-', '-']

/-- The longest label that is put into Punycode. -/
def longestSpelled : Nat := 1000

/-- The longest Punycode that is looked at. -/
def longestSpelling : Nat := 2000

def isAscii (label : List Char) : Bool :=
  label.all Punycode.isBasic

/-! ### Joiners -/

/-- The two characters that join and separate letters where they stand between them. -/
def joiner : Char := '\u200d'
def nonJoiner : Char := '\u200c'

/-- The joining of the nearest character that is not transparent. -/
def nearestJoining : List Char → Unicode.Joining
  | [] => .none
  | c :: rest =>
    match Unicode.joiningOf c with
    | .transparent => nearestJoining rest
    | joining => joining

/-- Whether a joiner or a separator may stand here. `before` are the characters before it, the last
one first. Both may stand behind a virama, and the separator also between letters that would be
joined. -/
def allowsJoiner (c : Char) (before after : List Char) : Bool :=
  before.head?.any (fun d => Unicode.combiningClass d == Unicode.viramaClass) ||
    (c == nonJoiner &&
      (nearestJoining before == .left || nearestJoining before == .both) &&
      (nearestJoining after == .right || nearestJoining after == .both))

/-- Whether every joiner and separator may stand where it does. -/
def joinersAllowed (before : List Char) : List Char → Bool
  | [] => true
  | c :: rest =>
    (if c = joiner ∨ c = nonJoiner then allowsJoiner c before rest else true) &&
      joinersAllowed (c :: before) rest

/-! ### Directions -/

/-- The last direction that is not that of a mark. -/
def finalDirection (directions : List Unicode.Direction) : Option Unicode.Direction :=
  (directions.reverse.dropWhile (· == .mark)).head?

/-- Whether the label can be told apart from those beside it in a name that is written from right to
left in some part. -/
def keepsDirection (label : List Char) : Bool :=
  let directions := label.map Unicode.directionOf
  let final := finalDirection directions
  match directions with
  | [] => true
  | .left :: _ =>
    directions.all (fun d => [.left, .europeanNumber, .weak, .mark].contains d) &&
      (final == some .left || final == some .europeanNumber)
  | .right :: _ | .arabicLetter :: _ =>
    directions.all (fun d =>
        [.right, .arabicLetter, .arabicNumber, .europeanNumber, .weak, .mark].contains d) &&
      (final == some .right || final == some .arabicLetter || final == some .europeanNumber ||
        final == some .arabicNumber) &&
      !(directions.contains .europeanNumber && directions.contains .arabicNumber)
  | _ => false

/-- Whether some part of the label is written from right to left. -/
def isRightToLeft (label : List Char) : Bool :=
  label.any fun c => [.right, .arabicLetter, .arabicNumber].contains (Unicode.directionOf c)

/-! ### Spelling -/

/-- What a label in mapped form says: the label itself, or what its Punycode spells. That has to be
a label that needs the spelling and that mapping would leave as it is. -/
def spelled (label : List Char) : Option (List Char) :=
  if punycodeMark.isPrefixOf label then do
    let digits := label.drop punycodeMark.length
    if longestSpelling < digits.length then none
    let cs ← Punycode.decode digits
    if isAscii cs || !cs.all Unicode.staysInDomains || Unicode.composedForm cs ≠ cs then none
    return cs
  else some label

/-- Whether what a label says is a label. -/
def isValid (label : List Char) : Bool :=
  isAscii label || (!label.head?.any Unicode.isMark && joinersAllowed [] label)

def toAscii (label : List Char) : Option (List Char) :=
  if isAscii label then some label
  else if longestSpelled < label.length then none
  else some (punycodeMark ++ Punycode.encode label)

end Label

/-- Whether a name is its own ASCII form but for the size of its letters. -/
def isPlainName (cs : List Char) : Bool :=
  cs.all Punycode.isBasic &&
    !(Text.pieces '.' (cs.map Char.toLower)).any fun label => Label.punycodeMark.isPrefixOf label

/-- The characters of a name after mapping, in composed form. -/
def mappedName (cs : List Char) : Option (List Char) := do
  return Unicode.composedForm (← cs.mapM Unicode.domainMapped).flatten

/-- The ASCII form of a name that is not plain. -/
def spelledName (cs : List Char) : Option (List Char) := do
  let name ← mappedName cs
  if name.any isForbidden then none
  let labels ← (Text.pieces '.' name).mapM Label.spelled
  if !labels.all Label.isValid then none
  if labels.any Label.isRightToLeft && !labels.all Label.keepsDirection then none
  return ['.'].intercalate (← labels.mapM Label.toAscii)

/-- The ASCII form of a domain name, if it is one. -/
def domainToAscii (cs : List Char) : Option (List Char) :=
  if isPlainName cs then
    let lower := cs.map Char.toLower
    if lower.any isForbidden then none else some lower
  else spelledName cs

end ConfigStack.Url
