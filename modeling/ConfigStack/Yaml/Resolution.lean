import ConfigStack.Yaml.Datum
import ConfigStack.Yaml.Grammar

/-!
# The meaning of a YAML document

A plain scalar means what its text looks like: nothing, a truth value, a whole number, a number, or
else a text. A tag of the language's own forces one of these, and any other tag that begins with an
exclamation mark stays with the datum.

Aliases are replaced by what they stand for. Two limits keep that finite: how deep collections may
be nested, and how many aliases may be followed, which depends on the size of the document.
-/
namespace ConfigStack.Yaml

/-! ### Scalars -/

def isNullText (text : List Char) : Bool :=
  text.isEmpty || ["null", "Null", "NULL", "~"].contains (String.ofList text)

def readBool (text : List Char) : Option Bool :=
  let word := String.ofList text
  if ["true", "True", "TRUE"].contains word then some true
  else if ["false", "False", "FALSE"].contains word then some false
  else none

/-- Whether a text is a row of digits that begins with a superfluous zero. -/
def isZeroPadded (text : List Char) : Bool :=
  match (Decimal.cutSign text).2 with
  | '0' :: c :: rest => (c :: rest).all Char.isDigit
  | _ => false

def readInBase (base : Nat) (digits : List Char) : Option Nat :=
  if digits.isEmpty then none
  else
    digits.foldl
      (fun n c => do
        let high ← n
        let low ← Text.hexValue c
        if low < base then pure (high * base + low) else none)
      (some 0)

/-- The size of a whole number without its sign: with a mark for its base, or decimal without
superfluous zeros. -/
def readMagnitude (text : List Char) : Option Nat :=
  match text with
  | '0' :: 'x' :: digits => readInBase 16 digits
  | '0' :: 'o' :: digits => readInBase 8 digits
  | '0' :: 'b' :: digits => readInBase 2 digits
  | _ => if isZeroPadded text then none else readInBase 10 text

/-- A whole number, with its sign. -/
def readWhole : List Char → Option Int
  | '-' :: rest => (readMagnitude rest).map fun n => -(n : Int)
  | '+' :: rest => (readMagnitude rest).map fun n => (n : Int)
  | text => (readMagnitude text).map fun n => (n : Int)

/-- What a text is as a whole number. -/
inductive Whole where
  | number (n : Number)
  /-- A whole number that only a type of twice the width could hold. -/
  | tooWide
  | notWhole

/-- A whole number by its size. One that even a hundred and twenty-eight bits do not hold counts as
none. -/
def wholeOf (text : List Char) : Whole :=
  match readWhole text with
  | none => .notWhole
  | some n =>
    if 0 ≤ n then
      if n < Int.pow 2 64 then .number (.natural n.toNat.toUInt64)
      else if n < Int.pow 2 128 then .tooWide
      else .notWhole
    else if -Int.pow 2 63 ≤ n then .number (.negative (Int64.ofInt n))
    else if -Int.pow 2 127 ≤ n then .tooWide
    else .notWhole

/-- A binary64 number: the words for the infinities and for no number, or a finite number. -/
def readFloat (text : List Char) : Option Float :=
  let unsigned :=
    match text with
    | '+' :: rest => rest
    | _ => text
  let word := String.ofList unsigned
  if text.head? = some '+' && (unsigned.head? = some '+' || unsigned.head? = some '-') then none
  else if [".inf", ".Inf", ".INF"].contains word then some (1.0 / 0.0)
  else if ["-.inf", "-.Inf", "-.INF"].contains (String.ofList text) then some (-1.0 / 0.0)
  else if [".nan", ".NaN", ".NAN"].contains (String.ofList text) then some (0.0 / 0.0)
  else
    match Decimal.readFloat unsigned with
    | some x => if x.isFinite then some x else none
    | none => none

/-- What a plain scalar means; none where it is a whole number that is too wide. -/
def plainMeaning (text : List Char) : Option Datum :=
  if isNullText text then some .null
  else
    match readBool text with
    | some b => some (.bool b)
    | none =>
      match wholeOf text with
      | .number n => some (.number n)
      | .tooWide => none
      | .notWhole =>
        if isZeroPadded text then some (.string (String.ofList text))
        else
          match readFloat text with
          | some x => some (.number (.float x))
          | none => some (.string (String.ofList text))

/-- A scalar under a tag of the language's own, or under one that says nothing. -/
def taggedMeaning (tag : String) (text : List Char) : Option Datum :=
  match tag with
  | "tag:yaml.org,2002:null" => if isNullText text && !text.isEmpty then some .null else none
  | "tag:yaml.org,2002:bool" => (readBool text).map .bool
  | "tag:yaml.org,2002:int" =>
    match wholeOf text with
    | .number n => some (.number n)
    | _ => none
  | "tag:yaml.org,2002:float" => (readFloat text).map fun x => .number (.float x)
  | _ => some (.string (String.ofList text))

/-- The part of a tag that stays with its datum. -/
def ownTag (p : Properties) : Option String :=
  match p.tag with
  | some tag => if tag.startsWith "!" then some (tagName tag) else none
  | none => none

/-! ### Documents -/

/-- The deepest nesting of collections. -/
def depthLimit : Nat := 128

/-- How many aliases may be followed for each sign of the document. -/
def aliasesPerSign : Nat := 100

/-- A step that may follow aliases, of which so many are left; none if the document is refused. -/
abbrev Composer := StateT Nat Option

def refuse {α : Type} : Composer α := StateT.lift none

def followAlias : Composer Unit := do
  match ← get with
  | 0 => refuse
  | left + 1 => set left

/-- What a scalar means. Its tag says nothing where it was used already. -/
def scalarMeaning (p : Properties) (text : String) (plain tagUsed : Bool) : Option Datum :=
  match p.tag, tagUsed with
  | some tag, false => taggedMeaning tag text.toList
  | _, _ => if plain then plainMeaning text.toList else some (.string text)

/-- What the content of a collection is, one level further down; none where no level is left. -/
abbrev Inner := Option (Bool → Node → Composer Datum)

/-- What a node that is no alias is, without a tag that stays with it. In a mapping whose tag was
used the tags of the keys say nothing either. -/
def contents (inner : Inner) (tagUsed : Bool) : Node → Composer Datum
  | .alias _ => refuse
  | .scalar p text plain => StateT.lift (scalarMeaning p text plain tagUsed)
  | .sequence _ items =>
    match inner with
    | none => refuse
    | some datum => return .sequence (← items.mapM (datum false))
  | .mapping _ entries =>
    match inner with
    | none => refuse
    | some datum => do
      let entries ← entries.mapM fun (key, value) => do
        return (← datum tagUsed key, ← datum false value)
      if Datum.repeatsKey entries then refuse else return .mapping entries

/-- The part of its tag that stays with a node. -/
def Node.ownTag? : Node → Option String
  | .alias _ => none
  | .scalar p _ _ | .sequence p _ | .mapping p _ => ownTag p

/-- What a node that is no alias is. -/
def described (inner : Inner) (tagUsed : Bool) (node : Node) : Composer Datum :=
  match node.ownTag?, tagUsed with
  | some tag, false => return .tagged tag (← contents inner true node)
  | _, _ => contents inner tagUsed node

/-- What a node is. `target` gives the nodes that the numbers of aliases mean. -/
def composed (target : Nat → Option Node) (inner : Inner) (tagUsed : Bool) :
    Node → Composer Datum
  | .alias number => do
    followAlias
    match target number with
    | some node => described inner false node
    | none => refuse
  | node => described inner tagUsed node

/-- What a node is, with so many levels of nesting left. -/
def compose (target : Nat → Option Node) : (levels : Nat) → (tagUsed : Bool) → Node → Composer Datum
  | 0 => composed target none
  | levels + 1 => composed target (some (compose target levels))

def Node.datum? (node : Node) : Option Datum :=
  let anchored := node.anchored.reverse
  let target := fun number => anchored.lookup number
  ((compose target depthLimit false node).run (aliasesPerSign * node.size)).map (·.1)

/-- What a text says that holds one document or none. -/
def datum? (text : String) : Option Datum := do
  (← document? (← tokens? text.toList)).datum?

end ConfigStack.Yaml
