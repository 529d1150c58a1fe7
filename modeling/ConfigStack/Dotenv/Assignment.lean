import ConfigStack.Dotenv.Line
import ConfigStack.Table
import ConfigStack.Unicode.Alphanumeric

/-!
# Assignments of a dotenv file

A line assigns a text to a variable. Its value may be quoted, may hold escapes, and may refer to
variables: to those that were set before, and to those that lines further up have set. A file
counts up to its first line that is neither an assignment nor empty, and a variable that is set
keeps its value.
-/
namespace ConfigStack.Dotenv

/-! ### Values -/

/-- What a value is in the middle of; inside of weak quotes or not, where that can go on. -/
inductive Mode where
  | plain (weak : Bool)
  | escape (weak : Bool)
  | strong
  /-- A reference whose name ends with the first character that is no letter and no number. -/
  | reference (weak : Bool) (name : List Char)
  /-- A reference whose name ends with a brace. -/
  | bracedReference (weak : Bool) (name : List Char)
  /-- Behind the value: only blanks and a comment may follow. -/
  | ended

/-- The character an escape stands for. -/
def unescaped (c : Char) : Option Char :=
  if "\\'\"$ ".toList.contains c then some c else if c = 'n' then some '\n' else none

/-- The text of a value from a mode on; none where it is refused. -/
def readValue (known : String → String) : Mode → List Char → Option (List Char)
  | .plain weak, [] => if weak then none else some []
  | .escape weak, [] => if weak then none else some []
  | .strong, [] => none
  | .reference weak name, [] =>
    if weak then none else some (known (String.ofList name)).toList
  | .bracedReference _ _, [] => none
  | .ended, [] => some []
  | .plain weak, c :: rest =>
    if c = '$' then readValue known (.reference weak []) rest
    else if c = '\\' then readValue known (.escape weak) rest
    else if c = '"' then readValue known (.plain !weak) rest
    else if weak then (readValue known (.plain true) rest).map (c :: ·)
    else if c = '\'' then readValue known .strong rest
    else if c = ' ' ∨ c = '\t' then readValue known .ended rest
    else (readValue known (.plain false) rest).map (c :: ·)
  | .escape weak, c :: rest => do
    let meant ← unescaped c
    return meant :: (← readValue known (.plain weak) rest)
  | .strong, c :: rest =>
    if c = '\'' then readValue known (.plain false) rest
    else (readValue known .strong rest).map (c :: ·)
  | .reference weak name, c :: rest =>
    if Unicode.isAlphanumeric c then readValue known (.reference weak (name ++ [c])) rest
    else if c = '{' ∧ name.isEmpty then readValue known (.bracedReference weak []) rest
    else
      let found := (known (String.ofList name)).toList
      if c = '$' then (readValue known (.reference weak []) rest).map (found ++ ·)
      else (readValue known (.plain weak) rest).map (found ++ c :: ·)
  | .bracedReference weak name, c :: rest =>
    if c = '}' then
      (readValue known (.plain weak) rest).map ((known (String.ofList name)).toList ++ ·)
    else readValue known (.bracedReference weak (name ++ [c])) rest
  | .ended, c :: rest =>
    if c = ' ' ∨ c = '\t' then readValue known .ended rest
    else if c = '#' then some []
    else none

/-! ### Lines -/

/-- What a line says. -/
inductive Statement where
  | nothing
  | assign (name value : String)

/-- The name of a variable at the front of a text, and what follows behind blanks. -/
def readName (cs : List Char) : Option (List Char × List Char) :=
  match cs with
  | c :: _ =>
    if c.isAlpha || c = '_' then
      let isPart (c : Char) : Bool := c.isAlphanum || c = '_' || c = '.'
      some (cs.takeWhile isPart, (cs.dropWhile isPart).dropWhile Text.isBlank)
    else none
  | [] => none

def behindEquals : List Char → Option (List Char)
  | '=' :: rest => some rest
  | _ => none

/-- The name that is assigned to, and the text behind the equals sign. The word `export` may stand
in front of the name, and is a name itself where the equals sign follows it. -/
def readTarget (cs : List Char) : Option (List Char × List Char) := do
  let (name, rest) ← readName cs
  match behindEquals rest with
  | some value => return (name, value)
  | none =>
    if String.ofList name = "export" then
      let (name, rest) ← readName rest
      return (name, ← behindEquals rest)
    else none

/-- What a line says, given the texts of the variables. -/
def readLine (known : String → String) (line : List Char) : Option Statement := do
  let cs := Text.trim line
  if cs.isEmpty || cs.head? = some '#' then return .nothing
  let (name, rest) ← readTarget cs
  let rest := rest.dropWhile Text.isBlank
  let value ←
    if rest.isEmpty || rest.head? = some '#' then some []
    else readValue known (.plain false) rest
  return .assign (String.ofList name) (String.ofList value)

/-! ### Files -/

/-- The text of a variable, empty for one that is not set. -/
def textOf (vars : Table String) (name : String) : String :=
  (vars.get? name).getD ""

/-- The assignments of the lines up to the first bad one, in order. -/
def assignmentsOf (vars : Table String) : List (List Char) → List (String × String)
  | [] => []
  | line :: rest =>
    match readLine (textOf vars) line with
    | none => []
    | some .nothing => assignmentsOf vars rest
    | some (.assign name value) =>
      (name, value) :: assignmentsOf (vars.insertIfNew name value) rest

def assignments (vars : Table String) (bytes : List UInt8) : List (String × String) :=
  assignmentsOf vars (lines bytes)

/-- The variables with those of the assignments that are new. -/
def assign (vars : Table String) (items : List (String × String)) : Table String :=
  items.foldl (fun vars item => vars.insertIfNew item.1 item.2) vars

end ConfigStack.Dotenv
