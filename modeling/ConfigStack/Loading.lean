import ConfigStack.Dotenv.Assignment
import ConfigStack.Environment
import ConfigStack.Log
import ConfigStack.Yaml.Settings

/-!
# Loading an environment from a directory

The variables of the process come first, together with those that the dotenv files of the
directory add; then the settings of the active profile, then those every profile shares. A file
that is not there is passed over. A dotenv file that cannot be read is, too; a file of settings
that cannot be read is an error.
-/
namespace ConfigStack

/-- What stands under a name in a directory. A file may be refused by the system, which then says
why. -/
inductive Entry where
  | file (bytes : List UInt8)
  | directory
  | refused (reason : String)

/-- A directory: where it is, and what stands in it. -/
structure Directory where
  place : String
  entries : Table Entry

namespace Directory

/-- The path of a name. No slash is put behind a place that is empty or ends in one. -/
def path (d : Directory) (name : String) : String :=
  match d.place.toList.getLast? with
  | none | some '/' => d.place ++ name
  | some _ => d.place ++ "/" ++ name

def addVariables (d : Directory) (name : String) (vars : Table String) : Table String :=
  match d.entries.get? name with
  | some (.file bytes) => Dotenv.assign vars (Dotenv.assignments vars bytes)
  | _ => vars

def readEntry : Entry → Except LoadError Settings
  | .directory => .error .directory
  | .refused reason => .error (.refused reason)
  | .file bytes =>
    match Text.decodeUtf8 bytes with
    | none => .error .notUtf8
    | some cs => Yaml.readSettings (String.ofList cs)

/-- The layer of a file of settings, named for its path, if the file is there. -/
def layer? (d : Directory) (name : String) : Except ConfigError (Option StaticLayer) :=
  match d.entries.get? name with
  | none => .ok none
  | some entry =>
    match readEntry entry with
    | .ok settings => .ok (some ⟨d.path name, settings⟩)
    | .error cause => .error (.load (.inFile (d.path name) cause))

end Directory

namespace Environment

def profileVariable : String := "OKTA_ENV_PROFILE"

def inlineName : String := "inline-yaml"

def ofYaml (text profile : String) : Except ConfigError Environment :=
  match Yaml.readSettings text with
  | .ok settings => .ok ((new profile).addLast (.layer (.static ⟨inlineName, settings⟩)))
  | .error cause => .error (.load cause)

/-- The environment with a layer behind all others, if there is one. -/
def addLayer? (env : Environment) : Option StaticLayer → Environment
  | some layer => env.addLast (.layer (.static layer))
  | none => env

/-- The environment of a directory under a profile. The variables that were set before the dotenv
files are read choose another profile.

The names and texts of variables are Unicode without NUL. Where a dotenv file assigns a text with a
NUL, or the process has a variable that is not Unicode, loading is aborted and gives neither an
environment nor an error; what is said here leaves these two cases out. -/
def load (d : Directory) (vars : Table String) (profile : String) :
    Except ConfigError Environment := do
  let active := (vars.get? profileVariable).getD profile
  let vars := d.addVariables ".env" vars
  let vars := d.addVariables (".env." ++ active) vars
  let ofProfile ← d.layer? ("application-" ++ active ++ ".yaml")
  let shared ← d.layer? "application.yaml"
  return (((new active).addLast (.variables vars)).addLayer? ofProfile).addLayer? shared

/-- The variables of the process after a load: what the dotenv files add stays set. -/
def variablesAfter (d : Directory) (vars : Table String) (profile : String) : Table String :=
  let active := (vars.get? profileVariable).getD profile
  d.addVariables (".env." ++ active) (d.addVariables ".env" vars)

def loadedEvent (env : Environment) : Event where
  level := .debug
  fields :=
    [("message", "Environment loaded"), ("profile", env.profile),
      ("sources", Text.quotedList env.sourceNames)]

end Environment

end ConfigStack
