/-!
# Why a read of the configuration fails

Each failure is named for its cause; `ConfigError.message` is the one place with the wording.
-/
namespace ConfigStack

/-- The scalar types a value can be read as. -/
inductive Scalar where
  | text
  | signed
  | unsigned
  | float
  | truth
  deriving DecidableEq, Repr

def Scalar.name : Scalar → String
  | .text => "String"
  | .signed => "i64"
  | .unsigned => "u64"
  | .float => "f64"
  | .truth => "bool"

/-- The most strings with placeholders that may be nested in one expansion, and the most
expansions that may be open at once. -/
def nestingLimit : Nat := 32

/-- Why a text with placeholders has no expansion. -/
inductive PlaceholderError where
  | unclosed (text : String)
  | unresolved (reference text : String)
  | tooDeep (text : String)
  deriving DecidableEq, Repr

def PlaceholderError.message : PlaceholderError → String
  | .unclosed text => "unclosed placeholder in '" ++ text ++ "'"
  | .unresolved reference text =>
    "could not resolve '" ++ reference ++ "' in '" ++ text ++ "'"
  | .tooDeep text =>
    "placeholders nested deeper than " ++ toString nestingLimit ++ " in '" ++ text ++
      "' (circular reference?)"

/-- Why settings could not be loaded. -/
inductive LoadError where
  | malformed
  | notUtf8
  | directory
  | refused (reason : String)
  | inFile (path : String) (cause : LoadError)
  deriving DecidableEq, Repr

inductive ConfigError where
  | notFound (key : String)
  | typeMismatch (key : String) (expected : Scalar)
  | load (cause : LoadError)
  | placeholder (cause : PlaceholderError)
  | bootstrap (processor message : String)
  deriving DecidableEq, Repr

/-- What introduces a failed load in a message. -/
def loadHeading : String := "Config load error: "

/-- A document that does not parse is reported without the place of the fault. -/
def LoadError.message : LoadError → String
  | .malformed => ""
  | .notUtf8 => "stream did not contain valid UTF-8"
  | .directory => "Is a directory (os error 21)"
  | .refused reason => reason
  | .inFile path .malformed => path ++ ": " ++ loadHeading
  | .inFile path cause => path ++ ": " ++ cause.message

def ConfigError.message : ConfigError → String
  | .notFound key => "Config key not found: " ++ key
  | .typeMismatch key expected =>
    "Config type mismatch for '" ++ key ++ "': expected " ++ expected.name
  | .load cause => loadHeading ++ cause.message
  | .placeholder cause => "Config placeholder error: " ++ cause.message
  | .bootstrap processor message =>
    "Environment post-processor '" ++ processor ++ "' failed: " ++ message

end ConfigStack
