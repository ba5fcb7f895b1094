import DesignTokens.Path
import DesignTokens.Value
import DesignTokens.Json.Writer

/-! # Errors

Every error of the theme compiler is a cause with a location; the wording of a cause is in one
function. The location is the path of a token inside its document, a file, or both. -/
namespace DesignTokens

inductive ErrorClass
  | theme
  | missingInput
  | malformedToken
  | write
  deriving DecidableEq, Repr

def ErrorClass.name : ErrorClass → String
  | .theme => "ThemeError"
  | .missingInput => "MissingInputError"
  | .malformedToken => "MalformedTokenError"
  | .write => "WriteError"

structure Location where
  tokenPath : Option Text
  file : Option Path
  deriving DecidableEq, Repr

/-- An empty token path says nothing. -/
def Location.format (l : Location) : Text :=
  let parts : List Text := (l.file.map fun p => (p.text : Text)).toList ++
    ((l.tokenPath.filter fun p : Text => p ≠ "").map fun p : Text => "@ " ++ p).toList
  if parts.isEmpty then "<tokens>" else .intercalate " " parts

structure ThemeError where
  cls : ErrorClass
  message : Text
  location : Option Location
  deriving DecidableEq, Repr

def ThemeError.text (e : ThemeError) : Text :=
  match e.location with
  | some l => l.format ++ ": " ++ e.message
  | none => e.message

/-- A malformed token error has a location only if there is something to say about it. -/
def ThemeError.malformed (message : Text) (tokenPath : Option Text) (file : Option Path) :
    ThemeError :=
  let known := (tokenPath.filter fun p : Text => p ≠ "").isSome || file.isSome
  ⟨.malformedToken, message, if known then some ⟨tokenPath, file⟩ else none⟩

def ThemeError.write (message : Text) (file : Path) : ThemeError :=
  ⟨.write, message, some ⟨none, some file⟩⟩

/-- What can be wrong with a token. -/
inductive Malformation
  | unsupported (kind : Kind)
  | defaultNotScalar
  | fontEntry (kind : Kind)
  | fontRole (kind : Kind)
  | notScalar (kind : Kind)
  | groupMissing
  | groupNotMapping
  | fontSizeValue
  deriving DecidableEq, Repr

def Malformation.message : Malformation → String
  | .unsupported kind => "Unsupported token value of type " ++ kind.name
  | .defaultNotScalar => "DEFAULT must be a string or number"
  | .fontEntry kind => "Font stack entries must be strings, got " ++ kind.name
  | .fontRole kind => "Font family must be a list of names or a string, got " ++ kind.name
  | .notScalar kind => "Expected a string or number, got " ++ kind.name
  | .groupMissing => "Required token group is missing"
  | .groupNotMapping => "Token group must be an object"
  | .fontSizeValue => "Font size objects need a scalar 'value'"

/-- What a document can fail at: a malformed token, with its dash-joined path and what is wrong, or
a whole number that has too many digits to be written. -/
inductive TokenFault
  | malformed (path : Text) (cause : Malformation)
  | overlong
  deriving DecidableEq, Repr

/-- A text, unless it needs a number of too many digits. -/
def written {α : Type} : Option α → Except TokenFault α
  | some a => .ok a
  | none => .error .overlong

/-- What a generator raises: an error of the theme compiler, a value that has no written form, or
an error of its own, of any class and with any text. -/
inductive Failure
  | theme (e : ThemeError)
  | overlong
  | unwritable (u : Json.Unwritable)
  | outside (className : String) (text : Text)
  deriving DecidableEq, Repr

def Failure.className : Failure → String
  | .theme e => e.cls.name
  | .overlong => "ValueError"
  | .unwritable _ => "TypeError"
  | .outside className _ => className

def Failure.text : Failure → Text
  | .theme e => e.text
  | .overlong => overlongMessage
  | .unwritable u => u.message
  | .outside _ text => text

def Failure.ofFault : TokenFault → Failure
  | .malformed path cause => .theme (.malformed cause.message (some path) none)
  | .overlong => .overlong

/-- A number of too many digits fails in the same way wherever it would be written. -/
def Failure.ofWriting : Json.WritingFault → Failure
  | .overlong => .overlong
  | .unwritable u => .unwritable u

end DesignTokens
