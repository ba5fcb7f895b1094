import DesignTokens.Error
import DesignTokens.FileTree
import DesignTokens.Json.Reader
import DesignTokens.Log
import DesignTokens.Text.Lines
import DesignTokens.Text.Utf8
import DesignTokens.Yaml.Document

/-! # Loading a token document

A document is a file of UTF-8 text whose notation its name tells: YAML by its suffix, JSON
otherwise. It has to be a mapping. -/
namespace DesignTokens

/-- The reasons for which a file is no token document. -/
inductive Refusal
  | absent
  | encoding (fault : Text.Utf8.Fault)
  | json (cause : Json.Cause) (place : Json.Place)
  | yaml
  | shape (kind : Kind)
  deriving DecidableEq, Repr

def Refusal.message : Refusal → String
  | .absent => "Token document not found"
  | .encoding fault => "Cannot read token document: " ++ fault.message
  | .json cause place => "Invalid JSON: " ++ (Json.Fault.form cause place).message
  | .yaml => "Invalid YAML"
  | .shape kind => "Token document must be an object, got " ++ kind.name

/-- A file is refused as a document, or its name is too long to look for it, or a number or another
scalar in it cannot be converted. Only the first is an error of the theme compiler. -/
inductive LoadError
  | refused (cause : Refusal) (file : Path)
  | denied (e : FileError)
  | digits (count : Nat)
  | scalar (fault : Yaml.Fault)
  deriving DecidableEq, Repr

namespace LoadError

/-- The error of the theme compiler, if it is one. -/
def themeError? : LoadError → Option ThemeError
  | .refused cause file => some ⟨.missingInput, cause.message, some ⟨none, some file⟩⟩
  | _ => none

def className (e : LoadError) : String :=
  match e with
  | .refused .. => ErrorClass.missingInput.name
  | .denied e => e.cause.className
  | .digits _ => Yaml.FaultClass.value.name
  | .scalar fault => (fault.class?.map Yaml.FaultClass.name).getD ""

def text (e : LoadError) : Text :=
  match e with
  | .refused cause file => (Location.mk none (some file)).format ++ ": " ++ cause.message
  | .denied e => e.message
  | .digits count => Literal.digitsMessage count
  | .scalar fault => fault.message

end LoadError

/-- The suffixes, in lower case, of documents in YAML. -/
def yamlSuffixes : List String := [".yaml", ".yml"]

def Path.isYaml (p : Path) : Bool := yamlSuffixes.contains (Text.lower p.suffix)

/-- The value of a text in the notation that a file's name tells. -/
def parseAs (file : Path) (cs : List Char) : Except LoadError Value :=
  if file.isYaml then
    match Yaml.parse cs with
    | .ok v => .ok v
    | .error .malformed => .error (.refused .yaml file)
    | .error fault => .error (.scalar fault)
  else
    match Json.parse cs with
    | .ok v => .ok v
    | .error (.form cause place) => .error (.refused (.json cause place) file)
    | .error (.digits count) => .error (.digits count)

/-- The document in the octets of a file. -/
def parseDocument (file : Path) (octets : List UInt8) : Except LoadError Document :=
  match Text.Utf8.decode octets with
  | .error fault => .error (.refused (.encoding fault) file)
  | .ok cs =>
    match parseAs file (Text.normalizeNewlines cs) with
    | .error e => .error e
    | .ok (.map entries) => .ok entries
    | .ok v => .error (.refused (.shape v.kind) file)

/-- The token document at a path. -/
def FileTree.load (t : FileTree) (file : Path) : Except LoadError Document :=
  match t.read file with
  | .error ⟨.nameTooLong, path⟩ => .error (.denied ⟨.nameTooLong, path⟩)
  | .error _ => .error (.refused .absent file)
  | .ok octets => parseDocument file octets

/-- What is logged of a document that was loaded. -/
def loadedLine (file : Path) (doc : Document) : Log.Line :=
  ⟨.debug, .store,
    "Loaded " ++ toString doc.length ++ " top-level token groups from " ++ file.text⟩

end DesignTokens
