import DesignTokens.Lookup
import DesignTokens.Toml.Document
import DesignTokens.Text.Utf8

/-! # The version

An installed distribution knows its version. Otherwise the project file of the checkout tells it,
if it is that of this project. -/
namespace DesignTokens.Version

def distribution : String := "prsm-theme"

def unknown : String := "0.0.0+unknown"

/-- The version of this release. -/
def release : String := "0.3.0"

/-- Why a project file cannot be asked at all. A file that is no document is not among the
reasons: it merely tells nothing. -/
inductive Fault
  | encoding (fault : Text.Utf8.Fault)
  | digits (count : Nat)
  | notTable (kind : Kind)
  deriving DecidableEq, Repr

/-- Calendar types carry the name of their module in front. -/
def fullName (kind : Kind) : String :=
  match kind with
  | .date | .moment | .clock => "datetime." ++ kind.name
  | _ => kind.name

def Fault.className : Fault → String
  | .encoding _ => "UnicodeDecodeError"
  | .digits _ => "ValueError"
  | .notTable _ => "AttributeError"

def Fault.message : Fault → String
  | .encoding fault => fault.message
  | .digits count => Literal.digitsMessage count
  | .notTable kind => "'" ++ fullName kind ++ "' object has no attribute 'get'"

/-- The version in the project table of a document, if the table is that of this project. -/
def ofDocument (es : Entries) : Except Fault (Option Value) :=
  match es.get? "project" with
  | none => .ok none
  | some (.map project) =>
    match Entries.get? project "name" with
    | some (.atom (.scalar (.text name))) =>
      .ok (if name = distribution then Entries.get? project "version" else none)
    | _ => .ok none
  | some v => .error (.notTable v.kind)

/-- The version that the octets of a project file tell. -/
def ofProject (octets : List UInt8) : Except Fault (Option Value) :=
  match Text.Utf8.decode octets with
  | .error fault => .error (.encoding fault)
  | .ok cs =>
    match Toml.parse cs with
    | .ok es => ofDocument es
    | .error .malformed => .ok none
    | .error (.digits count) => .error (.digits count)

/-- The version of a checkout whose project file may be missing. -/
def ofCheckout (project : Option (List UInt8)) : Except Fault (Option Value) :=
  match project with
  | none => .ok none
  | some octets => ofProject octets

/-- An empty value tells no version. -/
def isEmpty : Value → Bool
  | .list [] | .map [] => true
  | .list _ | .map _ => false
  | v => v.isVoid

/-- The version: that of the installed distribution, or of the checkout, or the unknown one. -/
def current (installed : Option String) (project : Option (List UInt8)) : Except Fault Value :=
  match installed with
  | some version => .ok (.text version)
  | none => do
    match ← ofCheckout project with
    | some v => return if isEmpty v then .text unknown else v
    | none => return .text unknown

end DesignTokens.Version
