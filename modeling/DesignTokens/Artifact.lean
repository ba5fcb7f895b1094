import DesignTokens.Log
import DesignTokens.Sheet.Base
import DesignTokens.Sheet.Slidev
import DesignTokens.Sheet.Reveal
import DesignTokens.Sheet.Webslides
import DesignTokens.UtilityConfig

/-! # Artifacts

A registry names generators in order. Compiling a document runs every generator on it and yields
one artifact for each, so that a failing generator leaves the others alone. -/
namespace DesignTokens

abbrev Generator := Document → Except Failure Text

/-- Generators by name; the names of a registry are distinct. -/
abbrev Registry := List (String × Generator)

/-- Names a generator: a name that is known keeps its place. -/
def Registry.put : Registry → String → Generator → Registry
  | [], name, g => [(name, g)]
  | (n, old) :: rest, name, g =>
    if n = name then (n, g) :: rest else (n, old) :: Registry.put rest name g

def Registry.ofList (items : List (String × Generator)) : Registry :=
  items.foldl (fun r item => r.put item.1 item.2) []

/-- A generator that can only find tokens malformed. -/
def sheetGenerator (generate : Document → Except TokenFault Text) : Generator := fun doc =>
  match generate doc with
  | .ok text => .ok text
  | .error fault => .error (.ofFault fault)

/-- The generators of the theme. -/
def builtin : Registry :=
  [("base", sheetGenerator Sheet.generateBase), ("slidev", sheetGenerator Sheet.generateSlidev),
    ("reveal", sheetGenerator Sheet.generateReveal),
    ("webslides", sheetGenerator Sheet.generateWebslides), ("config", UtilityConfig.generate)]

/-- The output of one generator: its text, a failure, or both if the text could not be stored. -/
structure Artifact where
  name : String
  content : Option Text
  failure : Option Failure
  deriving DecidableEq, Repr

namespace Artifact

/-- The file of an artifact. -/
def filenameOf (name : String) : String := if name = "config" then name ++ ".js" else name ++ ".css"

def filename (a : Artifact) : String := filenameOf a.name

def success (a : Artifact) : Bool := a.failure.isNone

/-- The artifact that the output of a generator makes. -/
def ofOutput (name : String) : Except Failure Text → Artifact
  | .ok text => ⟨name, some text, none⟩
  | .error failure => ⟨name, none, some failure⟩

def logLine (a : Artifact) : Log.Line :=
  match a.failure with
  | some f => ⟨.warning, .compiler, "Generator " ++ a.name ++ " failed: " ++ f.text⟩
  | none =>
    ⟨.debug, .compiler,
      "Generated " ++ a.filename ++ " (" ++ toString (a.content.getD "").length ++ " chars)"⟩

end Artifact

/-- The artifacts of one pass, in the order of the registry. -/
abbrev Compilation := List Artifact

namespace Compilation

def success (c : Compilation) : Bool := c.all Artifact.success

def failed (c : Compilation) : List Artifact := c.filter fun a => !a.success

def get? (c : Compilation) (name : String) : Option Artifact := c.find? fun a => a.name = name

def log (c : Compilation) : Log := c.map Artifact.logLine

end Compilation

/-- Runs every generator of a registry on a document. -/
def compile (registry : Registry) (doc : Document) : Compilation :=
  registry.map fun g => .ofOutput g.1 (g.2 doc)

end DesignTokens
