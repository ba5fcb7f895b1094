import DesignTokens.Value.Render
import DesignTokens.World

/-! # Read access

What consumers of the theme read: the document, its style sheets and variables, and inline styles.
All of it comes from the document of a store, by default the shared one, and nothing is written. -/
namespace DesignTokens

/-- The style sheets that a consumer can ask for. -/
def stylesheets : List String := ["base", "slidev", "reveal", "webslides"]

/-- A style sheet by its name in any case. -/
def stylesheet (framework : String) : Except Problem String :=
  let name := Text.lower framework
  if stylesheets.contains name then .ok name else .error (.framework framework)

/-- The variables of a document with their values. -/
def Document.variables (doc : Document) : Except TokenFault (List (Text × Scalar)) := do
  let flat ← doc.flatten
  return flat.map fun e => (variableName e.1, e.2)

/-- The colours of an inline style and the tokens that give them. -/
def inlineColors : List (String × String) :=
  [("backgroundColor", "background"), ("color", "text"), ("--heading-color", "heading"),
    ("--link-color", "link")]

def sansPath : Text := "typography.fontFamily.sans"

/-- The font of an inline style: a stack from a list of names, or a text as it is. -/
def Document.inlineFont (doc : Document) : Except TokenFault (List (String × Text)) :=
  match doc.lookup sansPath with
  | some (.list fonts) =>
    match fontStack fonts with
    | .ok stack => .ok [("fontFamily", stack)]
    | .error cause => .error (.malformed (dashed sansPath) cause)
  | some (.atom (.scalar (.text font))) => .ok [("fontFamily", font)]
  | _ => .ok []

/-- The style of a colour; a token that is missing or null has none. -/
def colorStyle (scheme : Entries) (color : String × String) :
    Except TokenFault (List (String × Text)) :=
  match scheme.get? color.2 with
  | none | some (.atom .null) => .ok []
  | some v => do return [(color.1, ← written v.render?)]

/-- Inline styles from the light or the dark group of colours. -/
def Document.inlineStyles (doc : Document) (dark : Bool) :
    Except TokenFault (List (String × Text)) := do
  let font ← doc.inlineFont
  let scheme := ((doc.lookup (if dark then "dark" else "slide")).bind Value.entries?).getD []
  let colors ← inlineColors.mapM (colorStyle scheme)
  return font ++ colors.flatten

namespace World

/-- The document of a store, by default the shared one. -/
def tokens (w : World) (store : Option Handle) : Outcome (Option Document) :=
  match store with
  | some h => w.access h Store.get
  | none => w.defaultStore.andThen fun w h => w.access h Store.get

/-- What a document gives, or a usual answer if there is none. -/
def fromTokens {α : Type} (w : World) (store : Option Handle) (usual : α)
    (read : Document → Except Failure α) : Outcome α :=
  (w.tokens store).andThen fun w doc =>
    match doc with
    | none => ⟨w, .ok usual, []⟩
    | some doc => ⟨w, (read doc).mapError .generation, []⟩

/-- The text of a style sheet, made from the document without storing it. -/
def themeCss (w : World) (framework : String) (store : Option Handle) : Outcome (Option Text) :=
  match stylesheet framework with
  | .error p => ⟨w, .error p, []⟩
  | .ok name =>
    w.fromTokens store none fun doc =>
      match builtin.lookup name with
      | some g => (g doc).map some
      | none => .ok none

def cssVariables (w : World) (store : Option Handle) : Outcome (List (Text × Scalar)) :=
  w.fromTokens store [] fun doc => doc.variables.mapError .ofFault

def inlineStyles (w : World) (dark : Bool) (store : Option Handle) :
    Outcome (List (String × Text)) :=
  w.fromTokens store [] fun doc => (doc.inlineStyles dark).mapError .ofFault

/-- The path of a style sheet in an output directory, if it is there. -/
def themePathIn (w : World) (name : String) (output : Path) : Outcome (Option Path) :=
  let path := output ++ Path.ofString (Artifact.filenameOf name)
  match w.files.contains path with
  | .error e => ⟨w, .error (.file e), []⟩
  | .ok true => ⟨w, .ok (some path), []⟩
  | .ok false =>
    ⟨w, .ok none, [⟨.warning, .access,
      "Theme CSS not found: " ++ path.text ++ ". Run 'prsm-theme' first."⟩]⟩

/-- The path of a compiled style sheet, by default in the output directory of the environment. -/
def themePath (w : World) (framework : String) (output : Option Path) : Outcome (Option Path) :=
  match stylesheet framework with
  | .error p => ⟨w, .error p, []⟩
  | .ok name =>
    match output with
    | some output => w.themePathIn name output
    | none =>
      match w.settings Settings.nothing with
      | .error p => ⟨w, .error p, []⟩
      | .ok s => w.themePathIn name s.output

end World

end DesignTokens
