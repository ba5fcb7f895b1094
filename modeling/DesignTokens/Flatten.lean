import DesignTokens.Error
import DesignTokens.Value.Render

/-! # Flattening

Flattening turns a nested token document into a flat map from dash-joined paths to scalars. Every
nested mapping is classified before it is entered: a mapping with a scalar `value` collapses to that
scalar; one with a `DEFAULT` emits it at its own path and still emits all its entries; the mapping
under `fontFamily` emits one font stack for each role; any other emits its entries. Keys that start
with `$` are metadata and emit nothing. -/
namespace DesignTokens

/-- Paths with their scalars; a path keeps the place of its first emission and the scalar of its
last. -/
abbrev FlatMap := List (Text × Scalar)

def FlatMap.get? (flat : FlatMap) (path : Text) : Option Scalar := flat.lookup path

def FlatMap.put : FlatMap → Text → Scalar → FlatMap
  | [], path, s => [(path, s)]
  | (p, old) :: rest, path, s =>
    if p = path then (p, s) :: rest else (p, old) :: FlatMap.put rest path s

def isMetadataKey (key : Text) : Bool := key.toList.head? = some '$'

def joinPath (base key : Text) : Text := if base = "" then key else base ++ "-" ++ key

def valueKey : Text := "value"
def defaultKey : Text := "DEFAULT"
def fontFamilyKey : Text := "fontFamily"

/-- The shapes of a nested mapping, in order of precedence. -/
inductive Shape
  | valueWrapper (s : Scalar)
  | defaultable (default : Value)
  | fontFamily
  | generic

def Shape.name : Shape → String
  | .valueWrapper _ => "value_wrapper"
  | .defaultable _ => "defaultable"
  | .fontFamily => "font_family"
  | .generic => "generic"

/-- The shape of the mapping under a key. -/
def Shape.classify (key : Text) (node : Entries) : Shape :=
  match (node.get? valueKey).bind Value.scalar? with
  | some s => .valueWrapper s
  | none =>
    match node.get? defaultKey with
    | some default => .defaultable default
    | none => if key = fontFamilyKey then .fontFamily else .generic

/-- A font name, in double quotes if it holds a blank. -/
def fontName (font : Text) : Text :=
  if font.toList.any Text.isBlank then "\"" ++ font ++ "\"" else font

/-- The names of a font list in order, or the first entry that is no text. -/
def fontNames : List Value → Except Kind (List Text)
  | [] => .ok []
  | .atom (.scalar (.text font)) :: rest => (fontNames rest).map (fontName font :: ·)
  | v :: _ => .error v.kind

/-- The font stack of a list of names. -/
def fontStack (fonts : List Value) : Except Malformation Text :=
  match fontNames fonts with
  | .ok names => .ok (.intercalate ", " names)
  | .error kind => .error (.fontEntry kind)

/-- What a role of a font family emits. -/
def fontRole (fonts : Value) : Except Malformation Scalar :=
  match fonts with
  | .atom (.scalar s) => .ok s
  | .list items | .tuple items => (fontStack items).map .text
  | v => .error (.fontRole v.kind)

/-- Adds the roles of a font family. -/
def flattenFonts (path : Text) : Entries → FlatMap → Except TokenFault FlatMap
  | [], flat => .ok flat
  | (k, fonts) :: rest, flat =>
    match k.render? with
    | none => .error .overlong
    | some role =>
      if isMetadataKey role then flattenFonts path rest flat
      else
        match fontRole fonts with
        | .error cause => .error (.malformed (joinPath path role) cause)
        | .ok s => flattenFonts path rest (flat.put (joinPath path role) s)

mutual

/-- Adds the value that stands under `key` at `path`. -/
def flattenValue (key path : Text) : Value → FlatMap → Except TokenFault FlatMap
  | .atom (.scalar s), flat => .ok (flat.put path s)
  | .map node, flat =>
    match Shape.classify key node with
    | .valueWrapper s => .ok (flat.put path s)
    | .defaultable default =>
      match default.scalar? with
      | some s => flattenEntries path node (flat.put path s)
      | none => .error (.malformed (joinPath path defaultKey) .defaultNotScalar)
    | .fontFamily => flattenFonts path node flat
    | .generic => flattenEntries path node flat
  | v, _ => .error (.malformed path (.unsupported v.kind))

/-- Adds entries in document order. -/
def flattenEntries (base : Text) : List (Atom × Value) → FlatMap → Except TokenFault FlatMap
  | [], flat => .ok flat
  | (k, v) :: rest, flat =>
    match k.render? with
    | none => .error .overlong
    | some key =>
      if isMetadataKey key then flattenEntries base rest flat
      else
        match flattenValue key (joinPath base key) v flat with
        | .error fault => .error fault
        | .ok flat => flattenEntries base rest flat

end

/-- The flat map of a document whose paths continue `base`. -/
def Document.flattenUnder (base : Text) (doc : Document) : Except TokenFault FlatMap :=
  flattenEntries base doc []

/-- The flat map of a document. -/
def Document.flatten (doc : Document) : Except TokenFault FlatMap := doc.flattenUnder ""

end DesignTokens
