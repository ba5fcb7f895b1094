import DesignTokens.Flatten

/-! # Categories

A flat token belongs to the section of the base style sheet whose word its path starts with. -/
namespace DesignTokens

inductive Category
  | colors
  | typography
  | spacing
  | bordersShadows
  | transitions
  | other
  deriving DecidableEq, Repr

namespace Category

/-- All categories in the order of the sections. -/
def all : List Category := [.colors, .typography, .spacing, .bordersShadows, .transitions, .other]

def name : Category → String
  | .colors => "colors"
  | .typography => "typography"
  | .spacing => "spacing"
  | .bordersShadows => "borders-shadows"
  | .transitions => "transitions"
  | .other => "other"

def title : Category → String
  | .colors => "Colors"
  | .typography => "Typography"
  | .spacing => "Spacing"
  | .bordersShadows => "Borders & Shadows"
  | .transitions => "Transitions"
  | .other => "Other"

/-- The words that put a path into a category, tried in order. -/
def rules : List (String × Category) :=
  [("colors", .colors), ("slide", .colors), ("dark", .colors), ("typography", .typography),
    ("font", .typography), ("spacing", .spacing), ("border", .bordersShadows),
    ("shadow", .bordersShadows), ("transition", .transitions)]

def startsWith (word path : Text) : Bool := word.toList.isPrefixOf path.toList

def ofPath (path : Text) : Category :=
  match rules.find? fun r => startsWith r.1 path with
  | some (_, category) => category
  | none => .other

end Category

/-- The custom property that carries a token. -/
def variableName (path : Text) : Text := "--prsm-" ++ path

/-- A reference to the custom property of a token. -/
def reference (path : Text) : Text := "var(" ++ variableName path ++ ")"

/-- A value in a declaration: a double that is a whole number is written as one. -/
def Value.css? (v : Value) : Option Text :=
  match v with
  | .atom (.scalar (.float x)) =>
    some (match x.toInt? with | some n => intText n | none => plain.write x : String)
  | v => v.render?

/-- A scalar in a declaration, unless it has too many digits. -/
def Scalar.css (s : Scalar) : Except TokenFault Text := written (Value.scalar s).css?

/-- The declaration of a token whose value has the given text. -/
def declaration (path text : Text) : Text := variableName path ++ ": " ++ text ++ ";"

/-- Paths with the texts of their values. -/
abbrev Declarations := List (Text × Text)

namespace Declarations

/-- The declarations of paths with their values, unless a number has too many digits. -/
def ofValues? (entries : List (Text × Value)) : Option Declarations :=
  entries.mapM fun e => e.2.css?.map (e.1, ·)

/-- The declarations that belong to a category, in order. -/
def inCategory (ds : Declarations) (category : Category) : Declarations :=
  ds.filter fun d => Category.ofPath d.1 = category

/-- The declarations of every category. -/
def buckets (ds : Declarations) : List (Category × List Text) :=
  Category.all.map fun c => (c, (ds.inCategory c).map fun d => declaration d.1 d.2)

end Declarations

/-- The declarations of a flat map. -/
def FlatMap.declarations (flat : FlatMap) : Except TokenFault Declarations :=
  written (Declarations.ofValues? (flat.map fun e => (e.1, .scalar e.2)))

end DesignTokens
