import DesignTokens.Category

/-! # Style sheets

A style sheet is a list of paragraphs with a blank line between any two. A rule binds properties of
its selectors, mostly to the custom properties of tokens. -/
namespace DesignTokens

namespace Sheet

/-- A line of a rule. -/
inductive Line
  | declare (property value : Text)
  | comment (text : String)
  | blank
  deriving DecidableEq, Repr

inductive Paragraph
  | banner (lines : List String)
  | load (file : String)
  | comment (text : String)
  | rule (title : Option String) (selectors : List String) (lines : List Line)
  deriving DecidableEq, Repr

/-- A property with a value of its own. -/
def fixed (property value : Text) : Line := .declare property value

/-- A property bound to a token. -/
def token (property path : Text) : Line := .declare property (reference path)

def rule (selectors : List String) (lines : List Line) : Paragraph := .rule none selectors lines

def titled (title : String) (selectors : List String) (lines : List Line) : Paragraph :=
  .rule (some title) selectors lines

def commentText (text : String) : String := "/* " ++ text ++ " */\n"

def Line.render : Line → Text
  | .declare property value => "  " ++ property ++ ": " ++ value ++ ";\n"
  | .comment text => "  " ++ commentText text
  | .blank => "\n"

/-- Every line of a banner starts with a star. -/
def bannerText (lines : List String) : String :=
  let starred := lines.map fun l => (if l = "" then " *" else " * " ++ l) ++ "\n"
  "/**\n" ++ String.join starred ++ " */\n"

def Paragraph.render : Paragraph → Text
  | .banner lines => bannerText lines
  | .load file => "@import '" ++ file ++ "';\n"
  | .comment text => commentText text
  | .rule title selectors lines =>
    (title.map commentText).getD "" ++ ",\n".intercalate selectors ++ " \x7b\n" ++
      Text.join (lines.map Line.render) ++ "\x7d\n"

end Sheet

/-- A style sheet. -/
abbrev Sheet := List Sheet.Paragraph

def Sheet.render (sheet : Sheet) : Text := .intercalate "\n" (sheet.map Sheet.Paragraph.render)

end DesignTokens
