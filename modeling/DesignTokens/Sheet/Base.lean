import DesignTokens.Sheet

/-! # The base style sheet

Every flat token is declared on the root, grouped by category in fixed order. The section of tokens
without a category of their own is there only if it has entries. A last rule binds the slide
properties to their dark counterparts under the selectors of dark mode. -/
namespace DesignTokens.Sheet

/-- A section: its comment, its declarations and a blank line. -/
def sectionLines (title : String) (ds : Declarations) : List Line :=
  .comment title :: ((ds.map fun d => fixed (variableName d.1) d.2) ++ [.blank])

/-- The sections of all categories. -/
def sections (ds : Declarations) : List Line :=
  Category.all.flatMap fun c =>
    let entries := ds.inCategory c
    if c = .other ∧ entries = [] then [] else sectionLines c.title entries

/-- The slide properties that have a dark counterpart. -/
def darkModeNames : List Text :=
  ["background", "backgroundAlt", "text", "textMuted", "heading", "link", "linkHover", "border",
    "codeBg", "codeText"]

def darkMode : Paragraph :=
  titled "Dark mode" ["[data-theme=\"dark\"]", ".dark", ":root.dark"]
    (darkModeNames.map fun name => token (variableName ("slide-" ++ name)) ("dark-" ++ name))

def base (ds : Declarations) : Sheet :=
  [.banner ["PRSMTECH Design Tokens - Base CSS Variables",
      "Generated from design tokens - do not edit"],
    rule [":root"] (sections ds),
    darkMode]

/-- The base style sheet of a document. -/
def generateBase (doc : Document) : Except TokenFault Text := do
  let flat ← doc.flatten
  return (base (← flat.declarations)).render

end DesignTokens.Sheet
