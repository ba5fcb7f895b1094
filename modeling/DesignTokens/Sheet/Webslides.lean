import DesignTokens.Sheet.Slidev

/-! # The WebSlides style sheet

The sections, utilities for backgrounds, text colours and grids, the card, the navigation and the
counter. -/
namespace DesignTokens.Sheet

/-- A grid of equal columns. -/
def columns (count gap : String) : List Line :=
  [fixed "display" "grid", fixed "grid-template-columns" ("repeat(" ++ count ++ ", 1fr)"),
    token "gap" gap]

def webslides (padding border : Text) : Sheet :=
  [.banner ["PRSMTECH WebSlides Theme", "Generated from design tokens - do not edit"],
    .load "./base.css",
    titled "WebSlides base overrides" ["#webslides"]
      [token "font-family" "typography-fontFamily-sans",
       token "font-size" "typography-fontSize-lg", token "color" "slide-text"],
    rule ["#webslides section"]
      [token "background" "slide-background", fixed "padding" padding],
    rule ["#webslides h1", "#webslides h2", "#webslides h3", "#webslides h4"]
      [token "font-family" "typography-fontFamily-heading",
       token "font-weight" "typography-fontWeight-bold", token "color" "slide-heading",
       token "margin-bottom" "spacing-md"],
    rule ["#webslides h1"]
      [token "font-size" "typography-fontSize-6xl",
       token "line-height" "typography-lineHeight-tight"],
    rule ["#webslides h2"]
      [token "font-size" "typography-fontSize-4xl"],
    rule ["#webslides h3"]
      [token "font-size" "typography-fontSize-3xl"],
    rule ["#webslides p"]
      [token "line-height" "typography-lineHeight-relaxed", token "margin-bottom" "spacing-md"],
    rule ["#webslides a"]
      [token "color" "slide-link", fixed "text-decoration" "none",
       fixed "border-bottom" "2px solid transparent",
       fixed "transition" ("all " ++ reference "transitions-duration-fast")],
    rule ["#webslides a:hover"]
      [token "color" "slide-linkHover", token "border-bottom-color" "slide-linkHover"],
    rule ["#webslides code", "#webslides pre"]
      [token "font-family" "typography-fontFamily-mono",
       token "font-size" "components-code-fontSize"],
    rule ["#webslides code"]
      [token "background" "slide-codeBg", token "color" "slide-codeText",
       token "padding" "components-code-padding",
       token "border-radius" "components-code-borderRadius"],
    rule ["#webslides pre"]
      [token "background" "slide-codeBg", token "padding" "spacing-md",
       token "border-radius" "borderRadius-md", fixed "overflow-x" "auto",
       fixed "margin" (reference "spacing-md" ++ " 0")],
    rule ["#webslides pre code"]
      [fixed "background" "transparent", fixed "padding" "0"],
    rule ["#webslides blockquote"]
      [fixed "border-left" (border ++ " solid " ++ reference "colors-primary-500"),
       token "background" "colors-primary-50", token "padding" "components-blockquote-padding",
       fixed "margin" (reference "spacing-lg" ++ " 0"), fixed "font-style" "italic"],
    rule ["#webslides ul", "#webslides ol"]
      [token "padding-left" "components-list-indentation",
       fixed "margin" (reference "spacing-md" ++ " 0")],
    rule ["#webslides li"]
      [token "margin-bottom" "spacing-2", token "line-height" "typography-lineHeight-relaxed"],
    rule ["#webslides li::marker"]
      [token "color" "components-list-bulletColor"],
    .comment "WebSlides components",
    titled "Background variations" [".bg-prsm-primary"]
      [token "background-color" "colors-primary-500", token "color" "colors-neutral-50"],
    rule [".bg-prsm-secondary"]
      [token "background-color" "colors-secondary-500", token "color" "colors-neutral-50"],
    rule [".bg-prsm-gradient"]
      [token "background" "gradients-primary", token "color" "colors-neutral-50"],
    rule [".bg-prsm-dark"]
      [token "background" "dark-background", token "color" "dark-text"],
    titled "Text colors" [".text-prsm-primary"] [token "color" "colors-primary-500"],
    rule [".text-prsm-secondary"] [token "color" "colors-secondary-500"],
    titled "Card component" [".prsm-card"]
      [token "background" "slide-background",
       fixed "border" ("1px solid " ++ reference "slide-border"),
       token "border-radius" "borderRadius-lg", token "padding" "spacing-lg",
       token "box-shadow" "shadows-md"],
    titled "Grid layouts" [".prsm-grid-2"] (columns "2" "spacing-xl"),
    rule [".prsm-grid-3"] (columns "3" "spacing-lg"),
    titled "Navigation" ["#navigation"]
      [token "background" "slide-background",
       fixed "border-top" ("1px solid " ++ reference "slide-border")],
    rule ["#navigation a"]
      [token "color" "slide-text"],
    rule ["#navigation a:hover"]
      [token "color" "colors-primary-500"],
    titled "Counter" ["#counter"]
      [token "font-family" "typography-fontFamily-mono",
       token "font-size" "typography-fontSize-sm", token "color" "slide-textMuted"]]

/-- The WebSlides style sheet of a document. -/
def generateWebslides (doc : Document) : Except TokenFault Text := do
  let padding ← doc.lookupScalar "slide.padding.webslides" (.text "80px")
  let border ← Document.quoteBorder doc
  return (webslides (← padding.css) (← border.css)).render

end DesignTokens.Sheet
