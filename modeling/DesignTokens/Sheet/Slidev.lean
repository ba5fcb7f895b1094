import DesignTokens.Sheet
import DesignTokens.Lookup

/-! # The Slidev style sheet

The layout, its cover and two-column variants and the brand in the footer. -/
namespace DesignTokens.Sheet

def brand : String := "PRSMTECH"

/-- The border of block quotes, the same for every framework. -/
def Document.quoteBorder (doc : Document) : Except TokenFault Scalar :=
  doc.lookupScalar "components.blockquote.borderWidth" (.text "4px")

def slidev (width height padding border : Text) : Sheet :=
  [.banner ["PRSMTECH Slidev Theme", "Generated from design tokens - do not edit"],
    .load "./base.css",
    titled "Slidev-specific overrides" [".slidev-layout"]
      [token "--slidev-theme-primary" "colors-primary-500",
       token "--slidev-theme-secondary" "colors-secondary-500",
       token "--slidev-theme-accent" "colors-primary-600", .blank,
       fixed "--slidev-slide-width" (width ++ "px"),
       fixed "--slidev-slide-height" (height ++ "px"), .blank,
       token "font-family" "typography-fontFamily-sans", token "background" "slide-background",
       token "color" "slide-text", fixed "padding" padding],
    rule [".slidev-layout h1", ".slidev-layout h2", ".slidev-layout h3"]
      [token "font-family" "typography-fontFamily-heading", token "color" "slide-heading",
       token "font-weight" "typography-fontWeight-bold"],
    rule [".slidev-layout h1"]
      [token "font-size" "typography-fontSize-5xl",
       token "line-height" "typography-lineHeight-tight", token "margin-bottom" "spacing-lg"],
    rule [".slidev-layout h2"]
      [token "font-size" "typography-fontSize-3xl", token "margin-bottom" "spacing-md"],
    rule [".slidev-layout h3"]
      [token "font-size" "typography-fontSize-2xl", token "margin-bottom" "spacing-sm"],
    rule [".slidev-layout p"]
      [token "font-size" "typography-fontSize-lg",
       token "line-height" "typography-lineHeight-relaxed", token "color" "slide-text"],
    rule [".slidev-layout a"]
      [token "color" "slide-link", fixed "text-decoration" "none",
       fixed "transition" ("color " ++ reference "transitions-duration-fast")],
    rule [".slidev-layout a:hover"]
      [token "color" "slide-linkHover", fixed "text-decoration" "underline"],
    rule [".slidev-layout code:not(.shiki)"]
      [token "font-family" "typography-fontFamily-mono",
       token "font-size" "components-code-fontSize", token "background" "slide-codeBg",
       token "color" "slide-codeText", token "padding" "components-code-padding",
       token "border-radius" "components-code-borderRadius"],
    rule [".slidev-layout blockquote"]
      [fixed "border-left" (border ++ " solid " ++ reference "components-blockquote-borderColor"),
       token "background" "colors-primary-50", token "padding" "components-blockquote-padding",
       fixed "margin" (reference "spacing-md" ++ " 0"), fixed "font-style" "italic"],
    rule [".slidev-layout ul", ".slidev-layout ol"]
      [token "padding-left" "components-list-indentation",
       fixed "margin" (reference "spacing-sm" ++ " 0")],
    rule [".slidev-layout li"]
      [token "margin-bottom" "spacing-2"],
    rule [".slidev-layout li::marker"]
      [token "color" "components-list-bulletColor"],
    titled "Cover slide" [".slidev-layout.cover"]
      [token "background" "gradients-primary", token "color" "colors-neutral-50"],
    rule [".slidev-layout.cover h1"]
      [token "color" "colors-neutral-50"],
    titled "Two-column layout" [".slidev-layout.two-column"]
      [fixed "display" "grid", fixed "grid-template-columns" "1fr 1fr", token "gap" "spacing-xl"],
    titled "PRSMTECH brand footer" [".slidev-layout::after"]
      [fixed "content" ("'" ++ brand ++ "'"), fixed "position" "fixed", fixed "bottom" "20px",
       fixed "right" "40px", token "font-family" "typography-fontFamily-heading",
       token "font-size" "typography-fontSize-sm",
       token "font-weight" "typography-fontWeight-bold", token "color" "colors-primary-500",
       fixed "opacity" "0.6"]]

/-- The Slidev style sheet of a document. -/
def generateSlidev (doc : Document) : Except TokenFault Text := do
  let width ← doc.lookupScalar "slide.dimensions.slidev.width" (.int 980)
  let height ← doc.lookupScalar "slide.dimensions.slidev.height" (.int 552)
  let padding ← doc.lookupScalar "slide.padding.slidev" (.text "40px")
  let border ← Document.quoteBorder doc
  return (slidev (← width.css) (← height.css) (← padding.css) (← border.css)).render

end DesignTokens.Sheet
