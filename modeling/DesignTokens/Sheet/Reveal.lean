import DesignTokens.Sheet.Slidev

/-! # The Reveal.js style sheet

The slides, tables, the title slide, the progress bar, the controls and the slide number. -/
namespace DesignTokens.Sheet

def codeMaxHeight : String := "400px"

def reveal (padding border : Text) : Sheet :=
  [.banner ["PRSMTECH Reveal.js Theme", "Generated from design tokens - do not edit"],
    .load "./base.css",
    titled "Reveal.js theme registration"
      ["section.has-light-background", "section.has-light-background h1",
       "section.has-light-background h2", "section.has-light-background h3",
       "section.has-light-background h4", "section.has-light-background h5",
       "section.has-light-background h6"]
      [token "color" "slide-text"],
    rule [".reveal"]
      [token "font-family" "typography-fontFamily-sans",
       token "font-size" "typography-fontSize-xl",
       token "font-weight" "typography-fontWeight-normal", token "color" "slide-text"],
    rule [".reveal .slides"]
      [fixed "text-align" "left"],
    rule [".reveal .slides section"]
      [fixed "padding" padding],
    rule [".reveal h1", ".reveal h2", ".reveal h3", ".reveal h4", ".reveal h5", ".reveal h6"]
      [fixed "margin" ("0 0 " ++ reference "spacing-md" ++ " 0"),
       token "font-family" "typography-fontFamily-heading",
       token "font-weight" "typography-fontWeight-bold",
       token "line-height" "typography-lineHeight-tight", token "color" "slide-heading",
       fixed "text-transform" "none", fixed "word-wrap" "break-word"],
    rule [".reveal h1"]
      [token "font-size" "typography-fontSize-5xl", fixed "text-shadow" "none"],
    rule [".reveal h2"]
      [token "font-size" "typography-fontSize-4xl"],
    rule [".reveal h3"]
      [token "font-size" "typography-fontSize-3xl"],
    rule [".reveal h4"]
      [token "font-size" "typography-fontSize-2xl"],
    rule [".reveal p"]
      [fixed "margin" (reference "spacing-md" ++ " 0"),
       token "line-height" "typography-lineHeight-relaxed"],
    rule [".reveal a"]
      [token "color" "slide-link", fixed "text-decoration" "none",
       fixed "transition"
        ("color " ++ reference "transitions-duration-fast" ++ " " ++
          reference "transitions-timing-ease")],
    rule [".reveal a:hover"]
      [token "color" "slide-linkHover", fixed "text-shadow" "none", fixed "border" "none"],
    rule [".reveal pre"]
      [fixed "display" "block", fixed "position" "relative", fixed "width" "100%",
       fixed "margin" (reference "spacing-md" ++ " auto"), fixed "text-align" "left",
       token "font-size" "components-code-fontSize",
       token "font-family" "typography-fontFamily-mono",
       token "line-height" "components-code-lineHeight", fixed "word-wrap" "break-word",
       token "box-shadow" "shadows-md", token "background" "slide-codeBg",
       token "border-radius" "borderRadius-md"],
    rule [".reveal code"]
      [token "font-family" "typography-fontFamily-mono", fixed "text-transform" "none",
       fixed "tab-size" "2"],
    rule [".reveal pre code"]
      [fixed "display" "block", token "padding" "spacing-md", fixed "overflow" "auto",
       fixed "max-height" codeMaxHeight, fixed "word-wrap" "normal"],
    rule [".reveal blockquote"]
      [fixed "display" "block", fixed "position" "relative", fixed "width" "95%",
       fixed "margin" (reference "spacing-md" ++ " auto"),
       token "padding" "components-blockquote-padding", token "background" "colors-primary-50",
       fixed "border-left" (border ++ " solid " ++ reference "colors-primary-500"),
       fixed "font-style" "italic"],
    rule [".reveal blockquote p:first-child", ".reveal blockquote p:last-child"]
      [fixed "display" "inline-block"],
    rule [".reveal ul", ".reveal ol"]
      [fixed "display" "inline-block", fixed "text-align" "left",
       fixed "margin" ("0 0 0 " ++ reference "components-list-indentation")],
    rule [".reveal ul li", ".reveal ol li"]
      [token "margin-bottom" "spacing-2"],
    rule [".reveal ul li::marker", ".reveal ol li::marker"]
      [token "color" "components-list-bulletColor"],
    rule [".reveal table"]
      [fixed "margin" "auto", fixed "border-collapse" "collapse", fixed "border-spacing" "0"],
    rule [".reveal table th"]
      [token "font-weight" "typography-fontWeight-bold",
       token "background" "components-table-headerBackground"],
    rule [".reveal table th", ".reveal table td"]
      [fixed "text-align" "left", token "padding" "components-table-cellPadding",
       fixed "border-bottom" ("1px solid " ++ reference "components-table-borderColor")],
    titled "Title slide" [".reveal .slides > section.title-slide"]
      [token "background" "gradients-primary", token "color" "colors-neutral-50"],
    rule
      [".reveal .slides > section.title-slide h1", ".reveal .slides > section.title-slide h2"]
      [token "color" "colors-neutral-50"],
    titled "Progress bar" [".reveal .progress"]
      [fixed "background" "rgba(0, 0, 0, 0.2)", token "color" "colors-primary-500"],
    rule [".reveal .progress span"]
      [token "background" "colors-primary-500",
       fixed "transition"
        ("width " ++ reference "transitions-duration-normal" ++ " " ++
          reference "transitions-timing-ease")],
    titled "Controls" [".reveal .controls"]
      [token "color" "colors-primary-500"],
    titled "Slide number" [".reveal .slide-number"]
      [token "font-family" "typography-fontFamily-mono",
       token "font-size" "typography-fontSize-sm", token "color" "slide-textMuted",
       fixed "background-color" "transparent"]]

/-- The Reveal.js style sheet of a document. -/
def generateReveal (doc : Document) : Except TokenFault Text := do
  let padding ← doc.lookupScalar "slide.padding.reveal" (.text "40px 80px")
  let border ← Document.quoteBorder doc
  return (reveal (← padding.css) (← border.css)).render

end DesignTokens.Sheet
