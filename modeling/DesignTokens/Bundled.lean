import DesignTokens.Json.Writer
import DesignTokens.Text.Encoding

/-! # The bundled theme

The token document that is used when no other one is given. -/
namespace DesignTokens.Bundled

def group (entries : List (String × Value)) : Value :=
  .map (entries.map fun e => (.text e.1, e.2))

def names (fonts : List Text) : Value := .list (fonts.map .text)

def colors : Value :=
  group [
    ("primary", group [
      ("50", .text "#e6f0ff"), ("100", .text "#b3d1ff"), ("200", .text "#80b3ff"),
      ("300", .text "#4d94ff"), ("400", .text "#1a75ff"), ("500", .text "#0057e6"),
      ("600", .text "#0046b3"), ("700", .text "#003580"), ("800", .text "#00244d"),
      ("900", .text "#00131a"), ("DEFAULT", .text "#0057e6")]),
    ("secondary", group [
      ("50", .text "#f0e6ff"), ("100", .text "#d1b3ff"), ("200", .text "#b380ff"),
      ("300", .text "#944dff"), ("400", .text "#751aff"), ("500", .text "#5c00e6"),
      ("600", .text "#4900b3"), ("700", .text "#370080"), ("800", .text "#24004d"),
      ("900", .text "#12001a"), ("DEFAULT", .text "#5c00e6")]),
    ("neutral", group [
      ("50", .text "#f8f9fa"), ("100", .text "#f1f3f5"), ("200", .text "#e9ecef"),
      ("300", .text "#dee2e6"), ("400", .text "#ced4da"), ("500", .text "#adb5bd"),
      ("600", .text "#6c757d"), ("700", .text "#495057"), ("800", .text "#343a40"),
      ("900", .text "#212529"), ("DEFAULT", .text "#6c757d")]),
    ("semantic", group [
      ("success", group [
        ("light", .text "#d4edda"), ("DEFAULT", .text "#28a745"), ("dark", .text "#1e7e34")]),
      ("warning", group [
        ("light", .text "#fff3cd"), ("DEFAULT", .text "#ffc107"), ("dark", .text "#d39e00")]),
      ("error", group [
        ("light", .text "#f8d7da"), ("DEFAULT", .text "#dc3545"), ("dark", .text "#bd2130")]),
      ("info", group [
        ("light", .text "#d1ecf1"), ("DEFAULT", .text "#17a2b8"), ("dark", .text "#117a8b")])])]

def slide : Value :=
  group [
    ("$description", .text "Light slide surface colours"), ("background", .text "#ffffff"),
    ("backgroundAlt", .text "#f8f9fa"), ("text", .text "#212529"),
    ("textMuted", .text "#6c757d"), ("heading", .text "#00244d"), ("link", .text "#0057e6"),
    ("linkHover", .text "#0046b3"), ("border", .text "#dee2e6"), ("codeBg", .text "#f1f3f5"),
    ("codeText", .text "#343a40"),
    ("padding", group [
      ("slidev", .text "40px"), ("reveal", .text "40px 80px"), ("webslides", .text "80px")]),
    ("dimensions", group [
      ("slidev", group [
        ("width", .int 980), ("height", .int 552)]),
      ("reveal", group [
        ("width", .int 960), ("height", .int 700)])])]

def dark : Value :=
  group [
    ("$description", .text "Dark slide surface colours"), ("background", .text "#0d1117"),
    ("backgroundAlt", .text "#161b22"), ("text", .text "#e6edf3"),
    ("textMuted", .text "#8b949e"), ("heading", .text "#ffffff"), ("link", .text "#4d94ff"),
    ("linkHover", .text "#80b3ff"), ("border", .text "#30363d"), ("codeBg", .text "#161b22"),
    ("codeText", .text "#e6edf3")]

def typography : Value :=
  group [
    ("fontFamily", group [
      ("sans", names ["Inter", "Geist", "system-ui", "sans-serif"]),
      ("heading", names ["Space Grotesk", "Geist", "system-ui", "sans-serif"]),
      ("mono", names ["Maple Mono", "Geist Mono", "Fira Code", "ui-monospace", "monospace"]),
      ("display", names ["Space Grotesk", "Inter", "sans-serif"])]),
    ("fontSize", group [
      ("xs", .text "0.75rem"), ("sm", .text "0.875rem"), ("base", .text "1rem"),
      ("lg", .text "1.125rem"), ("xl", .text "1.25rem"), ("2xl", .text "1.5rem"),
      ("3xl", .text "1.875rem"), ("4xl", .text "2.25rem"),
      ("5xl", group [
        ("value", .text "3rem"), ("lineHeight", .text "1.1")]),
      ("6xl", group [
        ("value", .text "3.75rem"), ("lineHeight", .text "1.05")]),
      ("7xl", group [
        ("value", .text "4.5rem"), ("lineHeight", .text "1")])]),
    ("fontWeight", group [
      ("light", .int 300), ("normal", .int 400), ("medium", .int 500), ("semibold", .int 600),
      ("bold", .int 700)]),
    ("lineHeight", group [
      ("tight", .float (.ofDecimal false 12 (-1))),
      ("normal", .float (.ofDecimal false 15 (-1))),
      ("relaxed", .float (.ofDecimal false 175 (-2)))]),
    ("letterSpacing", group [
      ("tight", .text "-0.025em"), ("normal", .text "0"), ("wide", .text "0.025em")])]

def spacing : Value :=
  group [
    ("0", .text "0"), ("1", .text "0.25rem"), ("2", .text "0.5rem"), ("3", .text "0.75rem"),
    ("4", .text "1rem"), ("6", .text "1.5rem"), ("8", .text "2rem"), ("xs", .text "0.25rem"),
    ("sm", .text "0.5rem"), ("md", .text "1rem"), ("lg", .text "1.5rem"), ("xl", .text "2rem"),
    ("2xl", .text "3rem")]

def borderRadius : Value :=
  group [
    ("none", .text "0"), ("sm", .text "0.25rem"), ("DEFAULT", .text "0.5rem"),
    ("md", .text "0.75rem"), ("lg", .text "1rem"), ("xl", .text "1.5rem"), ("2xl", .text "2rem"),
    ("full", .text "9999px")]

def shadows : Value :=
  group [
    ("none", .text "none"), ("sm", .text "0 1px 2px 0 rgba(0, 0, 0, 0.05)"),
    ("DEFAULT", .text "0 1px 3px 0 rgba(0, 0, 0, 0.1), 0 1px 2px 0 rgba(0, 0, 0, 0.06)"),
    ("md", .text "0 4px 6px -1px rgba(0, 0, 0, 0.1), 0 2px 4px -1px rgba(0, 0, 0, 0.06)"),
    ("lg", .text "0 10px 15px -3px rgba(0, 0, 0, 0.1), 0 4px 6px -2px rgba(0, 0, 0, 0.05)"),
    ("xl", .text "0 20px 25px -5px rgba(0, 0, 0, 0.1), 0 10px 10px -5px rgba(0, 0, 0, 0.04)"),
    ("2xl", .text "0 25px 50px -12px rgba(0, 0, 0, 0.25)"),
    ("inner", .text "inset 0 2px 4px 0 rgba(0, 0, 0, 0.06)")]

def transitions : Value :=
  group [
    ("duration", group [
      ("fast", .text "150ms"), ("normal", .text "300ms"), ("slow", .text "500ms")]),
    ("timing", group [
      ("ease", .text "cubic-bezier(0.4, 0, 0.2, 1)"),
      ("easeIn", .text "cubic-bezier(0.4, 0, 1, 1)"),
      ("easeOut", .text "cubic-bezier(0, 0, 0.2, 1)")])]

def gradients : Value :=
  group [
    ("primary", .text "linear-gradient(135deg, #0057e6 0%, #5c00e6 100%)"),
    ("secondary", .text "linear-gradient(135deg, #5c00e6 0%, #0057e6 100%)"),
    ("subtle", .text "linear-gradient(180deg, #f8f9fa 0%, #e9ecef 100%)")]

def components : Value :=
  group [
    ("code", group [
      ("fontSize", .text "0.875em"), ("lineHeight", .float (.ofDecimal false 16 (-1))),
      ("padding", .text "0.2em 0.4em"), ("borderRadius", .text "0.25rem")]),
    ("blockquote", group [
      ("borderWidth", .text "4px"), ("borderColor", .text "#0057e6"),
      ("padding", .text "1rem 1.5rem")]),
    ("list", group [
      ("indentation", .text "1.5rem"), ("bulletColor", .text "#0057e6")]),
    ("table", group [
      ("headerBackground", .text "#f1f3f5"), ("cellPadding", .text "0.75rem 1rem"),
      ("borderColor", .text "#dee2e6")])]

def document : Document :=
  [(.text "$schema", .text "https://design-tokens.github.io/community-group/format/"),
    (.text "$description",
      .text "PRSMTECH design tokens - single source of truth for all presentation themes"),
    (.text "colors", colors),
    (.text "slide", slide),
    (.text "dark", dark),
    (.text "typography", typography),
    (.text "spacing", spacing),
    (.text "borderRadius", borderRadius),
    (.text "shadows", shadows),
    (.text "transitions", transitions),
    (.text "gradients", gradients),
    (.text "components", components)]

/-- The document as the octets of its file. -/
def octets : List UInt8 :=
  match Json.write (.map document) with
  | .ok letters => (Text.encode ⟨letters⟩).toOption.getD []
  | .error _ => []

end DesignTokens.Bundled
