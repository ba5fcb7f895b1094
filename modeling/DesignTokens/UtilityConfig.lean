import DesignTokens.Lookup
import DesignTokens.Sheet

/-! # The utility configuration

The configuration of a utility class framework keeps the nesting of the document: colour ramps,
font stacks, radii and shadows are copied as they are into the part of the theme that extends the
framework's own, so that it can build its utility classes from them. -/
namespace DesignTokens.UtilityConfig

def rampNames : List Text := ["primary", "secondary", "neutral"]
def roleNames : List Text := ["sans", "heading", "mono", "display"]

/-- The entries under the given keys that are present, in the order of the keys. -/
def pick (names : List Text) (es : Entries) : Entries :=
  names.filterMap fun name => (es.get? name).map fun v => (.text name, v)

/-- Font sizes, where a mapping stands for its scalar `value`. -/
def fontSizes : Entries → Except TokenFault Entries
  | [] => .ok []
  | (k, .map es) :: rest =>
    match (Entries.get? es valueKey).bind Value.scalar? with
    | some s => (fontSizes rest).map ((k, .scalar s) :: ·)
    | none => do
      let key ← written k.render?
      .error (.malformed ("typography-fontSize-" ++ key) .fontSizeValue)
  | e :: rest => (fontSizes rest).map (e :: ·)

/-- An entry that is there only if the value is present and not null. -/
def present (name : Text) : Option Value → Entries
  | none | some (.atom .null) => []
  | some v => [(.text name, v)]

/-- The ramps, then the semantic colours; a semantic colour replaces the ramp of its name. -/
def colors (doc : Document) (ramps : Entries) : Entries :=
  (pick rampNames ramps).putAll (((doc.lookup "colors.semantic").bind Value.entries?).getD [])

/-- The configuration as a value. -/
def ofDocument (doc : Document) : Except TokenFault Value := do
  let ramps ← doc.requireMapping "colors"
  let fonts ← doc.requireMapping "typography.fontFamily"
  let sizes ← match (doc.lookup "typography.fontSize").bind Value.entries? with
    | some es => (fontSizes es).map fun sizes => [(Atom.text "fontSize", Value.map sizes)]
    | none => .ok []
  let extend : Entries :=
    [(.text "colors", .map [(.text "prsm", .map (colors doc ramps))]),
      (.text "fontFamily", .map (pick roleNames fonts))] ++ sizes ++
      present "borderRadius" (doc.lookup "borderRadius") ++
      present "boxShadow" (doc.lookup "shadows")
  return .map [(.text "theme", .map [(.text "extend", .map extend)])]

/-- The comment at the head of the module tells how to load it. -/
def header : List String :=
  ["PRSMTECH Tailwind CSS Configuration",
    "Generated from design tokens - do not edit",
    "",
    "Import this in your tailwind.config.js:",
    "",
    "const prsmTheme = require('./themes/prsmtech/dist/config.js');",
    "",
    "module.exports = \x7b",
    "  theme: \x7b",
    "    extend: \x7b",
    "      ...prsmTheme.theme.extend",
    "    \x7d",
    "  \x7d",
    "\x7d"]

/-- The configuration module around the text of the configuration. -/
def moduleText (json : List Letter) : Text :=
  Sheet.bannerText header ++ "\nmodule.exports = " ++ Text.ofList json ++ ";\n"

/-- The configuration module of a document. -/
def generate (doc : Document) : Except Failure Text :=
  match ofDocument doc with
  | .error fault => .error (.ofFault fault)
  | .ok config =>
    match Json.write config with
    | .error r => .error (.ofWriting r)
    | .ok json => .ok (moduleText json)

end DesignTokens.UtilityConfig
