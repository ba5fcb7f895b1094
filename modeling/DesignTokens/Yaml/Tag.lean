/-! # The tags of YAML nodes

A tag says what kind of value a node stands for. -/
namespace DesignTokens.Yaml

/-- The tags that values are built for; every other tag is unknown. -/
inductive Tag
  | null | bool | int | float | timestamp | octets | text
  | seq | map | set | omap | pairs | merge | value | unknown
  deriving DecidableEq, Repr

def coreTag : List Char := "tag:yaml.org,2002:".toList

def Tag.ofText (cs : List Char) : Tag :=
  let known : List (String × Tag) :=
    [("null", .null), ("bool", .bool), ("int", .int), ("float", .float),
      ("timestamp", .timestamp), ("binary", .octets), ("str", .text), ("seq", .seq),
      ("map", .map), ("set", .set), ("omap", .omap), ("pairs", .pairs), ("merge", .merge),
      ("value", .value)]
  if coreTag.isPrefixOf cs then
    (known.lookup (String.ofList (cs.drop coreTag.length))).getD .unknown
  else .unknown

end DesignTokens.Yaml
