import DesignTokens.Text.Case
import DesignTokens.Text.Blank
import DesignTokens.Text.Pieces

/-! # Styles

Definitions of styles as they stand in console markup. The console shows no styles, but a closing
tag names the style it ends, so two definitions of one style need one normal form. -/
namespace DesignTokens.Console

/-- The names of attributes, each with the name it goes by. -/
def attributeNames : List (String × String) :=
  [("bold", "bold"), ("b", "bold"), ("dim", "dim"), ("d", "dim"), ("italic", "italic"),
    ("i", "italic"), ("underline", "underline"), ("u", "underline"), ("blink", "blink"),
    ("blink2", "blink2"), ("reverse", "reverse"), ("r", "reverse"), ("conceal", "conceal"),
    ("c", "conceal"), ("strike", "strike"), ("s", "strike"), ("underline2", "underline2"),
    ("uu", "underline2"), ("frame", "frame"), ("encircle", "encircle"), ("overline", "overline"),
    ("o", "overline")]

/-- The attributes in the order of a normal form. -/
def attributeOrder : List String :=
  ["bold", "dim", "italic", "underline", "blink", "blink2", "reverse", "conceal", "strike",
    "underline2", "frame", "encircle", "overline"]

/-- The colours that have a name. -/
def colorNames : List String :=
  ["black", "red", "green", "yellow", "blue", "magenta", "cyan", "white", "bright_black",
    "bright_red", "bright_green", "bright_yellow", "bright_blue", "bright_magenta", "bright_cyan",
    "bright_white", "grey0", "gray0", "navy_blue", "dark_blue", "blue3", "blue1", "dark_green",
    "deep_sky_blue4", "dodger_blue3", "dodger_blue2", "green4", "spring_green4", "turquoise4",
    "deep_sky_blue3", "dodger_blue1", "green3", "spring_green3", "dark_cyan", "light_sea_green",
    "deep_sky_blue2", "deep_sky_blue1", "spring_green2", "cyan3", "dark_turquoise", "turquoise2",
    "green1", "spring_green1", "medium_spring_green", "cyan2", "cyan1", "dark_red", "deep_pink4",
    "purple4", "purple3", "blue_violet", "orange4", "grey37", "gray37", "medium_purple4",
    "slate_blue3", "royal_blue1", "chartreuse4", "dark_sea_green4", "pale_turquoise4",
    "steel_blue", "steel_blue3", "cornflower_blue", "chartreuse3", "cadet_blue", "sky_blue3",
    "steel_blue1", "pale_green3", "sea_green3", "aquamarine3", "medium_turquoise", "chartreuse2",
    "sea_green2", "sea_green1", "aquamarine1", "dark_slate_gray2", "dark_magenta", "dark_violet",
    "purple", "light_pink4", "plum4", "medium_purple3", "slate_blue1", "yellow4", "wheat4",
    "grey53", "gray53", "light_slate_grey", "light_slate_gray", "medium_purple",
    "light_slate_blue", "dark_olive_green3", "dark_sea_green", "light_sky_blue3", "sky_blue2",
    "dark_sea_green3", "dark_slate_gray3", "sky_blue1", "chartreuse1", "light_green",
    "pale_green1", "dark_slate_gray1", "red3", "medium_violet_red", "magenta3", "dark_orange3",
    "indian_red", "hot_pink3", "medium_orchid3", "medium_orchid", "medium_purple2",
    "dark_goldenrod", "light_salmon3", "rosy_brown", "grey63", "gray63", "medium_purple1",
    "gold3", "dark_khaki", "navajo_white3", "grey69", "gray69", "light_steel_blue3",
    "light_steel_blue", "yellow3", "dark_sea_green2", "light_cyan3", "light_sky_blue1",
    "green_yellow", "dark_olive_green2", "dark_sea_green1", "pale_turquoise1", "deep_pink3",
    "magenta2", "hot_pink2", "orchid", "medium_orchid1", "orange3", "light_pink3", "pink3",
    "plum3", "violet", "light_goldenrod3", "tan", "misty_rose3", "thistle3", "plum2", "khaki3",
    "light_goldenrod2", "light_yellow3", "grey84", "gray84", "light_steel_blue1", "yellow2",
    "dark_olive_green1", "honeydew2", "light_cyan1", "red1", "deep_pink2", "deep_pink1",
    "magenta1", "orange_red1", "indian_red1", "hot_pink", "dark_orange", "salmon1", "light_coral",
    "pale_violet_red1", "orchid2", "orchid1", "orange1", "sandy_brown", "light_salmon1",
    "light_pink1", "pink1", "plum1", "gold1", "navajo_white1", "misty_rose1", "thistle1",
    "yellow1", "light_goldenrod1", "khaki1", "wheat1", "cornsilk1", "grey100", "gray100", "grey3",
    "gray3", "grey7", "gray7", "grey11", "gray11", "grey15", "gray15", "grey19", "gray19",
    "grey23", "gray23", "grey27", "gray27", "grey30", "gray30", "grey35", "gray35", "grey39",
    "gray39", "grey42", "gray42", "grey46", "gray46", "grey50", "gray50", "grey54", "gray54",
    "grey58", "gray58", "grey62", "gray62", "grey66", "gray66", "grey70", "gray70", "grey74",
    "gray74", "grey78", "gray78", "grey82", "gray82", "grey85", "gray85", "grey89", "gray89",
    "grey93", "gray93"]

def isHexColor : List Char → Bool
  | '#' :: digits => digits.length = 6 && digits.all fun c => c.isDigit || ('a' ≤ c && c ≤ 'f')
  | _ => false

/-- The inside of a call, for instance the number of a colour. -/
def inCall (name : String) (cs : List Char) : Option (List Char) :=
  let opening := name.toList ++ ['(']
  if opening.isPrefixOf cs && cs.getLast? = some ')' then some (cs.drop opening.length).dropLast
  else none

/-- A number of at most three digits that fits an octet. -/
def isOctet (cs : List Char) : Bool :=
  !cs.isEmpty && cs.length ≤ 3 && cs.all Char.isDigit &&
    cs.foldl (fun n c => n * 10 + (c.toNat - 48)) 0 ≤ 255

/-- A colour in lower case: by name, in hexadecimal digits, by number or by its three parts. -/
def isColor (word : String) : Bool :=
  let cs := word.toList
  word = "default" || colorNames.contains word || isHexColor cs ||
    (match inCall "color" cs with
      | some number => isOctet number
      | none => false) ||
    (match inCall "rgb" cs with
      | some parts => (Text.pieces ',' parts).length = 3 && (Text.pieces ',' parts).all isOctet
      | none => false)

/-- The colour that a word in lower case names. -/
def color? (word : Text) : Option String := do
  let name := String.ofList (← word.chars?)
  if isColor name then some name else none

/-- The attribute that a word names. -/
def attribute? (word : Text) : Option String := do
  attributeNames.lookup (String.ofList (← word.chars?))

structure Style where
  attributes : List (String × Bool)
  color : Option String
  background : Option String
  link : Option Text
  deriving DecidableEq, Repr

namespace Style

def plain : Style := ⟨[], none, none, none⟩

def setAttribute (s : Style) (name : String) (on : Bool) : Style :=
  { s with attributes := (name, on) :: s.attributes.filter fun a => a.1 ≠ name }

/-- The style that words define. -/
def ofWords : List Text → Style → Option Style
  | [], s => some s
  | word :: rest, s =>
    let w := Text.lowered word
    if w = "on" then
      match rest with
      | [] => none
      | color :: rest =>
        match color? (Text.lowered color) with
        | some name => ofWords rest { s with background := some name }
        | none => none
    else if w = "not" then
      match rest with
      | [] => none
      | name :: rest =>
        match attribute? name with
        | some canonical => ofWords rest (s.setAttribute canonical false)
        | none => none
    else if w = "link" then
      match rest with
      | [] => none
      | target :: rest => ofWords rest { s with link := some target }
    else
      match attribute? w with
      | some canonical => ofWords rest (s.setAttribute canonical true)
      | none =>
        match color? w with
        | some name => ofWords rest { s with color := some name }
        | none => none

/-- The words of a definition. -/
def words (definition : List Letter) : List Text :=
  let pieces := Text.pieces (.char ' ')
    (definition.map fun c => if Text.isBlank c then .char ' ' else c)
  (pieces.filter fun w => !w.isEmpty).map Text.ofList

def attributeWords (s : Style) : List String :=
  attributeOrder.filterMap fun name =>
    (s.attributes.lookup name).map fun on => if on then name else "not " ++ name

def text (s : Style) : Text :=
  let named := s.attributeWords ++ s.color.toList ++ (s.background.map ("on " ++ ·)).toList
  let parts := named.map Text.ofString ++ (s.link.map fun target : Text => "link " ++ target).toList
  if parts.isEmpty then "none" else .intercalate " " parts

/-- The normal form of a definition; one that defines no style is compared in lower case. -/
def normal (definition : List Letter) : Text :=
  let definition := Text.stripped Text.isBlank definition
  if definition = ("none" : Text).toList then "none"
  else
    match ofWords (words definition) plain with
    | some s => s.text
    | none => Text.lowered ⟨definition⟩

end Style

end DesignTokens.Console
