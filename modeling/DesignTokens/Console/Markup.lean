import DesignTokens.Console.Emoji
import DesignTokens.Console.Style
import DesignTokens.Console.Terminal

/-! # Console markup

Text with tags in brackets, as the console reads it. Tags set styles or name handlers and are not
shown; a backslash in front of a tag makes it text. A closing tag has to end a tag that is open,
and the arguments of a handler have to be a literal. Between the tags emoji may stand by name. -/
namespace DesignTokens.Console

/-- A stretch of markup: text, or the inside of a tag with the index of its bracket. -/
inductive Stretch
  | text (cs : List Letter)
  | tag (cs : List Letter) (index : Nat)
  deriving DecidableEq, Repr

def startsTag (c : Letter) : Bool :=
  ('a'.toNat ≤ c.code && c.code ≤ 'z'.toNat) || c = '#' || c = '/' || c = '@'

/-- The inside of a tag and what follows it; `cs` starts behind the opening bracket. No other
bracket opens before the closing one. -/
def tagInside? (cs : List Letter) : Option (List Letter × List Letter) :=
  match cs with
  | [] => none
  | c :: more =>
    if startsTag c then
      let inside := more.takeWhile fun c : Letter => c ≠ '[' && c ≠ ']'
      match more.drop inside.length with
      | .char ']' :: rest => some (c :: inside, rest)
      | _ => none
    else none

/-- A tag with the backslashes in front of it: their number, the inside and the rest. -/
def tagAhead? (cs : List Letter) : Option (Nat × List Letter × List Letter) :=
  let slashes := (cs.takeWhile (· = .char '\\')).length
  match cs.drop slashes with
  | .char '[' :: more => (tagInside? more).map fun t => (slashes, t.1, t.2)
  | _ => none

/-- Two backslashes in front of a tag stand for one, and one that is left makes the tag text. -/
def tagStretches (slashes : Nat) (inside : List Letter) (index : Nat) : List Stretch :=
  (if slashes < 2 then [] else [.text (List.replicate (slashes / 2) (.char '\\'))]) ++
    [if slashes % 2 = 1 then .text (.char '[' :: inside ++ [.char ']'])
      else .tag inside (index + slashes)]

/-- The stretches of markup; `text` is what has been read since the last tag, the latest first, and
`index` counts the characters in front of what is left. -/
def stretches : Nat → List Letter → List Letter → Nat → List Stretch
  | 0, _, text, _ => flush text
  | fuel + 1, cs, text, index =>
    match tagAhead? cs with
    | some (slashes, inside, rest) =>
      flush text ++ tagStretches slashes inside index ++
        stretches fuel rest [] (index + slashes + inside.length + 2)
    | none =>
      match cs with
      | [] => flush text
      | c :: rest => stretches fuel rest (c :: text) (index + 1)
where
  flush (text : List Letter) : List Stretch := if text.isEmpty then [] else [.text text.reverse]

/-- The bracket of an escape that is part of no tag. -/
def unescape : List Letter → List Letter
  | [] => []
  | .char '\\' :: .char '[' :: rest => .char '[' :: unescape rest
  | c :: rest => c :: unescape rest

/-- Control characters that the console never writes. -/
def isDropped (c : Letter) : Bool :=
  c = '\x07' || c = '\x08' || c = '\x0b' || c = '\x0c' || c = '\r'

/-- A closing tag that names a style which is not open, or that stands where none is open, and
arguments of a handler that are no literal: the part that is read and the whole. -/
inductive MarkupError
  | unopened (tag : Text) (index : Nat)
  | nothingOpen (index : Nat)
  | arguments (part whole : Text) (fault : Arguments.Fault)
  deriving DecidableEq, Repr

def MarkupError.message : MarkupError → Text
  | .unopened tag index =>
    "closing tag '[" ++ tag ++ "]' at position " ++ toString index ++ " doesn't match any open tag"
  | .nothingOpen index =>
    "closing tag '[/]' at position " ++ toString index ++ " has nothing to close"
  | .arguments part whole (.form message) =>
    "error parsing " ++ Text.quote part ++ " in " ++ Text.quote whole ++ "; " ++ message
  | .arguments _ whole (.value message) =>
    "error parsing " ++ Text.quote whole ++ "; " ++ message

/-- A tag that is open: its style or the name of its handler, and its parameters. -/
structure OpenTag where
  name : Text
  parameters : List Letter
  deriving DecidableEq, Repr

/-- The name of a tag, without its parameters. -/
def tagName (inside : List Letter) : List Letter := inside.takeWhile (· ≠ .char '=')

def OpenTag.ofInside (inside : List Letter) : OpenTag :=
  let name := tagName inside
  ⟨Style.normal name, inside.drop (name.length + 1)⟩

/-- What a handler cannot be called with. -/
def OpenTag.fault? (terminal : Terminal) (t : OpenTag) : Option MarkupError :=
  if t.name.toList.head? = some '@' && !t.parameters.isEmpty then
    let part : Text := ⟨Arguments.literal (Text.stripped Text.isBlank t.parameters)⟩
    (terminal.argumentFault? part).map (.arguments part ⟨t.parameters⟩)
  else none

/-- Ends a tag, whose arguments are read only then. -/
def closeTag (terminal : Terminal) (t : OpenTag) (others : List OpenTag) :
    Except MarkupError (List OpenTag) :=
  match t.fault? terminal with
  | some e => .error e
  | none => .ok others

/-- The tags that stay open behind a tag; the latest is the first. -/
def applyTag (terminal : Terminal) (opened : List OpenTag) (inside : List Letter) (index : Nat) :
    Except MarkupError (List OpenTag) :=
  match tagName inside with
  | .char '/' :: name =>
    if (Text.stripped Text.isBlank name).isEmpty then
      match opened with
      | [] => .error (.nothingOpen index)
      | t :: rest => closeTag terminal t rest
    else
      let style := Style.normal (Text.stripped Text.isBlank name)
      match opened.find? fun t => t.name = style with
      | some t => closeTag terminal t (opened.erase t)
      | none => .error (.unopened ⟨inside⟩ index)
  | _ => .ok (.ofInside inside :: opened)

/-- What is shown of a stretch of text. -/
def shownText (cs : List Letter) : List Letter :=
  let text := unescape cs
  withEmoji text.length text

def shown (terminal : Terminal) : List Stretch → List OpenTag → Except MarkupError (List Letter)
  | [], _ => .ok []
  | .text cs :: rest, opened => do return shownText cs ++ (← shown terminal rest opened)
  | .tag inside index :: rest, opened => do
    shown terminal rest (← applyTag terminal opened inside index)

/-- The text that markup shows. -/
def render (terminal : Terminal) (markup : List Letter) : Except MarkupError (List Letter) := do
  let cs ← shown terminal (stretches (markup.length + 1) markup [] 0) []
  return cs.filter fun c => !isDropped c

end DesignTokens.Console
