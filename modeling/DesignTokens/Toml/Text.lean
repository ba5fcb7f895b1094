import DesignTokens.Json.Reader

/-! # Strings and keys of TOML

Strings between one or three marks, literal or with escapes, and dotted keys. Every reader starts
at the first character of its part and gives the rest of the text behind it. -/
namespace DesignTokens.Toml

/-- A text is malformed, or a whole number in it has too many digits to be converted. -/
inductive Fault
  | malformed
  | digits (count : Nat)
  deriving DecidableEq, Repr

def malformed {α : Type} : Except Fault α := .error .malformed

def isBlank (c : Char) : Bool := c = ' ' || c = '\t'

def isBlankOrLine (c : Char) : Bool := isBlank c || c = '\n'

def skipBlanks (cs : List Char) : List Char := cs.dropWhile isBlank

/-- Control characters, which may stand nowhere; a tab is none, a line end is one. -/
def isControl (c : Char) : Bool := (c.toNat < 0x20 && c ≠ '\t') || c = '\x7f'

/-- The control characters that a string of several lines may not hold. -/
def isControlInLines (c : Char) : Bool := isControl c && c ≠ '\n'

def startsWith (word : List Char) (cs : List Char) : Bool := word.isPrefixOf cs

/-- The text up to a delimiter, which has to come before any forbidden character. -/
def upTo (delimiter : List Char) (forbidden : Char → Bool) :
    List Char → Except Fault (List Char × List Char)
  | [] => malformed
  | c :: rest =>
    if startsWith delimiter (c :: rest) then .ok ([], (c :: rest).drop delimiter.length)
    else if forbidden c then malformed
    else do
      let (cs, after) ← upTo delimiter forbidden rest
      return (c :: cs, after)

def simpleEscapes : List (Char × Char) :=
  [('b', '\x08'), ('t', '\t'), ('n', '\n'), ('f', '\x0c'), ('r', '\r'), ('"', '"'), ('\\', '\\')]

/-- A character written by the digits of its code point. -/
def codePoint (width : Nat) (cs : List Char) : Except Fault (List Char × List Char) :=
  let digits := cs.take width
  match Json.hexNumber? digits with
  | none => malformed
  | some n =>
    if digits.length < width ∨ ¬ n.isValidChar then malformed
    else .ok ([Char.ofNat n], cs.drop width)

/-- What an escape stands for; `cs` starts behind the backslash. Within several lines an escaped
line end swallows the blanks around it. -/
def escape (lines : Bool) (cs : List Char) : Except Fault (List Char × List Char) :=
  match cs with
  | [] => malformed
  | c :: rest =>
    if lines && isBlankOrLine c then
      match skipBlanks cs with
      | [] => .ok ([], [])
      | '\n' :: after => .ok ([], after.dropWhile isBlankOrLine)
      | _ => malformed
    else if c = 'u' then codePoint 4 rest
    else if c = 'U' then codePoint 8 rest
    else
      match simpleEscapes.lookup c with
      | some e => .ok ([e], rest)
      | none => malformed

/-- The inside of a string with escapes and its closing marks. -/
def basicBody (lines : Bool) : Nat → List Char → Except Fault (List Char × List Char)
  | 0, _ => malformed
  | fuel + 1, cs =>
    match cs with
    | [] => malformed
    | c :: rest =>
      if c = '"' && (!lines || startsWith ['"', '"'] rest) then
        .ok ([], if lines then rest.drop 2 else rest)
      else if c = '\\' then do
        let (e, rest) ← escape lines rest
        let (more, after) ← basicBody lines fuel rest
        return (e ++ more, after)
      else if (if lines then isControlInLines c else isControl c) then malformed
      else do
        let (more, after) ← basicBody lines fuel rest
        return (c :: more, after)

def basicString (cs : List Char) : Except Fault (List Char × List Char) :=
  basicBody false (cs.length + 1) (cs.drop 1)

def literalString (cs : List Char) : Except Fault (List Char × List Char) :=
  upTo ['\''] isControl (cs.drop 1)

/-- A string of several lines. A line end behind the opening marks does not count, and one or two
more marks behind the closing ones belong to the text. -/
def linesString (mark : Char) (cs : List Char) : Except Fault (List Char × List Char) := do
  let cs := cs.drop 3
  let cs := if cs.head? = some '\n' then cs.drop 1 else cs
  let (text, rest) ←
    if mark = '"' then basicBody true (cs.length + 1) cs
    else upTo (List.replicate 3 mark) isControlInLines cs
  let extra := (rest.take 2).takeWhile (· = mark)
  return (text ++ extra, rest.drop extra.length)

def isBareKey (c : Char) : Bool := c.isAlphanum || c = '-' || c = '_'

def startsKey (c : Char) : Bool := isBareKey c || c = '"' || c = '\''

def keyPart (cs : List Char) : Except Fault (String × List Char) := do
  match cs with
  | '"' :: _ =>
    let (text, rest) ← basicString cs
    return (String.ofList text, rest)
  | '\'' :: _ =>
    let (text, rest) ← literalString cs
    return (String.ofList text, rest)
  | _ =>
    let name := cs.takeWhile isBareKey
    if name.isEmpty then malformed else return (String.ofList name, cs.dropWhile isBareKey)

/-- Parts of a key between dots, with blanks around them. -/
def keyParts : Nat → List Char → Except Fault (List String × List Char)
  | 0, _ => malformed
  | fuel + 1, cs => do
    let (part, rest) ← keyPart cs
    match skipBlanks rest with
    | '.' :: rest =>
      let (more, rest) ← keyParts fuel (skipBlanks rest)
      return (part :: more, rest)
    | rest => return ([part], rest)

def key (cs : List Char) : Except Fault (List String × List Char) := keyParts (cs.length + 1) cs

end DesignTokens.Toml
