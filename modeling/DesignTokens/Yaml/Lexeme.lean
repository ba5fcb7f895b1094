import DesignTokens.Yaml.Cursor
import DesignTokens.Yaml.Fault
import DesignTokens.Json.Reader
import DesignTokens.Text.Utf8

/-! # The lexemes of YAML

Names, tags, directives and the four kinds of scalars: plain, quoted once or twice, and block
scalars. Each function starts at the first character of its lexeme and gives the cursor behind the
last one. -/
namespace DesignTokens.Yaml

/-- The name behind the mark of an anchor or an alias. -/
def anchorName (cur : Cursor) : Except Fault (String × Cursor) :=
  let (name, cur) := cur.next.span isWord
  let after := cur.head
  if name.isEmpty then malformed
  else if isBlankOrEnd after || "?:,]\x7d%@\u0060".toList.contains after then
    .ok (String.ofList name, cur)
  else malformed

def isUriChar (c : Char) : Bool := isWord c || ";/?:@&=+$,.!~*'()[]".toList.contains c

/-- The octets written as escapes from here on. -/
def uriOctets : Nat → Cursor → Except Fault (List UInt8 × Cursor)
  | 0, cur => .ok ([], cur)
  | fuel + 1, cur =>
    if cur.head = '%' then
      match Json.hexNumber? [cur.peek 1, cur.peek 2] with
      | none => malformed
      | some n => do
        let (more, cur) ← uriOctets fuel (cur.skip 3)
        return (n.toUInt8 :: more, cur)
    else .ok ([], cur)

def uriFrom : Nat → Cursor → List Char → Except Fault (List Char × Cursor)
  | 0, cur, done => .ok (done, cur)
  | fuel + 1, cur, done =>
    if cur.head = '%' then do
      let (octets, cur) ← uriOctets cur.rest.length cur
      match Text.Utf8.decode octets with
      | .ok cs => uriFrom fuel cur (done ++ cs)
      | .error _ => malformed
    else
      let (run, after) := cur.span isUriChar
      if run.isEmpty then .ok (done, cur) else uriFrom fuel after (done ++ run)

def uri (cur : Cursor) : Except Fault (List Char × Cursor) := do
  let (cs, after) ← uriFrom (cur.rest.length + 1) cur []
  if after.index = cur.index then malformed else return (cs, after)

/-- A tag handle: one mark, or a name between two. -/
def tagHandle (cur : Cursor) : Except Fault (List Char × Cursor) :=
  if cur.head ≠ '!' then malformed
  else if cur.peek 1 = ' ' then .ok (['!'], cur.next)
  else
    let (name, cur) := cur.next.span isWord
    if cur.head = '!' then .ok ('!' :: name ++ ['!'], cur.next) else malformed

/-- A tag as written: with a handle, or whole. -/
structure TagText where
  handle : Option (List Char)
  suffix : List Char
  deriving DecidableEq, Repr

def tag (cur : Cursor) : Except Fault (TagText × Cursor) := do
  let (text, cur) ←
    if cur.peek 1 = '<' then do
      let (suffix, cur) ← uri (cur.skip 2)
      if cur.head = '>' then Except.ok ((⟨none, suffix⟩ : TagText), cur.next) else malformed
    else if isBlankOrEnd (cur.peek 1) then Except.ok ((⟨none, ['!']⟩ : TagText), cur.next)
    else do
      let word := cur.next.rest.takeWhile fun c => !isSpaceOrEnd c
      if word.contains '!' then
        let (handle, cur) ← tagHandle cur
        let (suffix, cur) ← uri cur
        return ((⟨some handle, suffix⟩ : TagText), cur)
      else
        let (suffix, cur) ← uri cur.next
        return ((⟨some ['!'], suffix⟩ : TagText), cur)
  if isSpaceOrEnd cur.head then return (text, cur) else malformed

inductive Directive
  | version (major : Nat)
  | handle (handle : List Char) (expansion : List Char)
  | unknown
  deriving DecidableEq, Repr

def isSpace (c : Char) : Bool := c = ' '

def number (cur : Cursor) : Except Fault (Nat × Cursor) :=
  let (digits, after) := cur.span Char.isDigit
  if digits.isEmpty then malformed
  else if maxDigits < digits.length then .error (.digits digits.length)
  else .ok (Json.decimal digits, after)

/-- The rest of a line that may hold only a comment. -/
def ignoredLine (cur : Cursor) : Except Fault Cursor :=
  let cur := (cur.skipWhile isSpace).skipComment
  if isBreakOrEnd cur.head then .ok cur.lineBreak.2 else malformed

def directive (cur : Cursor) : Except Fault (Directive × Cursor) := do
  let (name, cur) := cur.next.span isWord
  if name.isEmpty || !isSpaceOrEnd cur.head then malformed
  else
    let (d, cur) ←
      if String.ofList name = "YAML" then do
        let (major, cur) ← number (cur.skipWhile isSpace)
        if cur.head ≠ '.' then malformed
        else
          let (_, cur) ← number cur.next
          if isSpaceOrEnd cur.head then Except.ok (Directive.version major, cur) else malformed
      else if String.ofList name = "TAG" then do
        let (handle, cur) ← tagHandle (cur.skipWhile isSpace)
        if cur.head ≠ ' ' then malformed
        else
          let (expansion, cur) ← uri (cur.skipWhile isSpace)
          if isSpaceOrEnd cur.head then Except.ok (Directive.handle handle expansion, cur)
          else malformed
      else Except.ok (Directive.unknown, cur.skipWhile fun c => !isBreakOrEnd c)
    return (d, ← ignoredLine cur)

def isFlowBlank (c : Char) : Bool := c = ' ' || c = '\t'

/-- Line breaks inside quotes with the blanks between them; a document separator is refused. -/
def quotedBreaks : Nat → Cursor → Except Fault (List Char × Cursor)
  | 0, cur => .ok ([], cur)
  | fuel + 1, cur =>
    if cur.atSeparator then malformed
    else
      let cur := cur.skipWhile isFlowBlank
      match cur.lineBreak with
      | (some c, cur) => do
        let (more, cur) ← quotedBreaks fuel cur
        return (c :: more, cur)
      | (none, cur) => .ok ([], cur)

/-- A single line break folds to a space, of several the first is dropped. -/
def fold (first : Char) (breaks : List Char) : List Char :=
  if first ≠ '\n' then first :: breaks else if breaks.isEmpty then [' '] else breaks

/-- Blanks inside quotes: kept within a line, folded over line ends. -/
def quotedSpaces (cur : Cursor) : Except Fault (List Char × Cursor) :=
  let (blanks, cur) := cur.span isFlowBlank
  if cur.head = endOfText then malformed
  else
    match cur.lineBreak with
    | (some first, cur) => do
      let (breaks, cur) ← quotedBreaks (cur.rest.length + 1) cur
      return (fold first breaks, cur)
    | (none, cur) => .ok (blanks, cur)

def escapes : List (Char × Char) :=
  [('0', '\x00'), ('a', '\x07'), ('b', '\x08'), ('t', '\t'), ('\t', '\t'), ('n', '\n'),
    ('v', '\x0b'), ('f', '\x0c'), ('r', '\r'), ('e', '\x1b'), (' ', ' '), ('"', '"'), ('\\', '\\'),
    ('/', '/'), ('N', '\u0085'), ('_', '\u00A0'), ('L', '\u2028'), ('P', '\u2029')]

/-- How many hexadecimal digits follow the letter of an escape. -/
def escapeWidth? : Char → Option Nat
  | 'x' => some 2
  | 'u' => some 4
  | 'U' => some 8
  | _ => none

/-- An escape between double quotes; the cursor is at the backslash. -/
def escape (cur : Cursor) : Except Fault (List Letter × Cursor) :=
  let cur := cur.next
  match escapes.lookup cur.head with
  | some c => .ok ([.char c], cur.next)
  | none =>
    match escapeWidth? cur.head with
    | some width =>
      let cur := cur.next
      match Json.hexNumber? ((List.range width).map cur.peek) with
      | none => malformed
      | some n =>
        if 0x110000 ≤ n then .error (.codePoint n) else .ok ([Json.letterOf n], cur.skip width)
    | none =>
      match cur.lineBreak with
      | (some _, cur) => do
        let (breaks, cur) ← quotedBreaks (cur.rest.length + 1) cur
        return (breaks.map .char, cur)
      | (none, _) => malformed

/-- The inside of a quoted scalar and its closing quote. -/
def quotedFrom (double : Bool) : Nat → Cursor → List Letter → Except Fault (List Letter × Cursor)
  | 0, _, _ => malformed
  | fuel + 1, cur, done =>
    let c := cur.head
    if !double && c = '\'' && cur.peek 1 = '\'' then
      quotedFrom double fuel (cur.skip 2) (done ++ [.char '\''])
    else if c = (if double then '"' else '\'') then .ok (done, cur.next)
    else if double && c = '\\' then do
      let (letters, cur) ← escape cur
      quotedFrom double fuel cur (done ++ letters)
    else if isBlankOrEnd c then do
      let (cs, cur) ← quotedSpaces cur
      quotedFrom double fuel cur (done ++ cs.map .char)
    else if c = '\'' || c = '"' || c = '\\' then quotedFrom double fuel cur.next (done ++ [.char c])
    else
      let (run, cur) := cur.span fun c =>
        !(isBlankOrEnd c || c = '\'' || c = '"' || c = '\\')
      quotedFrom double fuel cur (done ++ run.map .char)

def quotedScalar (double : Bool) (cur : Cursor) : Except Fault (Text × Cursor) := do
  let (letters, cur) ← quotedFrom double (cur.rest.length + 1) cur.next []
  return (⟨letters⟩, cur)

/-- The characters up to where a plain scalar pauses or ends. -/
def plainRun (flow : Bool) : List Char → List Char
  | [] => []
  | c :: rest =>
    let after := rest.headD endOfText
    if isBlankOrEnd c || (c = ':' && (isBlankOrEnd after || (flow && isFlowMark after))) ||
        (flow && (isFlowMark c || c = '?')) then []
    else c :: plainRun flow rest

/-- Blank lines between two lines of a plain scalar; none if a document separator follows. -/
def plainBreaks : Nat → Cursor → Option (List Char) × Cursor
  | 0, cur => (some [], cur)
  | fuel + 1, cur =>
    let cur := cur.skipWhile isSpace
    match cur.lineBreak with
    | (some c, cur) =>
      if cur.atSeparator then (none, cur)
      else
        match plainBreaks fuel cur with
        | (some more, cur) => (some (c :: more), cur)
        | (none, cur) => (none, cur)
    | (none, cur) => (some [], cur)

/-- What joins two runs of a plain scalar, and whether it crosses a line end. -/
def plainSpaces (cur : Cursor) : List Char × Bool × Cursor :=
  let (blanks, cur) := cur.span isSpace
  match cur.lineBreak with
  | (some first, cur) =>
    if cur.atSeparator then ([], true, cur)
    else
      match plainBreaks (cur.rest.length + 1) cur with
      | (some breaks, cur) => (fold first breaks, true, cur)
      | (none, cur) => ([], true, cur)
  | (none, cur) => (blanks, false, cur)

/-- A plain scalar with lines indented by at least `indent`; the second answer tells whether a line
end was crossed after the last run. -/
def plainFrom (flow : Bool) (indent : Int) :
    Nat → Cursor → List Char → List Char → Bool → List Char × Bool × Cursor
  | 0, cur, done, _, crossed => (done, crossed, cur)
  | fuel + 1, cur, done, spaces, crossed =>
    let run := if cur.head = '#' then [] else plainRun flow cur.rest
    if run.isEmpty then (done, crossed, cur)
    else
      let done := done ++ spaces ++ run
      let (spaces, crossed, cur) := plainSpaces (cur.skip run.length)
      if spaces.isEmpty || cur.head = '#' || (!flow && (cur.column : Int) < indent) then
        (done, crossed, cur)
      else plainFrom flow indent fuel cur done spaces crossed

def plainScalar (flow : Bool) (indent : Int) (cur : Cursor) : Text × Bool × Cursor :=
  let (cs, crossed, cur) := plainFrom flow indent (cur.rest.length + 1) cur [] [] false
  (.ofChars cs, crossed, cur)

/-- What becomes of the line ends behind a block scalar. -/
inductive Chomp
  | strip
  | clip
  | keep
  deriving DecidableEq, Repr

def chompMark? : Char → Option Chomp
  | '+' => some .keep
  | '-' => some .strip
  | _ => none

/-- The indentation digit, zero if there is none; a written zero is refused. -/
def indentMark (cur : Cursor) : Except Fault (Nat × Cursor) :=
  if cur.head.isDigit then
    if cur.head = '0' then malformed else .ok (Json.digitValue cur.head, cur.next)
  else .ok (0, cur)

/-- The marks behind the mark of the scalar: chomping and indentation in either order. -/
def blockHeader (cur : Cursor) : Except Fault ((Chomp × Nat) × Cursor) := do
  let ((chomp, increment), cur) ←
    match chompMark? cur.head with
    | some chomp => do
      let (n, cur) ← indentMark cur.next
      Except.ok ((chomp, n), cur)
    | none => do
      let (n, cur) ← indentMark cur
      match (if n = 0 then none else chompMark? cur.head) with
      | some chomp => Except.ok ((chomp, n), cur.next)
      | none => Except.ok ((Chomp.clip, n), cur)
  if isSpaceOrEnd cur.head then return ((chomp, increment), cur) else malformed

/-- Leading blank lines, and the deepest indentation seen in them. -/
def blockIndentation : Nat → Cursor → List Char → Nat → List Char × Nat × Cursor
  | 0, cur, done, deepest => (done, deepest, cur)
  | fuel + 1, cur, done, deepest =>
    if cur.head = ' ' then
      let cur := cur.next
      blockIndentation fuel cur done (max deepest cur.column)
    else
      match cur.lineBreak with
      | (some c, cur) => blockIndentation fuel cur (done ++ [c]) deepest
      | (none, cur) => (done, deepest, cur)

/-- At most `n` spaces. -/
def skipSpaces : Nat → Cursor → Cursor
  | 0, cur => cur
  | n + 1, cur => if cur.head = ' ' then skipSpaces n cur.next else cur

/-- Blank lines inside a block scalar, with the indentation of the line that follows them. -/
def blockBreaks (indent : Nat) : Nat → Cursor → List Char → List Char × Cursor
  | 0, cur, done => (done, cur)
  | fuel + 1, cur, done =>
    let cur := skipSpaces (indent - cur.column) cur
    match cur.lineBreak with
    | (some c, cur) => blockBreaks indent fuel cur (done ++ [c])
    | (none, cur) => (done, cur)

def breakText : Option Char → List Char
  | some c => [c]
  | none => []

/-- The lines of a block scalar. A folded one joins two lines that both start with a non-blank. -/
def blockLines (folded : Bool) (chomp : Chomp) (indent : Nat) :
    Nat → Cursor → List Char → List Char → Option Char → List Char × Cursor
  | 0, cur, done, _, _ => (done, cur)
  | fuel + 1, cur, done, breaks, last =>
    if cur.column = indent && cur.head ≠ endOfText then
      let done := done ++ breaks
      let solid := !isFlowBlank cur.head
      let (run, cur) := cur.span fun c => !isBreakOrEnd c
      let done := done ++ run
      let (last, cur) := cur.lineBreak
      let (breaks, cur) := blockBreaks indent (cur.rest.length + 1) cur []
      if cur.column = indent && cur.head ≠ endOfText then
        let joint :=
          if folded && last = some '\n' && solid && !isFlowBlank cur.head then
            (if breaks.isEmpty then [' '] else [])
          else breakText last
        blockLines folded chomp indent fuel cur (done ++ joint) breaks last
      else finish done breaks last cur
    else finish done breaks last cur
where
  finish (done breaks : List Char) (last : Option Char) (cur : Cursor) : List Char × Cursor :=
    match chomp with
    | .strip => (done, cur)
    | .clip => (done ++ breakText last, cur)
    | .keep => (done ++ breakText last ++ breaks, cur)

/-- A block scalar under a node of the given indentation. -/
def blockScalar (folded : Bool) (indent : Int) (cur : Cursor) : Except Fault (Text × Cursor) := do
  let ((chomp, increment), cur) ← blockHeader cur.next
  let cur ← ignoredLine cur
  let least := max 1 (indent + 1).toNat
  let fuel := cur.rest.length + 1
  if increment = 0 then
    let (breaks, deepest, cur) := blockIndentation fuel cur [] 0
    let (cs, cur) := blockLines folded chomp (max least deepest) fuel cur [] breaks none
    return (.ofChars cs, cur)
  else
    let indent := least + increment - 1
    let (breaks, cur) := blockBreaks indent fuel cur []
    let (cs, cur) := blockLines folded chomp indent fuel cur [] breaks none
    return (.ofChars cs, cur)

end DesignTokens.Yaml
