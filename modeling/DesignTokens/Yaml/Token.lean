import DesignTokens.Yaml.Lexeme

/-! # The tokens of a YAML text

`tokens` splits a text into tokens. Indentation becomes explicit: a deeper column opens a block
collection and a smaller one closes those that are deeper. A key written without its mark is only
known once its colon is met, so each flow level remembers where such a key may have begun. -/
namespace DesignTokens.Yaml

/-- A text that cannot be split further ends in its fault. What is settled before it can still be
read, so that a mistake in there is the one that is told. -/
inductive Token
  | directive (d : Directive)
  | documentStart
  | documentEnd
  | blockSequenceStart
  | blockMappingStart
  | blockEnd
  | flowSequenceStart
  | flowMappingStart
  | flowSequenceEnd
  | flowMappingEnd
  | key
  | value
  | blockEntry
  | flowEntry
  | alias (name : String)
  | anchor (name : String)
  | tag (text : TagText)
  | scalar (text : Text) (plain : Bool)
  | streamEnd
  | fault (f : Fault)
  deriving DecidableEq, Repr

/-- A place where a key without a mark may have begun: the number of tokens in front of it. -/
structure KeyPlace where
  number : Nat
  required : Bool
  index : Nat
  line : Nat
  column : Nat

/-- The tokens so far, the latest first, and what decides on the next one. -/
structure Scan where
  cur : Cursor
  done : List Token
  keys : List (Nat × KeyPlace)
  level : Nat
  indent : Int
  outer : List Int
  keyAllowed : Bool

namespace Scan

def start (cs : List Char) : Scan := ⟨.ofText cs, [], [], 0, -1, [], true⟩

def column (s : Scan) : Int := s.cur.column

def inFlow (s : Scan) : Bool := s.level ≠ 0

def emit (s : Scan) (t : Token) : Scan := { s with done := t :: s.done }

/-- Emits a token of `n` characters. -/
def emitMark (s : Scan) (t : Token) (n : Nat) : Scan := { s.emit t with cur := s.cur.skip n }

/-- Puts a token behind the first `number` ones. -/
def insert (s : Scan) (number : Nat) (t : Token) : Scan :=
  let later := s.done.length - number
  { s with done := s.done.take later ++ t :: s.done.drop later }

/-- Blanks, comments and line ends; outside flow collections a key may begin on a new line. -/
def skipBlanks : Nat → Scan → Scan
  | 0, s => s
  | fuel + 1, s =>
    let cur := (s.cur.skipWhile isSpace).skipComment
    match cur.lineBreak with
    | (some _, cur) =>
      skipBlanks fuel { s with cur := cur, keyAllowed := s.keyAllowed || !s.inFlow }
    | (none, cur) => { s with cur := cur }

/-- To the next token; a byte order mark may open the text. -/
def toNext (s : Scan) : Scan :=
  let s := if s.cur.index = 0 && s.cur.head = '\uFEFF' then { s with cur := s.cur.next } else s
  skipBlanks (s.cur.rest.length + 1) s

/-- A key has to end on the line it began on, within 1024 characters. -/
def isStale (s : Scan) (k : KeyPlace) : Bool :=
  k.line ≠ s.cur.line || 1024 < s.cur.index - k.index

def dropStale (s : Scan) : Except Fault Scan :=
  if s.keys.any fun k => s.isStale k.2 && k.2.required then malformed
  else .ok { s with keys := s.keys.filter fun k => !s.isStale k.2 }

/-- Gives up the key that may have begun on this level. -/
def forgetKey (s : Scan) : Except Fault Scan :=
  if s.keys.any fun k => k.1 = s.level && k.2.required then malformed
  else .ok { s with keys := s.keys.filter fun k => k.1 ≠ s.level }

/-- Remembers that a key may begin here. -/
def noteKey (s : Scan) : Except Fault Scan :=
  if s.keyAllowed then do
    let s ← s.forgetKey
    let place : KeyPlace :=
      ⟨s.done.length, !s.inFlow && s.indent = s.column, s.cur.index, s.cur.line, s.cur.column⟩
    return { s with keys := (s.level, place) :: s.keys }
  else .ok s

/-- The indentations that remain when those deeper than a column are closed. -/
def closeTo (column : Int) : List Int → Int → List Token → Int × List Int × List Token
  | [], indent, done => (indent, [], done)
  | o :: outer, indent, done =>
    if column < indent then closeTo column outer o (.blockEnd :: done)
    else (indent, o :: outer, done)

/-- Closes the block collections that are deeper than a column. -/
def unwind (s : Scan) (column : Int) : Scan :=
  if s.inFlow then s
  else
    let (indent, outer, done) := closeTo column s.outer s.indent s.done
    { s with indent := indent, outer := outer, done := done }

/-- Whether a column is deeper than the open block collections, and opens another one. -/
def deepens (s : Scan) (column : Int) : Bool := !s.inFlow && s.indent < column

def deepen (s : Scan) (column : Int) : Scan :=
  { s with indent := column, outer := s.indent :: s.outer }

/-- Between documents no collection is open and no key may begin. -/
def closeAll (s : Scan) : Except Fault Scan := do
  let s ← (s.unwind (-1)).forgetKey
  return { s with keyAllowed := false }

def documentMark (s : Scan) (t : Token) : Except Fault Scan := do
  return (← s.closeAll).emitMark t 3

def directive (s : Scan) : Except Fault Scan := do
  let s ← s.closeAll
  let (d, cur) ← Yaml.directive s.cur
  return { s.emit (.directive d) with cur := cur }

def flowStart (s : Scan) (t : Token) : Except Fault Scan := do
  let s ← s.noteKey
  return { s.emitMark t 1 with level := s.level + 1, keyAllowed := true }

def flowEnd (s : Scan) (t : Token) : Except Fault Scan := do
  let s ← s.forgetKey
  return { s.emitMark t 1 with level := s.level - 1, keyAllowed := false }

def flowEntry (s : Scan) : Except Fault Scan := do
  let s ← s.forgetKey
  return { s.emitMark .flowEntry 1 with keyAllowed := true }

/-- Opens a block collection for the mark of an entry or a key, where it is at a new column. -/
def openBlock (s : Scan) (t : Token) : Except Fault Scan :=
  if s.inFlow then .ok s
  else if !s.keyAllowed then malformed
  else .ok (if s.deepens s.column then (s.deepen s.column).emit t else s)

def blockEntry (s : Scan) : Except Fault Scan := do
  let s ← (← s.openBlock .blockSequenceStart).forgetKey
  return { s.emitMark .blockEntry 1 with keyAllowed := true }

def keyMark (s : Scan) : Except Fault Scan := do
  let s ← (← s.openBlock .blockMappingStart).forgetKey
  return { s.emitMark .key 1 with keyAllowed := !s.inFlow }

/-- A colon ends the key that began on this level, or else stands for a key that is empty. -/
def valueMark (s : Scan) : Except Fault Scan :=
  match s.keys.lookup s.level with
  | some place =>
    let s := { s with keys := s.keys.filter fun k => k.1 ≠ s.level }
    let s := s.insert place.number .key
    let s := if s.deepens place.column then
      (s.deepen place.column).insert place.number .blockMappingStart else s
    .ok { s.emitMark .value 1 with keyAllowed := false }
  | none => do
    let s ← (← s.openBlock .blockMappingStart).forgetKey
    return { s.emitMark .value 1 with keyAllowed := !s.inFlow }

/-- A token that may begin a key and behind which none may begin. -/
def leaf {α : Type} (s : Scan) (lex : Cursor → Except Fault (α × Cursor)) (t : α → Token) :
    Except Fault Scan := do
  let s ← s.noteKey
  let (a, cur) ← lex s.cur
  return { s.emit (t a) with cur := cur, keyAllowed := false }

def plain (s : Scan) : Except Fault Scan := do
  let s ← s.noteKey
  let (text, crossed, cur) := plainScalar s.inFlow (s.indent + 1) s.cur
  return { s.emit (.scalar text true) with cur := cur, keyAllowed := crossed }

def block (s : Scan) (folded : Bool) : Except Fault Scan := do
  let s ← s.forgetKey
  let (text, cur) ← blockScalar folded s.indent s.cur
  return { s.emit (.scalar text false) with cur := cur, keyAllowed := true }

/-- A plain scalar starts with no mark, or with one that a non-blank follows. -/
def atPlain (s : Scan) : Bool :=
  let c := s.cur.head
  !(isBlankOrEnd c || "-?:,[]\x7b\x7d#&*!|>'\"%@\u0060".toList.contains c) ||
    (!isBlankOrEnd (s.cur.peek 1) && (c = '-' || (!s.inFlow && (c = '?' || c = ':'))))

/-- Whether a mark counts as one: always in a flow collection, else in front of a blank. -/
def markCounts (s : Scan) : Bool := s.inFlow || isBlankOrEnd (s.cur.peek 1)

/-- The next token of a text that is not at its end. -/
def token (s : Scan) : Except Fault Scan :=
  let c := s.cur.head
  let atMargin := s.cur.column = 0
  if c = '%' && atMargin then s.directive
  else if atMargin && s.cur.atMarks '-' then s.documentMark .documentStart
  else if atMargin && s.cur.atMarks '.' then s.documentMark .documentEnd
  else if c = '[' then s.flowStart .flowSequenceStart
  else if c = '\x7b' then s.flowStart .flowMappingStart
  else if c = ']' then s.flowEnd .flowSequenceEnd
  else if c = '\x7d' then s.flowEnd .flowMappingEnd
  else if c = ',' then s.flowEntry
  else if c = '-' && isBlankOrEnd (s.cur.peek 1) then s.blockEntry
  else if c = '?' && s.markCounts then s.keyMark
  else if c = ':' && s.markCounts then s.valueMark
  else if c = '*' then s.leaf anchorName .alias
  else if c = '&' then s.leaf anchorName .anchor
  else if c = '!' then s.leaf tag .tag
  else if c = '|' && !s.inFlow then s.block false
  else if c = '>' && !s.inFlow then s.block true
  else if c = '\'' then s.leaf (quotedScalar false) fun text => .scalar text false
  else if c = '"' then s.leaf (quotedScalar true) fun text => .scalar text false
  else if s.atPlain then s.plain
  else malformed

/-- The tokens that no later text can change: a key mark is only ever put where a key may have
begun. -/
def settled (s : Scan) : List Token :=
  let pending := (s.keys.filter fun k => !s.isStale k.2).map fun k => k.2.number
  s.done.reverse.take (pending.min?.getD s.done.length)

/-- One more token behind those so far, or the end. -/
def step (s : Scan) : Except Fault (Scan ⊕ List Token) := do
  let s ← s.toNext.dropStale
  let s := s.unwind s.column
  if s.cur.head = endOfText then
    let s ← s.closeAll
    return .inr (Token.streamEnd :: s.done).reverse
  else return .inl (← s.token)

/-- The tokens from here on. Each step takes at least one character. -/
def run : Nat → Scan → List Token
  | 0, s => (Token.streamEnd :: s.done).reverse
  | fuel + 1, s =>
    match s.step with
    | .error f => s.settled ++ [.fault f]
    | .ok (.inl next) => run fuel next
    | .ok (.inr ts) => ts

end Scan

/-- The tokens of a text; a character that texts may not contain is a fault from the start. -/
def tokens (cs : List Char) : List Token :=
  if cs.all isAllowed then (Scan.start cs).run (cs.length + 1) else [.fault .malformed]

end DesignTokens.Yaml
