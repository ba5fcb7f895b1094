import DesignTokens.Text.Blank

/-! # A cursor in a YAML text

The rest of the text with its place, and the classes of characters that the grammar is made of. The
end of the text reads as the character NUL, which no text contains. -/
namespace DesignTokens.Yaml

structure Cursor where
  rest : List Char
  index : Nat
  line : Nat
  column : Nat

def endOfText : Char := '\x00'

def isBreak (c : Char) : Bool :=
  c = '\n' || c = '\r' || c = '\u0085' || c = '\u2028' || c = '\u2029'

def isBreakOrEnd (c : Char) : Bool := c = endOfText || isBreak c

/-- What ends a word outside quotes: a space, a break or the end. -/
def isSpaceOrEnd (c : Char) : Bool := c = ' ' || isBreakOrEnd c

def isBlankOrEnd (c : Char) : Bool := c = '\t' || isSpaceOrEnd c

/-- The characters of names. -/
def isWord (c : Char) : Bool := c.isAlphanum || c = '-' || c = '_'

def isFlowMark (c : Char) : Bool :=
  c = ',' || c = '[' || c = ']' || c = '\x7b' || c = '\x7d'

/-- The characters that a text may contain. -/
def isAllowed (c : Char) : Bool :=
  let n := c.toNat
  n = 0x09 || n = 0x0A || n = 0x0D || (0x20 ≤ n && n ≤ 0x7E) || n = 0x85 ||
    (0xA0 ≤ n && n ≤ 0xD7FF) || (0xE000 ≤ n && n ≤ 0xFFFD) || 0x10000 ≤ n

namespace Cursor

def ofText (cs : List Char) : Cursor := ⟨cs, 0, 0, 0⟩

/-- The character `k` places ahead. -/
def peek (cur : Cursor) (k : Nat) : Char := cur.rest.getD k endOfText

def head (cur : Cursor) : Char := cur.rest.headD endOfText

/-- One character further; a byte order mark takes no column. -/
def next (cur : Cursor) : Cursor :=
  match cur.rest with
  | [] => cur
  | c :: rest =>
    if isBreak c && !(c = '\r' && rest.head? = some '\n') then
      ⟨rest, cur.index + 1, cur.line + 1, 0⟩
    else if c = '\uFEFF' then ⟨rest, cur.index + 1, cur.line, cur.column⟩
    else ⟨rest, cur.index + 1, cur.line, cur.column + 1⟩

def skip (cur : Cursor) : Nat → Cursor
  | 0 => cur
  | n + 1 => cur.next.skip n

/-- The longest run of characters of a class, and the cursor behind it. -/
def span (cur : Cursor) (p : Char → Bool) : List Char × Cursor :=
  let run := cur.rest.takeWhile p
  (run, cur.skip run.length)

def skipWhile (cur : Cursor) (p : Char → Bool) : Cursor := (cur.span p).2

/-- A line break and what it counts as; without one there is none to skip. -/
def lineBreak (cur : Cursor) : Option Char × Cursor :=
  match cur.rest with
  | '\r' :: '\n' :: _ => (some '\n', cur.skip 2)
  | c :: _ =>
    if c = '\u2028' || c = '\u2029' then (some c, cur.next)
    else if isBreak c then (some '\n', cur.next)
    else (none, cur)
  | [] => (none, cur)

/-- A comment up to the end of its line. -/
def skipComment (cur : Cursor) : Cursor :=
  if cur.head = '#' then cur.skipWhile fun c => !isBreakOrEnd c else cur

/-- Three marks and then a blank or the end, as between two documents. -/
def atMarks (cur : Cursor) (mark : Char) : Bool :=
  cur.peek 0 = mark && cur.peek 1 = mark && cur.peek 2 = mark && isBlankOrEnd (cur.peek 3)

def atSeparator (cur : Cursor) : Bool := cur.atMarks '-' || cur.atMarks '.'

end Cursor

end DesignTokens.Yaml
