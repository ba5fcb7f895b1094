import DesignTokens.Toml.Value

/-! # Documents of TOML

A document is a run of statements, one to a line: a header opens a table or adds one to a list of
tables, and an assignment adds an entry to the open table. -/
namespace DesignTokens.Toml

/-- What has been read, the path of the open table, and the paths that are settled: those that a
header cannot open any more, those that are so from the next header on, and those of tables and
arrays that cannot be changed at all. -/
structure Progress where
  entries : Entries
  header : List String
  opened : List (List String)
  pending : List (List String)
  frozen : List (List String)

namespace Progress

def start : Progress := ⟨[], [], [], [], []⟩

/-- At a header, the tables that dotted keys made are settled. -/
def settle (p : Progress) : Progress := { p with opened := p.pending ++ p.opened, pending := [] }

/-- A header that opens a table, once. -/
def openTable (p : Progress) (path : List String) : Except Fault Progress :=
  if p.opened.contains path || isWithin p.frozen path then malformed
  else
    match within true some path p.entries with
    | some es => .ok { p with entries := es, header := path, opened := path :: p.opened }
    | none => malformed

/-- Adds an empty table to a list of tables. -/
def addTable (k : String) (es : Entries) : Option Entries :=
  match es.get? k with
  | none => some (es.put (.text k) (.list [.map []]))
  | some (.list items) => some (es.put (.text k) (.list (items ++ [.map []])))
  | some _ => none

/-- A header that adds a table to a list; what was settled below it is free again. -/
def extendList (p : Progress) (path : List String) : Except Fault Progress :=
  if isWithin p.frozen path then malformed
  else
    let free (paths : List (List String)) := paths.filter fun q => !path.isPrefixOf q
    match within true (addTable (path.getLast?.getD "")) path.dropLast p.entries with
    | some es =>
      .ok { p with
        entries := es, header := path, opened := path :: free p.opened, frozen := free p.frozen }
    | none => malformed

/-- The tables that a dotted key goes through. -/
def between (p : Progress) (path : List String) : List (List String) :=
  (List.range (path.length - 1)).map fun i => p.header ++ path.take (i + 1)

def assign (p : Progress) (path : List String) (v : Value) : Except Fault Progress :=
  let between := p.between path
  let parent := p.header ++ path.dropLast
  if between.any p.opened.contains || isWithin p.frozen parent then malformed
  else
    match within true (addNew (path.getLast?.getD "") v) parent p.entries with
    | none => malformed
    | some es =>
      let frozen := if isFrozenValue v then (p.header ++ path) :: p.frozen else p.frozen
      .ok { p with entries := es, pending := between ++ p.pending, frozen := frozen }

end Progress

/-- A key between blanks and the brackets that close a header. -/
def headerKey (closing : List Char) (cs : List Char) :
    Except Fault (List String × List Char) := do
  let (path, rest) ← key (skipBlanks cs)
  if startsWith closing rest then return (path, rest.drop closing.length) else malformed

/-- The end of a statement: blanks, a comment and the end of the line. -/
def lineEnd (cs : List Char) : Except Fault (List Char) := do
  let cs := skipBlanks cs
  let rest ←
    match cs with
    | '#' :: rest =>
      let comment := rest.takeWhile (· ≠ '\n')
      if comment.any isControl then malformed else Except.ok (rest.drop comment.length)
    | _ => Except.ok cs
  match rest with
  | [] => .ok []
  | '\n' :: rest => .ok rest
  | _ => malformed

/-- The statement that a line starts with, if it has one. -/
def statement (p : Progress) (cs : List Char) : Except Fault (Progress × List Char) :=
  match cs with
  | '[' :: '[' :: rest => do
    let (path, rest) ← headerKey [']', ']'] rest
    return (← p.settle.extendList path, rest)
  | '[' :: rest => do
    let (path, rest) ← headerKey [']'] rest
    return (← p.settle.openTable path, rest)
  | c :: _ =>
    if startsKey c then do
      let (path, rest) ← assigned cs
      let (v, rest) ← value (2 * cs.length + 2) rest
      return (← p.assign path v, rest)
    else .ok (p, cs)
  | [] => .ok (p, cs)

def statements : Nat → Progress → List Char → Except Fault Entries
  | 0, _, _ => malformed
  | fuel + 1, p, cs =>
    match skipBlanks cs with
    | [] => .ok p.entries
    | cs => do
      let (p, rest) ← statement p cs
      statements fuel p (← lineEnd rest)

/-- A carriage return in front of a line feed does not count. -/
def joinLineEnds : List Char → List Char
  | [] => []
  | '\r' :: '\n' :: rest => '\n' :: joinLineEnds rest
  | c :: rest => c :: joinLineEnds rest

/-- The top level table of a text. -/
def parse (cs : List Char) : Except Fault Entries :=
  statements (cs.length + 1) .start (joinLineEnds cs)

end DesignTokens.Toml
