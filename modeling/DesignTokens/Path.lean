import DesignTokens.Text.Case
import DesignTokens.Text.Pieces

/-! # Paths

A path is an anchor and the names that follow it. Empty names and single dots are dropped when a
path is read; double dots stay, because what they lead to depends on the files. -/
namespace DesignTokens

/-- Where a path starts: at the working directory, at the root, at the root written with two
slashes, or at the directory of the bundled theme. -/
inductive Anchor
  | working
  | root
  | doubleRoot
  | bundled
  deriving DecidableEq, Repr

structure Path where
  anchor : Anchor
  parts : List String
  deriving DecidableEq, Repr

namespace Path

/-- How the directory of the bundled theme is written. -/
def bundledName : String := "<theme>"

def anchorOf (s : String) : Anchor :=
  match s.toList with
  | '/' :: '/' :: '/' :: _ => .root
  | '/' :: '/' :: _ => .doubleRoot
  | '/' :: _ => .root
  | _ => .working

/-- The names between the slashes of a text. -/
def namesOf (s : String) : List String := (Text.pieces '/' s.toList).map String.ofList

def ofString (s : String) : Path :=
  ⟨anchorOf s, (namesOf s).filter fun p => p ≠ "" && p ≠ "."⟩

def text (p : Path) : String :=
  let names := "/".intercalate p.parts
  match p.anchor with
  | .working => if p.parts.isEmpty then "." else names
  | .root => "/" ++ names
  | .doubleRoot => "//" ++ names
  | .bundled => if p.parts.isEmpty then bundledName else bundledName ++ "/" ++ names

/-- No file can have a name with the character NUL in it. -/
def hasNul (p : Path) : Bool := p.parts.any fun name => name.toList.contains '\x00'

/-- The last name, empty if there is none. -/
def name (p : Path) : String := p.parts.getLast?.getD ""

def parent (p : Path) : Path := ⟨p.anchor, p.parts.dropLast⟩

/-- A path continued by another, which stands alone if it has an anchor of its own. -/
def append (p q : Path) : Path :=
  match q.anchor with
  | .working => ⟨p.anchor, p.parts ++ q.parts⟩
  | _ => q

instance : HAppend Path Path Path := ⟨append⟩

/-- The end of a name from its last dot on; a dot at either end of the name does not count. -/
def suffixOf (name : String) : String :=
  let reversed := name.toList.reverse
  let tail := reversed.takeWhile (· ≠ '.')
  let stem := (reversed.dropWhile (· ≠ '.')).drop 1
  if tail.isEmpty || stem.isEmpty then "" else String.ofList ('.' :: tail.reverse)

def suffix (p : Path) : String := suffixOf p.name

end Path

end DesignTokens
