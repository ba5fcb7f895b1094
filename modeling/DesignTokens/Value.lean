import DesignTokens.Calendar
import DesignTokens.Text

/-! # Document values

A token document is a tree of mappings, lists and atoms. Keys are atoms, so a mapping is a list of
entries in document order. A scalar is an atom a declaration can carry: a text, a whole number or
a double. -/
namespace DesignTokens

inductive Scalar
  | text (s : Text)
  | int (n : Int)
  | float (x : Binary64)
  deriving DecidableEq

inductive Atom
  | null
  | bool (b : Bool)
  | scalar (s : Scalar)
  | date (d : Date)
  | moment (t : Moment)
  | clock (c : Clock)
  | octets (bytes : List UInt8)
  deriving DecidableEq

inductive Value
  | atom (a : Atom)
  | list (items : List Value)
  | tuple (items : List Value)
  | set (members : List Atom)
  | map (entries : List (Atom × Value))

/-- The entries of a mapping in document order. -/
abbrev Entries := List (Atom × Value)

/-- What a document file holds: the entries of its top level mapping. -/
abbrev Document := Entries

namespace Atom

abbrev text (s : Text) : Atom := .scalar (.text s)
abbrev int (n : Int) : Atom := .scalar (.int n)
abbrev float (x : Binary64) : Atom := .scalar (.float x)

/-- The number an atom stands for when keys are compared; truth values count as one and zero. -/
def number? : Atom → Option (Int ⊕ Binary64)
  | .bool b => some (.inl (if b then 1 else 0))
  | .scalar (.int n) => some (.inl n)
  | .scalar (.float x) => some (match x.toInt? with | some n => .inl n | none => .inr x)
  | _ => none

/-- Two atoms are one key: equal numbers are, whatever their type, and equal moments are. "Not a
number" equals nothing. -/
def sameKey (a b : Atom) : Bool :=
  match a.number?, b.number? with
  | some (.inl m), some (.inl n) => m == n
  | some (.inr x), some (.inr y) => x == y && x != .nan
  | some _, _ => false
  | none, some _ => false
  | none, none =>
    match a, b with
    | .moment s, .moment t => s.same t
    | _, _ => a == b

end Atom

namespace Value

abbrev null : Value := .atom .null
abbrev bool (b : Bool) : Value := .atom (.bool b)
abbrev scalar (s : Scalar) : Value := .atom (.scalar s)
abbrev text (s : Text) : Value := .atom (.text s)
abbrev int (n : Int) : Value := .atom (.int n)
abbrev float (x : Binary64) : Value := .atom (.float x)

/-- The scalar a value is, if it is one; truth values are not scalars. -/
def scalar? : Value → Option Scalar
  | .atom (.scalar s) => some s
  | _ => none

def isScalar (v : Value) : Bool := v.scalar?.isSome

/-- The entries of a value that is a mapping. -/
def entries? : Value → Option Entries
  | .map es => some es
  | _ => none

end Value

namespace Entries

/-- The value under a text key. -/
def get? (es : Entries) (key : Text) : Option Value :=
  (es.find? fun e => e.1 = .text key).map Prod.snd

def contains (es : Entries) (key : Text) : Bool := (es.get? key).isSome

/-- Replaces the value of a key that is present and adds the entry at the end otherwise. -/
def put (es : Entries) (key : Atom) (v : Value) : Entries :=
  if es.any (fun e => e.1.sameKey key) then
    es.map fun e => if e.1.sameKey key then (e.1, v) else e
  else es ++ [(key, v)]

def putAll (es more : Entries) : Entries := more.foldl (fun acc e => acc.put e.1 e.2) es

end Entries

/-- The types of values as messages name them. -/
inductive Kind
  | null | bool | text | int | float | date | moment | clock | octets | list | tuple | set | map
  deriving DecidableEq, Repr

def Kind.name : Kind → String
  | .null => "NoneType"
  | .bool => "bool"
  | .text => "str"
  | .int => "int"
  | .float => "float"
  | .date => "date"
  | .moment => "datetime"
  | .clock => "time"
  | .octets => "bytes"
  | .list => "list"
  | .tuple => "tuple"
  | .set => "set"
  | .map => "dict"

def Atom.kind : Atom → Kind
  | .null => .null
  | .bool _ => .bool
  | .scalar (.text _) => .text
  | .scalar (.int _) => .int
  | .scalar (.float _) => .float
  | .date _ => .date
  | .moment _ => .moment
  | .clock _ => .clock
  | .octets _ => .octets

def Value.kind : Value → Kind
  | .atom a => a.kind
  | .list _ => .list
  | .tuple _ => .tuple
  | .set _ => .set
  | .map _ => .map

end DesignTokens
