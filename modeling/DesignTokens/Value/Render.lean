import DesignTokens.Value
import DesignTokens.Text.Quoted

/-! # The text of a value

A text stands for itself; every other value is written as it would be inside a list, where texts
are quoted. A value with a whole number of too many digits in it has no text. -/
namespace DesignTokens

def Scalar.render? : Scalar → Option Text
  | .text s => some s
  | .int n => (intText? n).map Text.ofString
  | .float x => some (plain.write x)

namespace Atom

/-- An atom inside a list, a set or a mapping. -/
def inner? : Atom → Option String
  | .null => some "None"
  | .bool b => some (if b then "True" else "False")
  | .scalar (.text s) => some (Text.quote s)
  | .scalar (.int n) => intText? n
  | .scalar (.float x) => some (plain.write x)
  | .date d => some ("datetime.date(" ++ d.fields ++ ")")
  | .moment t =>
    some ("datetime.datetime(" ++ t.date.fields ++ ", " ++ t.clock.fields ++
      (match t.offset with
      | some seconds => ", tzinfo=" ++ Moment.zoneText seconds
      | none => "") ++ ")")
  | .clock c => some ("datetime.time(" ++ c.fields ++ ")")
  | .octets bs => some (Text.quoteOctets bs)

/-- The text of an atom by itself, which is also the text of a key. -/
def render? : Atom → Option Text
  | .scalar s => s.render?
  | .date d => some d.text
  | .moment t => some t.text
  | .clock c => some c.text
  | a => a.inner?.map Text.ofString

end Atom

/-- Texts between two marks, with commas between them. -/
def enclosed (opening closing : String) (texts : List String) : String :=
  opening ++ ", ".intercalate texts ++ closing

mutual

/-- A value inside a list or a mapping. -/
def Value.inner? : Value → Option String
  | .atom a => a.inner?
  | .list items => (innerItems items).map (enclosed "[" "]")
  | .tuple items => (innerItems items).map (enclosed "(" ")")
  | .set [] => some "set()"
  | .set members => (members.mapM Atom.inner?).map (enclosed "\x7b" "\x7d")
  | .map entries => (innerEntries entries).map (enclosed "\x7b" "\x7d")

def innerItems : List Value → Option (List String)
  | [] => some []
  | v :: vs => do return (← v.inner?) :: (← innerItems vs)

def innerEntries : List (Atom × Value) → Option (List String)
  | [] => some []
  | (k, v) :: es => do return ((← k.inner?) ++ ": " ++ (← v.inner?)) :: (← innerEntries es)

end

/-- The text of a value by itself. -/
def Value.render? : Value → Option Text
  | .atom a => a.render?
  | v => v.inner?.map Text.ofString

end DesignTokens
