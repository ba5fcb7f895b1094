import DesignTokens.Value
import DesignTokens.Text.Quoted

/-! # Writing JSON

A value is written over several lines, two blanks of indentation to a level, in document order and
with every letter that needs no escape as itself, surrogates included. A key is written as a string,
whatever atom it is; dates, octets and sets have no written form. -/
namespace DesignTokens.Json

inductive Unwritable
  | key (kind : Kind)
  | value (kind : Kind)
  deriving DecidableEq, Repr

def Unwritable.message : Unwritable → String
  | .key kind => "keys must be str, int, float, bool or None, not " ++ kind.name
  | .value kind => "Object of type " ++ kind.name ++ " is not JSON serializable"

/-- Why a value is not written: it has no written form, or a whole number in it has too many
digits. -/
inductive WritingFault
  | unwritable (u : Unwritable)
  | overlong
  deriving DecidableEq, Repr

def escape (c : Char) : List Char :=
  match c with
  | '"' => ['\\', '"']
  | '\\' => ['\\', '\\']
  | '\n' => ['\\', 'n']
  | '\r' => ['\\', 'r']
  | '\t' => ['\\', 't']
  | '\x08' => ['\\', 'b']
  | '\x0c' => ['\\', 'f']
  | _ => if c.toNat < 0x20 then '\\' :: 'u' :: Text.hexPadded 4 c.toNat else [c]

/-- A character as it stands inside a string. -/
def escapeLetter : Letter → List Letter
  | .char c => (escape c).map .char
  | .surrogate n => [.surrogate n]

def quoted (s : Text) : List Letter := .char '"' :: (s.toList.flatMap escapeLetter ++ [.char '"'])

/-- The text of an atom that has one, a scalar, a truth value or null; any other is refused. -/
def plainText (other : Kind → Unwritable) (a : Atom) : Except WritingFault Text :=
  match a with
  | .null => .ok "null"
  | .bool b => .ok (if b then "true" else "false" : String)
  | .scalar (.text s) => .ok s
  | .scalar (.int n) =>
    match intText? n with
    | some s => .ok s
    | none => .error .overlong
  | .scalar (.float x) => .ok (script.write x)
  | _ => .error (.unwritable (other a.kind))

def atom (a : Atom) : Except WritingFault (List Letter) :=
  match a with
  | .scalar (.text s) => .ok (quoted s)
  | _ => (plainText .value a).map Text.toList

def key (a : Atom) : Except WritingFault (List Letter) := (plainText .key a).map quoted

/-- A new line indented to a level. -/
def newline (level : Nat) : List Letter := .char '\n' :: List.replicate (2 * level) (.char ' ')

/-- Parts between brackets, one to a line; without parts the brackets stand together. -/
def bracketed (level : Nat) (opening closing : Letter) (parts : List (List Letter)) : List Letter :=
  match parts with
  | [] => [opening, closing]
  | _ =>
    opening :: (newline (level + 1) ++ (.char ',' :: newline (level + 1)).intercalate parts ++
      newline level ++ [closing])

mutual

def writeAt (level : Nat) : Value → Except WritingFault (List Letter)
  | .atom a => atom a
  | .list items | .tuple items => do
    return bracketed level '[' ']' (← writeItems (level + 1) items)
  | .set _ => .error (.unwritable (.value .set))
  | .map entries => do
    return bracketed level '\x7b' '\x7d' (← writeMembers (level + 1) entries)

def writeItems (level : Nat) : List Value → Except WritingFault (List (List Letter))
  | [] => .ok []
  | v :: vs => do
    let first ← writeAt level v
    return first :: (← writeItems level vs)

def writeMembers (level : Nat) : List (Atom × Value) → Except WritingFault (List (List Letter))
  | [] => .ok []
  | (k, v) :: es => do
    let name ← key k
    let first ← writeAt level v
    return (name ++ .char ':' :: .char ' ' :: first) :: (← writeMembers level es)

end

def write (v : Value) : Except WritingFault (List Letter) := writeAt 0 v

end DesignTokens.Json
