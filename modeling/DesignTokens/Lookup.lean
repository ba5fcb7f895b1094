import DesignTokens.Flatten

/-! # Looking up tokens

A dotted path is walked through nested mappings by text keys. -/
namespace DesignTokens

/-- The value that the steps lead to; only mappings can be stepped into. -/
def Value.at? (v : Value) : List Text → Option Value
  | [] => some v
  | step :: rest =>
    match v with
    | .map es =>
      match Entries.get? es step with
      | some next => next.at? rest
      | none => none
    | _ => none

/-- The value under a dotted path. -/
def Document.lookup (doc : Document) (path : Text) : Option Value :=
  (Value.map doc).at? (Text.splitAt '.' path)

/-- A dotted path as messages name it. -/
def dashed (path : Text) : Text := ⟨path.toList.map fun c : Letter => if c = '.' then '-' else c⟩

/-- A value that stands for no token: null, an empty text or a zero, the truth value "false"
included. -/
def Value.isVoid : Value → Bool
  | .atom .null => true
  | .atom (.bool b) => !b
  | .atom (.scalar (.text s)) => s = ""
  | .atom (.scalar (.int n)) => n = 0
  | .atom (.scalar (.float x)) => x.isZero
  | _ => false

/-- The scalar under a dotted path; `fallback` if there is none or what is there is void. -/
def Document.lookupScalar (doc : Document) (path : Text) (fallback : Scalar) :
    Except TokenFault Scalar :=
  match doc.lookup path with
  | none => .ok fallback
  | some v =>
    if v.isVoid then .ok fallback
    else
      match v.scalar? with
      | some s => .ok s
      | none => .error (.malformed (dashed path) (.notScalar v.kind))

/-- The entries of the mapping under a dotted path. -/
def Document.requireMapping (doc : Document) (path : Text) : Except TokenFault Entries :=
  match doc.lookup path with
  | some (.map es) => .ok es
  | none | some (.atom .null) => .error (.malformed (dashed path) .groupMissing)
  | some _ => .error (.malformed (dashed path) .groupNotMapping)

end DesignTokens
