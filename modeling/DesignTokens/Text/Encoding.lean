import DesignTokens.Text
import DesignTokens.Text.Quoted

/-! # Encoding a text

A text becomes octets of UTF-8, unless there is a surrogate in it. What is told then is the first one
and how many follow it directly. -/
namespace DesignTokens.Text

structure EncodingFault where
  surrogate : Fin 2048
  position : Nat
  length : Nat
  deriving DecidableEq, Repr

def EncodingFault.message (f : EncodingFault) : String :=
  if f.length = 1 then
    "'utf-8' codec can't encode character '\\u" ++
      String.ofList (hexPadded 4 (Letter.surrogate f.surrogate).code) ++ "' in position " ++
      toString f.position ++ ": surrogates not allowed"
  else
    "'utf-8' codec can't encode characters in position " ++ toString f.position ++ "-" ++
      toString (f.position + f.length - 1) ++ ": surrogates not allowed"

/-- The first surrogate of letters with `position` letters in front of them. -/
def faultFrom (position : Nat) : List Letter → Option EncodingFault
  | [] => none
  | .char _ :: rest => faultFrom (position + 1) rest
  | .surrogate n :: rest =>
    some ⟨n, position, (rest.takeWhile Letter.isSurrogate).length + 1⟩

def encode (t : Text) : Except EncodingFault (List UInt8) :=
  match faultFrom 0 t.toList with
  | some f => .error f
  | none => .ok (Utf8.encode (t.toList.filterMap Letter.char?))

end DesignTokens.Text
