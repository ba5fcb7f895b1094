import DesignTokens.Text
import DesignTokens.Text.Printable
import DesignTokens.Text.Utf8

/-! # Quoted text

Texts and octets as they stand inside the text of a list or of a message: between single quotes,
or between double quotes if the text holds a single quote and no double one, with a backslash
before what cannot stand for itself. -/
namespace DesignTokens.Text

/-- The lowest `width` hexadecimal digits of a number, in lower case. -/
def hexPadded (width n : Nat) : List Char :=
  (List.range width).reverse.map fun i => Utf8.hexDigit (n / Nat.pow 16 i % 16)

def chooseQuote (letters : List Letter) : Char :=
  if letters.contains '\'' && !letters.contains '"' then '"' else '\''

def escapeChar (quote c : Char) : List Char :=
  if c = quote ∨ c = '\\' then ['\\', c]
  else if c = '\n' then ['\\', 'n']
  else if c = '\r' then ['\\', 'r']
  else if c = '\t' then ['\\', 't']
  else if isPrintable c then [c]
  else if c.toNat < 0x100 then '\\' :: 'x' :: hexPadded 2 c.toNat
  else if c.toNat < 0x10000 then '\\' :: 'u' :: hexPadded 4 c.toNat
  else '\\' :: 'U' :: hexPadded 8 c.toNat

/-- A surrogate is always written as an escape. -/
def escapeLetter (quote : Char) : Letter → List Char
  | .char c => escapeChar quote c
  | .surrogate n => '\\' :: 'u' :: hexPadded 4 (Letter.surrogate n).code

def quote (t : Text) : String :=
  let q := chooseQuote t.toList
  String.ofList (q :: (t.toList.flatMap (escapeLetter q) ++ [q]))

/-- Octets outside ASCII are written as numbers. -/
def escapeOctet (quote : Char) (b : UInt8) : List Char :=
  if b.toNat < 0x80 then escapeChar quote (Char.ofNat b.toNat)
  else '\\' :: 'x' :: hexPadded 2 b.toNat

def quoteOctets (bs : List UInt8) : String :=
  let q := chooseQuote (bs.map fun b => .char (Char.ofNat b.toNat))
  String.ofList ('b' :: q :: (bs.flatMap (escapeOctet q) ++ [q]))

end DesignTokens.Text
