import DesignTokens.Number.Shortest

/-! # Number notation

How numbers are written in declarations, messages and documents. A whole number is its decimal
digits. A double is its shortest decimal: positional from `0.0001` up to below `10 ^ 16`, with at
least one digit behind the point, and otherwise with an exponent of at least two digits. -/
namespace DesignTokens

/-- The decimal digits of a natural number. -/
def natText (n : Nat) : List Char := Nat.toDigits 10 n

def intText (n : Int) : String :=
  if n < 0 then String.ofList ('-' :: natText n.natAbs) else String.ofList (natText n.natAbs)

/-- The most digits of a whole number that is read or written in decimal. -/
def maxDigits : Nat := 4300

/-- A whole number in decimal; one of too many digits is not written. -/
def intText? (n : Int) : Option String :=
  if Nat.pow 10 maxDigits ≤ n.natAbs then none else some (intText n)

/-- What is said of a whole number that has too many digits to be written. -/
def overlongMessage : String :=
  "Exceeds the limit (4300 digits) for integer string conversion; " ++
    "use sys.set_int_max_str_digits() to increase the limit"

/-- How a format writes doubles. -/
structure Notation where
  /-- Positional notation starts at ten to this power. -/
  positionalFrom : Int
  /-- Positional notation ends below ten to this power. -/
  positionalBelow : Int
  exponentMark : Char
  exponentDigits : Nat
  notANumber : String
  infinite : String

/-- The notation of style sheets, messages and documents. -/
def plain : Notation := ⟨-4, 16, 'e', 2, "nan", "inf"⟩

/-- The notation of the utility configuration differs in the names of what is no number. -/
def script : Notation := ⟨-4, 16, 'e', 2, "NaN", "Infinity"⟩

namespace Notation

/-- Digits with the point after the first `n`; a side without digits gets a zero. -/
def positional (digits : List Char) (n : Int) : List Char :=
  if n ≤ 0 then '0' :: '.' :: (List.replicate (-n).toNat '0' ++ digits)
  else if digits.length ≤ n.toNat then
    digits ++ List.replicate (n.toNat - digits.length) '0' ++ ['.', '0']
  else digits.take n.toNat ++ '.' :: digits.drop n.toNat

/-- One digit before the point, the others behind it, and the exponent with its sign. -/
def exponential (f : Notation) (digits : List Char) (e : Int) : List Char :=
  let power := natText e.natAbs
  let point := match digits with
    | [] => []
    | [d] => [d]
    | d :: more => d :: '.' :: more
  point ++ f.exponentMark :: (if e < 0 then '-' else '+') ::
    (List.replicate (f.exponentDigits - power.length) '0' ++ power)

/-- The text of a finite rank. -/
def magnitude (f : Notation) (rank : Nat) : List Char :=
  if rank = 0 then ['0', '.', '0']
  else
    let d := Shortest.shortest rank
    let digits := natText d.digits
    let e := d.exponent + (digits.length : Int) - 1
    if f.positionalFrom ≤ e ∧ e < f.positionalBelow then positional digits (e + 1)
    else f.exponential digits e

def write (f : Notation) : Binary64 → String
  | .nan => f.notANumber
  | .signed negative rank =>
    let sign := if negative then "-" else ""
    if rank.val = Binary64.top then sign ++ f.infinite
    else sign ++ String.ofList (f.magnitude rank.val)

end Notation

end DesignTokens
