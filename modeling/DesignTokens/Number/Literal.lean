import DesignTokens.Number.Notation
import DesignTokens.Text.Blank
import DesignTokens.Text.Digit

/-! # Number literals

Texts that are numbers as a whole. `natural` reads digits of a base, `integer` a whole number with
its sign and the mark of its base, `double` a decimal number or the name of infinity or of "not a
number". Letters count in both cases. -/
namespace DesignTokens.Literal

/-- What is said of a whole number of too many digits. -/
def digitsMessage (count : Nat) : String :=
  "Exceeds the limit (4300 digits) for integer string conversion: value has " ++ toString count ++
    " digits; use sys.set_int_max_str_digits() to increase the limit"

def letterValue? (c : Char) : Option Nat :=
  let c := c.toLower
  if 'a' ≤ c ∧ c ≤ 'z' then some (c.toNat - 'a'.toNat + 10) else none

/-- Blanks that may stand around a number; the separators of records may not. -/
def isMargin (c : Char) : Bool := Text.isBlank c && !(0x1C ≤ c.toNat && c.toNat ≤ 0x1F)

/-- A text without the blanks around it. -/
def trimmed (cs : List Char) : List Char := Text.stripped isMargin cs

/-- The value of a digit below a base. -/
def baseDigit? (base : Nat) (c : Char) : Option Nat :=
  ((Text.digit? c).or (letterValue? c)).filter (· < base)

/-- A sign and what follows it. -/
def signed : List Char → Bool × List Char
  | '-' :: rest => (true, rest)
  | '+' :: rest => (false, rest)
  | cs => (false, cs)

/-- The letter that marks a base behind a zero. -/
def baseMark? : Nat → Option Char
  | 2 => some 'b'
  | 8 => some 'o'
  | 16 => some 'x'
  | _ => none

def dropBaseMark (base : Nat) (cs : List Char) : List Char :=
  match cs with
  | z :: mark :: rest =>
    if Text.digit? z = some 0 ∧ baseMark? base = some mark.toLower then rest else cs
  | _ => cs

inductive IntegerFault
  | form
  | digits (count : Nat)
  deriving DecidableEq, Repr

/-- A whole number between blanks. Only decimal ones are bounded, because the bases that are powers
of two convert digit by digit. -/
def integer (base : Nat) (cs : List Char) : Except IntegerFault Int :=
  let (negative, cs) := signed (trimmed cs)
  let cs := dropBaseMark base cs
  let digits := (cs.takeWhile fun c => (baseDigit? base c).isSome).filterMap (baseDigit? base)
  if digits.isEmpty then .error .form
  else if base = 10 ∧ maxDigits < digits.length then .error (.digits digits.length)
  else if digits.length < cs.length then .error .form
  else
    let n := digits.foldl (fun n d => n * base + d) 0
    .ok (if negative then -(n : Int) else n)

/-- A decimal number of ASCII characters without blanks: digits on at least one side of the point,
and an exponent that has a digit. -/
def decimal? (negative : Bool) (cs : List Char) : Option Binary64 :=
  let value (ds : List Char) : Nat := ds.foldl (fun n d => n * 10 + (d.toNat - '0'.toNat)) 0
  let whole := cs.takeWhile Char.isDigit
  let (frac, rest) := match cs.dropWhile Char.isDigit with
    | '.' :: more => (more.takeWhile Char.isDigit, more.dropWhile Char.isDigit)
    | more => ([], more)
  if whole.isEmpty && frac.isEmpty then none
  else
    let digits := value (whole ++ frac)
    let places : Int := frac.length
    match rest with
    | [] => some (.ofDecimal negative digits (-places))
    | e :: rest =>
      let (down, power) := signed rest
      if e.toLower = 'e' ∧ !power.isEmpty ∧ power.all Char.isDigit then
        let n : Int := value power
        some (.ofDecimal negative digits ((if down then -n else n) - places))
      else none

/-- A decimal number, infinity or "not a number", without blanks. -/
def double? (cs : List Char) : Option Binary64 :=
  let (negative, cs) := signed cs
  let word := String.ofList (cs.map Char.toLower)
  if word = "inf" ∨ word = "infinity" then some (.infinity negative)
  else if word = "nan" then some .nan
  else decimal? negative cs

/-- Every decimal digit as its ASCII form. -/
def asciiDigit (c : Char) : Char :=
  match Text.digit? c with
  | some d => Char.ofNat ('0'.toNat + d)
  | none => c

/-- A double between blanks, in the digits of any script. -/
def anyDouble? (cs : List Char) : Option Binary64 := double? ((trimmed cs).map asciiDigit)

end DesignTokens.Literal
