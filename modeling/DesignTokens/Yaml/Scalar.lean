import DesignTokens.Text.Case
import DesignTokens.Value
import DesignTokens.Yaml.Plain

/-! # The values of scalars

What a scalar stands for under its tag. A text that a tag does not fit is a fault that says why. -/
namespace DesignTokens.Yaml

def truth (text : Text) : Except Fault Bool :=
  let word := Text.lowered text
  match truthWords.find? fun w => w.1 = word with
  | some (_, b) => .ok b
  | none => .error (.truth word)

def withoutUnderscores (text : Text) : List Letter := text.toList.filter (· ≠ '_')

/-- A whole number of a base, or the fault that names text and base. -/
def integerOf (base : Nat) (letters : List Letter) : Except Fault Int :=
  match Literal.integer base (letters.map Letter.standIn) with
  | .ok n => .ok n
  | .error .form => .error (.integer base ⟨letters⟩)
  | .error (.digits count) => .error (.digits count)

/-- A sign and what follows it. -/
def signed : List Letter → Bool × List Letter
  | .char '-' :: rest => (true, rest)
  | .char '+' :: rest => (false, rest)
  | letters => (false, letters)

/-- The sign in front of a number that is not empty, and whether anything follows it. -/
def signAndBody (letters : List Letter) : Except Fault (Bool × List Letter) :=
  if letters.isEmpty then .error .emptyNumber else .ok (signed letters)

def integer (text : Text) : Except Fault Int := do
  let (negative, letters) ← signAndBody (withoutUnderscores text)
  let magnitude ←
    match letters with
    | [] => Except.error Fault.emptyNumber
    | [.char '0'] => Except.ok 0
    | .char '0' :: .char 'b' :: rest => integerOf 2 rest
    | .char '0' :: .char 'x' :: rest => integerOf 16 rest
    | .char '0' :: _ => integerOf 8 letters
    | _ =>
      if letters.contains ':' then do
        let parts ← (Text.pieces (.char ':') letters).mapM (integerOf 10)
        Except.ok (parts.foldl (fun n d => n * 60 + d) 0)
      else integerOf 10 letters
  return if negative then -magnitude else magnitude

def doubleOf (letters : List Letter) : Except Fault Binary64 :=
  match Literal.anyDouble? (letters.map Letter.standIn) with
  | some x => .ok x
  | none => .error (.double ⟨letters⟩)

/-- The sum of parts that count sixty times as much as the next one, from the last to the first. A
part whose weight is too large for a double has no value, whatever its digits are. -/
def sexagesimalSum (parts : List Binary64) : Except Fault Binary64 := do
  let (sum, _) ← parts.reverse.foldlM (fun (sum, unit) part =>
      let weight := Binary64.ofInt unit
      if weight.isFinite then Except.ok (Binary64.add sum (part.scaleBy weight), unit * 60)
      else .error Fault.weight)
    (Binary64.zero false, (1 : Int))
  return sum

/-- The sign of a double and what is compared with the names of infinity and "not a number". -/
def doubleParts (text : Text) : Except Fault (Bool × List Letter) :=
  signAndBody (Text.lowered ⟨withoutUnderscores text⟩).toList

def infinityName : Text := ".inf"

def nanName : Text := ".nan"

def double (text : Text) : Except Fault Binary64 := do
  let (negative, letters) ← doubleParts text
  let magnitude ←
    if letters = infinityName.toList then Except.ok (Binary64.infinity false)
    else if letters = nanName.toList then Except.ok Binary64.nan
    else if letters.contains ':' then do
      sexagesimalSum (← (Text.pieces (.char ':') letters).mapM doubleOf)
    else doubleOf letters
  return if negative then magnitude.neg else magnitude

def dateOf (t : Timestamp) : Except Fault Date :=
  let d : Date := ⟨t.year, Json.decimal t.month, Json.decimal t.day⟩
  if d.year = 0 then .error (.year d.year)
  else if d.month < 1 ∨ 12 < d.month then .error (.calendar .month)
  else if d.day < 1 ∨ Date.daysInMonth d.year d.month < d.day then .error (.calendar .day)
  else .ok d

/-- Microseconds are the first six digits of a fraction, filled up with zeros. -/
def microseconds (fraction : List Char) : Nat :=
  Json.decimal ((fraction ++ List.replicate 6 '0').take 6)

def clockOf (t : TimeText) : Except Fault Clock :=
  if 23 < t.hour then .error (.calendar .hour)
  else if 59 < t.minute then .error (.calendar .minute)
  else if 59 < t.second then .error (.calendar .second)
  else .ok ⟨t.hour, t.minute, t.second, microseconds t.fraction⟩

/-- An offset is less than a day. -/
def offsetOf (minutes : Int) : Except Fault Int :=
  if 24 * 60 ≤ minutes.natAbs then .error (.offset (minutes * 60)) else .ok (minutes * 60)

def timestamp (text : Text) : Except Fault Atom :=
  match timestamp? (withoutLineEnd (text.toList.map Letter.standIn)) with
  | none => .error .timestamp
  | some t =>
    match t.time with
    | none => do return .date (← dateOf t)
    | some time => do
      let offset ← time.offset.mapM offsetOf
      return .moment ⟨← dateOf t, ← clockOf time, offset⟩

def sextet? (c : Char) : Option Nat :=
  if 'A' ≤ c ∧ c ≤ 'Z' then some (c.toNat - 65)
  else if 'a' ≤ c ∧ c ≤ 'z' then some (c.toNat - 71)
  else if '0' ≤ c ∧ c ≤ '9' then some (c.toNat + 4)
  else if c = '+' then some 62
  else if c = '/' then some 63
  else none

/-- Octets from characters of six bits each. `place` counts the characters of the current group,
`left` holds the bits that are still to be used, `pads` the marks of padding since the last
character. Other characters are passed over. -/
def sextets (place left pads : Nat) : List Char → Option (List UInt8)
  | [] => if place = 0 then some [] else none
  | c :: rest =>
    if c = '=' then
      if 2 ≤ place then
        if 4 ≤ place + pads + 1 then some [] else sextets place left (pads + 1) rest
      else sextets place left pads rest
    else
      match sextet? c with
      | none => sextets place left pads rest
      | some n =>
        match place with
        | 0 => sextets 1 n 0 rest
        | 1 => (sextets 2 (n % 16) 0 rest).map ((left * 4 + n / 16).toUInt8 :: ·)
        | 2 => (sextets 3 (n % 4) 0 rest).map ((left * 16 + n / 4).toUInt8 :: ·)
        | _ => (sextets 0 0 0 rest).map ((left * 64 + n).toUInt8 :: ·)

def octets (text : Text) : Except Fault (List UInt8) :=
  if text.toList.any fun letter => 128 ≤ letter.code then malformed
  else
    match sextets 0 0 0 (text.toList.map Letter.standIn) with
    | some bs => .ok bs
    | none => malformed

/-- The value of a scalar; a tag of collections or an unknown one does not fit any. -/
def scalarValue (tag : Tag) (text : Text) : Except Fault Atom :=
  match tag with
  | .null => .ok .null
  | .bool => (truth text).map .bool
  | .int => (integer text).map .int
  | .float => (double text).map .float
  | .timestamp => timestamp text
  | .octets => (octets text).map .octets
  | .text => .ok (.text text)
  | _ => malformed

end DesignTokens.Yaml
