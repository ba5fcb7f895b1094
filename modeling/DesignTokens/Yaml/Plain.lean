import DesignTokens.Yaml.Lexeme
import DesignTokens.Yaml.Tag
import DesignTokens.Text.Pieces

/-! # The tags of plain scalars

A scalar without a tag and without quotes gets its tag from the look of its text: words for null
and truth values, numbers in several notations, timestamps, the marks of a merge and of a value.
Everything else is text. -/
namespace DesignTokens.Yaml

def truthWords : List (String × Bool) :=
  [("yes", true), ("no", false), ("true", true), ("false", false), ("on", true), ("off", false)]

/-- A word in lower case, in capitals, or with a capital in front. -/
def isWordOf (word : String) (cs : List Char) : Bool :=
  let w := word.toList
  cs = w || cs = w.map Char.toUpper || cs = (w.take 1).map Char.toUpper ++ w.drop 1

def looksTrue (cs : List Char) : Bool := truthWords.any fun w => isWordOf w.1 cs

def looksNull (cs : List Char) : Bool := cs = ['~'] || isWordOf "null" cs

def isDigitOrLine (c : Char) : Bool := c.isDigit || c = '_'

/-- At least one character, all of a class. -/
def isRun (p : Char → Bool) (cs : List Char) : Bool := !cs.isEmpty && cs.all p

/-- A number from 0 to 59 of one or two digits. -/
def isSixtieth : List Char → Bool
  | [c] => c.isDigit
  | [t, c] => '0' ≤ t && t ≤ '5' && c.isDigit
  | _ => false

/-- A run of digits that starts with one, lines between them allowed. -/
def isDigits : List Char → Bool
  | [] => false
  | c :: rest => c.isDigit && rest.all isDigitOrLine

/-- Such a run without a zero in front. -/
def isCounting (cs : List Char) : Bool := isDigits cs && cs.head? ≠ some '0'

/-- Parts between colons: a first one that `p` accepts and then at least one sixtieth. -/
def isSexagesimal (p : List Char → Bool) (cs : List Char) : Bool :=
  match Text.pieces ':' cs with
  | first :: second :: more => p first && (second :: more).all isSixtieth
  | _ => false

def looksInteger (cs : List Char) : Bool :=
  let (_, body) := Literal.signed cs
  match body with
  | '0' :: 'b' :: rest => isRun (fun c => c = '0' || c = '1' || c = '_') rest
  | '0' :: 'x' :: rest => isRun (fun c => (Json.hexValue? c).isSome || c = '_') rest
  | '0' :: rest => rest.all fun c => ('0' ≤ c && c ≤ '7') || c = '_'
  | body => isCounting body || isSexagesimal isCounting body

/-- Nothing, or an exponent with its sign. -/
def isExponentOrNone : List Char → Bool
  | [] => true
  | e :: sign :: digits =>
    (e = 'e' || e = 'E') && (sign = '+' || sign = '-') && isRun Char.isDigit digits
  | _ => false

def isInfinityWord (cs : List Char) : Bool :=
  ["inf", "Inf", "INF"].any fun w => cs = w.toList

def isNanWord (cs : List Char) : Bool := ["nan", "NaN", "NAN"].any fun w => cs = w.toList

/-- A point has digits in front of it, or right behind it in a number without a sign. -/
def looksDouble (cs : List Char) : Bool :=
  let (_, body) := Literal.signed cs
  let whole := body.takeWhile (· ≠ '.')
  match body.dropWhile (· ≠ '.') with
  | [] => false
  | _ :: frac =>
    let power := frac.dropWhile isDigitOrLine
    (isDigits whole && isExponentOrNone power) ||
      (isSexagesimal isDigits whole && power.isEmpty) ||
      (whole.isEmpty && isInfinityWord frac) ||
      (cs.head? = some '.' &&
        (isNanWord frac || (isDigits (frac.takeWhile isDigitOrLine) && isExponentOrNone power)))

/-- The parts of a timestamp as written; the offset is in minutes. -/
structure TimeText where
  hour : Nat
  minute : Nat
  second : Nat
  fraction : List Char
  offset : Option Int

structure Timestamp where
  year : Nat
  month : List Char
  day : List Char
  time : Option TimeText

/-- The leading digits, of which there are `least` to `most`. -/
def digitsUpTo (least most : Nat) (cs : List Char) : Option (List Char × List Char) :=
  let ds := (cs.take most).takeWhile Char.isDigit
  if ds.length < least then none else some (ds, cs.drop ds.length)

def markOf (c : Char) : List Char → Option (List Char)
  | [] => none
  | d :: rest => if d = c then some rest else none

/-- A zone, which is the letter of universal time or a signed offset. -/
def zone (cs : List Char) : Option Int := do
  match cs with
  | ['Z'] => return 0
  | sign :: rest =>
    if sign ≠ '+' ∧ sign ≠ '-' then none
    else do
      let (hours, rest) ← digitsUpTo 1 2 rest
      let minutes ← match rest with
        | [] => some []
        | _ => do
          let (minutes, rest) ← digitsUpTo 2 2 (← markOf ':' rest)
          if rest.isEmpty then some minutes else none
      let total : Int := Json.decimal hours * 60 + Json.decimal minutes
      return if sign = '-' then -total else total
  | [] => none

def timeText (cs : List Char) : Option TimeText := do
  let (hour, rest) ← digitsUpTo 1 2 cs
  let (minute, rest) ← digitsUpTo 2 2 (← markOf ':' rest)
  let (second, rest) ← digitsUpTo 2 2 (← markOf ':' rest)
  let (fraction, rest) := match rest with
    | '.' :: more => (more.takeWhile Char.isDigit, more.dropWhile Char.isDigit)
    | _ => ([], rest)
  let offset ← if rest.isEmpty then some none else (zone (rest.dropWhile isFlowBlank)).map some
  return ⟨Json.decimal hour, Json.decimal minute, Json.decimal second, fraction, offset⟩

def timestamp? (cs : List Char) : Option Timestamp := do
  let (year, rest) ← digitsUpTo 4 4 cs
  let (month, rest) ← digitsUpTo 1 2 (← markOf '-' rest)
  let (day, rest) ← digitsUpTo 1 2 (← markOf '-' rest)
  let year := Json.decimal year
  match rest with
  | [] => return ⟨year, month, day, none⟩
  | c :: more =>
    if c = 'T' ∨ c = 't' then return ⟨year, month, day, some (← timeText more)⟩
    else if isFlowBlank c then
      return ⟨year, month, day, some (← timeText (rest.dropWhile isFlowBlank))⟩
    else none

/-- Without a tag, a date alone needs two digits for month and day. -/
def looksTimestamp (cs : List Char) : Bool :=
  match timestamp? cs with
  | none => false
  | some t => t.time.isSome || (t.month.length = 2 && t.day.length = 2)

/-- The text without one line end behind it, which the notations of values overlook. -/
def withoutLineEnd (cs : List Char) : List Char :=
  if cs.getLast? = some '\n' then cs.dropLast else cs

/-- The tag that the look of a text gives. -/
def Tag.ofLook (text : Text) : Tag :=
  let cs := text.toList.map Letter.standIn
  let body := withoutLineEnd cs
  if cs.isEmpty || looksNull body then .null
  else if looksTrue body then .bool
  else if looksDouble body then .float
  else if looksInteger body then .int
  else if looksTimestamp body then .timestamp
  else if body = ['<', '<'] then .merge
  else if body = ['='] then .value
  else if body = ['!'] || body = ['&'] || body = ['*'] then .unknown
  else .text

end DesignTokens.Yaml
