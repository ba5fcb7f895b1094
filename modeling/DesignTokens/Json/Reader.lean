import DesignTokens.Number.Literal
import DesignTokens.Value

/-! # Reading JSON

Texts are read strictly, with three additions: the words for infinity and "not a number" are
values, an object may repeat a key (the last value wins and keeps the first place), and whole
numbers are exact up to a bound on their digits. Every refusal carries the rest of the text from
the place it is about; the place is counted from there once, at the end. -/
namespace DesignTokens.Json

inductive Cause
  | byteOrderMark
  | noValue
  | extraData
  | noName
  | noColon
  | noComma
  | openString
  | controlCharacter
  | badEscape
  | badCodePoint
  deriving DecidableEq, Repr

def Cause.message : Cause → String
  | .byteOrderMark => "Unexpected UTF-8 BOM (decode using utf-8-sig)"
  | .noValue => "Expecting value"
  | .extraData => "Extra data"
  | .noName => "Expecting property name enclosed in double quotes"
  | .noColon => "Expecting ':' delimiter"
  | .noComma => "Expecting ',' delimiter"
  | .openString => "Unterminated string starting at"
  | .controlCharacter => "Invalid control character at"
  | .badEscape => "Invalid \\escape"
  | .badCodePoint => "Invalid \\uXXXX escape"

/-- Why reading stopped: a fault of form, with the text from there on, or a whole number of more
digits than are converted. -/
inductive Refusal
  | form (cause : Cause) (rest : List Char)
  | digits (count : Nat)

abbrev Read (α : Type) := Except Refusal (α × List Char)

def refuse {α : Type} (cause : Cause) (rest : List Char) : Read α := .error (.form cause rest)

def isSpace (c : Char) : Bool := c = ' ' || c = '\t' || c = '\n' || c = '\r'

def skipSpace (cs : List Char) : List Char := cs.dropWhile isSpace

def digitValue (c : Char) : Nat := c.toNat - '0'.toNat

def decimal (ds : List Char) : Nat := ds.foldl (fun n d => n * 10 + digitValue d) 0

def hexValue? (c : Char) : Option Nat :=
  if c.isDigit then some (c.toNat - 48)
  else if 'a' ≤ c ∧ c ≤ 'f' then some (c.toNat - 87)
  else if 'A' ≤ c ∧ c ≤ 'F' then some (c.toNat - 55)
  else none

def hexNumber? (cs : List Char) : Option Nat :=
  cs.foldl (fun acc c => acc.bind fun n => (hexValue? c).map (n * 16 + ·)) (some 0)

/-- The code unit written by four hexadecimal digits that something still follows. -/
def codeUnit? : List Char → Option (Nat × List Char)
  | a :: b :: c :: d :: next :: rest => (hexNumber? [a, b, c, d]).map (·, next :: rest)
  | _ => none

def isHighSurrogate (n : Nat) : Bool := 0xD800 ≤ n && n < 0xDC00
def isLowSurrogate (n : Nat) : Bool := 0xDC00 ≤ n && n < 0xE000

/-- The letter of a code point; a surrogate is no character. -/
def letterOf (n : Nat) : Letter :=
  if isHighSurrogate n || isLowSurrogate n then .surrogate (Fin.ofNat 2048 (n - 0xD800))
  else .char (Char.ofNat n)

/-- A letter written as an escape: a character of one or of two code units, or a surrogate that its
partner does not follow. `cs` starts behind the backslash, with the `u`. -/
def escapedCodePoint (cs : List Char) : Read Letter :=
  match codeUnit? (cs.drop 1) with
  | none => refuse .badCodePoint cs
  | some (high, rest) =>
    match rest with
    | '\\' :: 'u' :: more =>
      if isHighSurrogate high && 5 ≤ more.length then
        match codeUnit? more with
        | none => refuse .badCodePoint ('u' :: more)
        | some (low, after) =>
          if isLowSurrogate low then
            .ok (.char (Char.ofNat (0x10000 + (high - 0xD800) * 0x400 + (low - 0xDC00))), after)
          else .ok (letterOf high, rest)
      else .ok (letterOf high, rest)
    | _ => .ok (letterOf high, rest)

def simpleEscape? : Char → Option Char
  | '"' => some '"'
  | '\\' => some '\\'
  | '/' => some '/'
  | 'b' => some '\x08'
  | 'f' => some '\x0c'
  | 'n' => some '\n'
  | 'r' => some '\r'
  | 't' => some '\t'
  | _ => none

/-- The inside of a string up to the closing quote; `whole` is the text from the opening one on. -/
def stringBody (whole : List Char) : Nat → List Char → List Letter → Read (List Letter)
  | 0, _, _ => refuse .openString whole
  | fuel + 1, cs, done =>
    match cs with
    | [] => refuse .openString whole
    | '"' :: rest => .ok (done.reverse, rest)
    | '\\' :: rest =>
      match rest with
      | [] => refuse .openString whole
      | 'u' :: _ =>
        match escapedCodePoint rest with
        | .error e => .error e
        | .ok (c, after) => stringBody whole fuel after (c :: done)
      | e :: after =>
        match simpleEscape? e with
        | none => refuse .badEscape cs
        | some c => stringBody whole fuel after (.char c :: done)
    | c :: rest =>
      if c.toNat < 0x20 then refuse .controlCharacter cs
      else stringBody whole fuel rest (.char c :: done)

/-- A string; `rest` starts behind its opening quote. -/
def string (rest : List Char) : Read Text :=
  match stringBody ('"' :: rest) (rest.length + 1) rest [] with
  | .error e => .error e
  | .ok (letters, after) => .ok (⟨letters⟩, after)

/-- The digits after a point, if there are any. -/
def fraction (cs : List Char) : List Char × List Char :=
  match cs with
  | '.' :: d :: rest =>
    if d.isDigit then ((d :: rest).takeWhile Char.isDigit, (d :: rest).dropWhile Char.isDigit)
    else ([], cs)
  | _ => ([], cs)

/-- The value of an exponent and what follows it; without digits there is no exponent. -/
def exponent (cs : List Char) : Option (Int × List Char) :=
  match cs with
  | e :: rest =>
    if e = 'e' ∨ e = 'E' then
      let (negative, ds) := match rest with
        | '-' :: ds => (true, ds)
        | '+' :: ds => (false, ds)
        | ds => (false, ds)
      let digits := ds.takeWhile Char.isDigit
      if digits.isEmpty then none
      else
        let n : Int := decimal digits
        some (if negative then -n else n, ds.dropWhile Char.isDigit)
    else none
  | [] => none

/-- A number without its sign: a whole number unless it has a fraction or an exponent. -/
def unsignedNumber (negative : Bool) (whole cs : List Char) : Read Scalar :=
  let int := match cs with
    | '0' :: _ => ['0']
    | _ => cs.takeWhile Char.isDigit
  if int.isEmpty then refuse .noValue whole
  else
    let (frac, afterFraction) := fraction (cs.drop int.length)
    let digits := decimal (int ++ frac)
    match exponent afterFraction with
    | some (e, rest) => .ok (.float (.ofDecimal negative digits (e - frac.length)), rest)
    | none =>
      if frac.isEmpty then
        if maxDigits < int.length then .error (.digits int.length)
        else .ok (.int (if negative then -(digits : Int) else digits), afterFraction)
      else .ok (.float (.ofDecimal negative digits (-(frac.length : Int))), afterFraction)

/-- What remains of a text behind a word it starts with. -/
def afterWord (word : String) (cs : List Char) : Option (List Char) :=
  if word.toList.isPrefixOf cs then some (cs.drop word.toList.length) else none

/-- The values written as words. -/
def words : List (String × Value) :=
  [("null", .null), ("true", .bool true), ("false", .bool false), ("NaN", .float .nan),
    ("Infinity", .float (.infinity false)), ("-Infinity", .float (.infinity true))]

def word? (cs : List Char) : Option (Value × List Char) :=
  words.findSome? fun w => (afterWord w.1 cs).map (w.2, ·)

/-- A value that has no parts. -/
def simple (cs : List Char) : Read Value :=
  match word? cs with
  | some found => .ok found
  | none =>
    match cs with
    | '-' :: rest => (unsignedNumber true cs rest).map fun r => (.scalar r.1, r.2)
    | _ => (unsignedNumber false cs cs).map fun r => (.scalar r.1, r.2)

mutual

def value : Nat → List Char → Read Value
  | 0, cs => refuse .noValue cs
  | fuel + 1, cs =>
    match cs with
    | '"' :: rest => (string rest).map fun r => (.text r.1, r.2)
    | '\x7b' :: rest =>
      match skipSpace rest with
      | '\x7d' :: after => .ok (.map [], after)
      | start => (members fuel start []).map fun r => (.map r.1, r.2)
    | '[' :: rest =>
      match skipSpace rest with
      | ']' :: after => .ok (.list [], after)
      | start => (items fuel start []).map fun r => (.list r.1, r.2)
    | _ => simple cs

/-- The members of an object from a name on, up to the closing brace. -/
def members : Nat → List Char → Entries → Read Entries
  | 0, cs, _ => refuse .noName cs
  | fuel + 1, cs, done =>
    match cs with
    | '"' :: rest =>
      match string rest with
      | .error e => .error e
      | .ok (name, rest) =>
        match skipSpace rest with
        | ':' :: rest =>
          match value fuel (skipSpace rest) with
          | .error e => .error e
          | .ok (v, rest) =>
            let done := done.put (.text name) v
            match skipSpace rest with
            | '\x7d' :: after => .ok (done, after)
            | ',' :: rest => members fuel (skipSpace rest) done
            | other => refuse .noComma other
        | other => refuse .noColon other
    | other => refuse .noName other

/-- The items of an array from a value on, up to the closing bracket. -/
def items : Nat → List Char → List Value → Read (List Value)
  | 0, cs, _ => refuse .noValue cs
  | fuel + 1, cs, done =>
    match value fuel cs with
    | .error e => .error e
    | .ok (v, rest) =>
      match skipSpace rest with
      | ']' :: after => .ok ((v :: done).reverse, after)
      | ',' :: rest => items fuel (skipSpace rest) (v :: done)
      | other => refuse .noComma other

end

/-- A whole text: one value with space around it. -/
def text (cs : List Char) : Except Refusal Value :=
  match cs with
  | '\uFEFF' :: _ => .error (.form .byteOrderMark cs)
  | _ =>
    match value (2 * cs.length + 2) (skipSpace cs) with
    | .error e => .error e
    | .ok (v, rest) =>
      match skipSpace rest with
      | [] => .ok v
      | extra => .error (.form .extraData extra)

/-- Where a refusal points: line and column count from one, the offset from zero. -/
structure Place where
  line : Nat
  column : Nat
  offset : Nat
  deriving DecidableEq, Repr

/-- The place that `offset` characters of the text lead to. -/
def place (cs : List Char) (offset : Nat) : Place :=
  let before := cs.take offset
  ⟨before.count '\n' + 1, (before.reverse.takeWhile (· ≠ '\n')).length + 1, offset⟩

def Place.message (p : Place) : String :=
  "line " ++ toString p.line ++ " column " ++ toString p.column ++ " (char " ++
    toString p.offset ++ ")"

inductive Fault
  | form (cause : Cause) (at_ : Place)
  | digits (count : Nat)

def Fault.message : Fault → String
  | .form cause p => cause.message ++ ": " ++ p.message
  | .digits count => Literal.digitsMessage count

/-- Reads a text, or says what is wrong with it and where. -/
def parse (cs : List Char) : Except Fault Value :=
  match text cs with
  | .ok v => .ok v
  | .error (.form cause rest) => .error (.form cause (place cs (cs.length - rest.length)))
  | .error (.digits count) => .error (.digits count)

end DesignTokens.Json
