import DesignTokens.Text.Blank
import DesignTokens.Text.Quoted

/-! # The arguments of handler tags

A tag whose name starts with an at sign hands arguments to a handler. They are written as a literal
value: numbers, texts, words, tuples, sets and mappings. `fault?` tells what is wrong with a
text that is no such value. -/
namespace DesignTokens.Console.Arguments

/-- What is wrong with arguments: their form, or a member that no set and no mapping can have. -/
inductive Fault
  | form (message : String)
  | value (message : String)
  deriving DecidableEq, Repr

inductive Lexeme
  | number (imaginary : Bool)
  | text (bytes : Bool)
  | word (name : String)
  | mark (c : Char)
  deriving DecidableEq, Repr

def isWordChar (c : Char) : Bool := c.isAlphanum || c = '_' || 128 ≤ c.toNat

/-- The bracket that a closing bracket belongs to. -/
def opening? : Char → Option Char
  | ')' => some '('
  | ']' => some '['
  | '\x7d' => some '\x7b'
  | _ => none

/-- What follows a text that ends with `quote`; a line end stops it. -/
def textEnd? (quote : Char) : List Char → Option (List Char)
  | [] => none
  | '\\' :: _ :: rest => textEnd? quote rest
  | c :: rest => if c = quote then some rest else if c = '\n' then none else textEnd? quote rest

def isTextMark (word : List Char) : Bool :=
  ["r", "b", "u", "br", "rb"].contains (String.ofList (word.map Char.toLower))

def isHexDigit (c : Char) : Bool := c.isDigit || ('a' ≤ c.toLower && c.toLower ≤ 'f')

/-- The digits that an escape needs, by its letter. -/
def escapeLength? (bytes : Bool) (letter : Char) : Option Nat :=
  if letter = 'x' then some 2
  else if bytes then none
  else if letter = 'u' then some 4
  else if letter = 'U' then some 8
  else none

/-- What is said of an escape that has too few digits, from its position and the digits it has. -/
def truncated (bytes : Bool) (letter : Char) (position digits : Nat) : String :=
  if bytes then "(value error) invalid \\x escape at position " ++ toString position
  else
    "(unicode error) 'unicodeescape' codec can't decode bytes in position " ++ toString position ++
      "-" ++ toString (position + digits + 1) ++ ": truncated \\" ++ letter.toString ++
      String.ofList (List.replicate ((escapeLength? bytes letter).getD 0) 'X') ++ " escape"

/-- What is wrong with the escapes of a text. Characters outside ASCII are counted as long escapes of
their own, and the octets of bytes are ASCII. -/
def escapeFault? (bytes raw : Bool) (position : Nat) : List Char → Option String
  | [] => none
  | '\\' :: c :: rest =>
    let digits := ((rest.take ((escapeLength? bytes c).getD 0)).takeWhile isHexDigit).length
    if !raw && digits < (escapeLength? bytes c).getD 0 then
      some (truncated bytes c position digits)
    else escapeFault? bytes raw (position + 2) rest
  | c :: rest =>
    if 128 ≤ c.toNat && bytes then some "bytes can only contain ASCII literal characters"
    else escapeFault? bytes raw (position + if 128 ≤ c.toNat then 10 else 1) rest

/-- Digits that may have low lines between them. -/
def isGrouped (p : Char → Bool) : List Char → Bool
  | [] => false
  | [c] => p c
  | c :: '_' :: rest => p c && isGrouped p rest
  | c :: rest => p c && isGrouped p rest

/-- Digits behind the mark of their base, from which a low line may part them. -/
def isMarked (p : Char → Bool) : List Char → Bool
  | '_' :: digits => isGrouped p digits
  | digits => isGrouped p digits

/-- Digits alone that start with a zero and are not all zeros. -/
def hasLeadingZero (cs : List Char) : Bool :=
  cs.head? = some '0' && cs.all (fun c => c.isDigit || c = '_') &&
    cs.any fun c => c ≠ '0' && c ≠ '_'

/-- A number without a sign: whole in one of four bases, or with a point or a power of ten. -/
def isNumber (cs : List Char) : Bool :=
  match cs.map Char.toLower with
  | '0' :: 'x' :: digits => isMarked isHexDigit digits
  | '0' :: 'o' :: digits => isMarked (fun c => '0' ≤ c && c ≤ '7') digits
  | '0' :: 'b' :: digits => isMarked (fun c => c = '0' || c = '1') digits
  | cs =>
    let cs := if cs.getLast? = some 'j' then cs.dropLast else cs
    let mantissa := cs.takeWhile (· ≠ 'e')
    let power := cs.drop (mantissa.length + 1)
    let power := if power.head? = some '+' || power.head? = some '-' then power.drop 1 else power
    let whole := mantissa.takeWhile (· ≠ '.')
    let part := mantissa.drop (whole.length + 1)
    (mantissa.length = cs.length || isGrouped Char.isDigit power) &&
      (whole.isEmpty || isGrouped Char.isDigit whole) &&
      (part.isEmpty || isGrouped Char.isDigit part) && !(whole.isEmpty && part.isEmpty)

/-- The characters of a number; a sign belongs to it behind the mark of a power. -/
def numberChars : List Char → List Char
  | [] => []
  | e :: sign :: rest =>
    if (e = 'e' || e = 'E') && (sign = '+' || sign = '-') then e :: sign :: numberChars rest
    else if isWordChar e || e = '.' then e :: numberChars (sign :: rest)
    else []
  | [c] => if isWordChar c || c = '.' then [c] else []

/-- The lexemes of a text and the brackets that it leaves open, the latest first. -/
def lexemes : Nat → List Char → List Char → Except String (List Lexeme × List Char)
  | 0, _, opened => .ok ([], opened)
  | _, [], opened => .ok ([], opened)
  | fuel + 1, c :: rest, opened =>
    let more (l : Lexeme) (rest opened : List Char) :
        Except String (List Lexeme × List Char) := do
      let (ls, opened) ← lexemes fuel rest opened
      return (l :: ls, opened)
    let text (mark : List Char) (quote : Char) (rest : List Char) :
        Except String (List Lexeme × List Char) :=
      let bytes := mark.any fun c => c.toLower = 'b'
      let raw := mark.any fun c => c.toLower = 'r'
      match textEnd? quote rest with
      | some behind =>
        match escapeFault? bytes raw 0 (rest.take (rest.length - behind.length - 1)) with
        | some message => .error message
        | none => more (.text bytes) behind opened
      | none => .error "unterminated string literal (detected at line 1)"
    if c = ' ' || c = '\t' || c = '\n' then lexemes fuel rest opened
    else if c = '#' then lexemes fuel (rest.dropWhile (· ≠ '\n')) opened
    else if c = '\'' || c = '"' then text [] c rest
    else if c.isDigit || (c = '.' && rest.head?.any Char.isDigit) then
      let cs := numberChars (c :: rest)
      if hasLeadingZero cs then
        .error ("leading zeros in decimal integer literals are not permitted; " ++
          "use an 0o prefix for octal integers")
      else if isNumber cs then
        more (.number (cs.getLast?.any fun c => c.toLower = 'j' && !cs.contains 'x'))
          ((c :: rest).drop cs.length) opened
      else .error "invalid decimal literal"
    else if isWordChar c then
      let word := (c :: rest).takeWhile isWordChar
      match (c :: rest).drop word.length with
      | q :: behind =>
        if isTextMark word && (q = '\'' || q = '"') then text word q behind
        else more (.word (String.ofList word)) (q :: behind) opened
      | [] => more (.word (String.ofList word)) [] opened
    else if c = '(' || c = '[' || c = '\x7b' then more (.mark c) rest (c :: opened)
    else
      match opening? c with
      | none => more (.mark c) rest opened
      | some partner =>
        match opened with
        | [] => .error ("unmatched '" ++ c.toString ++ "'")
        | o :: outer =>
          if o = partner then more (.mark c) rest outer
          else
            .error ("closing parenthesis '" ++ c.toString ++
              "' does not match opening parenthesis '" ++ o.toString ++ "'")

/-- What a value is to the value around it: a number that may take a sign, a real number with its
sign, a type that no set and no mapping can have, or anything else. -/
inductive Member
  | number (imaginary : Bool)
  | signed
  | unhashable (type : String)
  | other
  deriving DecidableEq, Repr

def Member.type? : Member → Option String
  | .unhashable type => some type
  | _ => none

/-- A value that fits a set or the keys of a mapping. -/
def fits (m : Member) : Except Fault Unit :=
  match m.type? with
  | none => .ok ()
  | some type => .error (.value ("unhashable type: '" ++ type ++ "'"))

/-- A tuple, which is unhashable if one of its members is. -/
def tuple (members : List Member) : Member :=
  match members.findSome? Member.type? with
  | some type => .unhashable type
  | none => .other

def malformed {α : Type} : Except Fault α := .error (.form "invalid syntax")

/-- A real number, with a sign or without. -/
def Member.isReal : Member → Bool
  | .number imaginary => !imaginary
  | .signed => true
  | _ => false

mutual

/-- A value and what follows it: a real number with an imaginary one added to it, or a single one. -/
def value : Nat → List Lexeme → Except Fault (Member × List Lexeme)
  | 0, _ => malformed
  | fuel + 1, ls => do
    let (m, rest) ← single fuel ls
    match rest with
    | .mark sign :: behind =>
      if sign = '+' || sign = '-' then
        let (part, rest) ← single fuel behind
        if m.isReal && part = .number true then return (.other, rest) else malformed
      else return (m, rest)
    | _ => return (m, rest)

/-- A value without a sum, which may have a sign if it is a number. -/
def single : Nat → List Lexeme → Except Fault (Member × List Lexeme)
  | 0, _ => malformed
  | fuel + 1, ls =>
    match ls with
    | .number imaginary :: rest => .ok (.number imaginary, rest)
    | .text bytes :: rest =>
      let more := rest.takeWhile fun l => l = .text true || l = .text false
      if more.all (· = .text bytes) then .ok (.other, rest.drop more.length)
      else .error (.form "cannot mix bytes and nonbytes literals")
    | .mark '-' :: rest | .mark '+' :: rest => do
      match ← single fuel rest with
      | (.number imaginary, rest) => return (if imaginary then .other else .signed, rest)
      | _ => malformed
    | .mark '.' :: .mark '.' :: .mark '.' :: rest => .ok (.other, rest)
    | .word "set" :: .mark '(' :: .mark ')' :: rest => .ok (.unhashable "set", rest)
    | .word name :: rest =>
      if ["None", "True", "False"].contains name then .ok (.other, rest) else malformed
    | .mark '(' :: rest => do
      let (members, parted, rest) ← values ')' fuel rest
      match members with
      | [m] => return (if parted then tuple members else m, rest)
      | _ => return (tuple members, rest)
    | .mark '\x7b' :: .mark '\x7d' :: rest => .ok (.unhashable "dict", rest)
    | .mark '\x7b' :: rest => do
      let (_, behind) ← value fuel rest
      if behind.head? = some (.mark ':') then
        let (keys, rest) ← entries fuel rest
        keys.forM fits
        return (.unhashable "dict", rest)
      else
        let (members, _, rest) ← values '\x7d' fuel rest
        members.forM fits
        return (.unhashable "set", rest)
    | _ => malformed

/-- Values up to a closing bracket, and whether a comma stands behind the last one. -/
def values (closing : Char) : Nat → List Lexeme → Except Fault (List Member × Bool × List Lexeme)
  | 0, _ => malformed
  | fuel + 1, ls =>
    if ls.head? = some (.mark closing) then .ok ([], true, ls.drop 1)
    else do
      let (m, rest) ← value fuel ls
      match rest with
      | .mark ',' :: rest => do
        let (ms, parted, rest) ← values closing fuel rest
        return (m :: ms, parted, rest)
      | .mark c :: rest => if c = closing then return ([m], false, rest) else malformed
      | _ => .error (.form "invalid syntax. Perhaps you forgot a comma?")

/-- The entries of a mapping up to its end, of which the keys are told. -/
def entries : Nat → List Lexeme → Except Fault (List Member × List Lexeme)
  | 0, _ => malformed
  | fuel + 1, ls =>
    if ls.head? = some (.mark '\x7d') then .ok ([], ls.drop 1)
    else do
      let (k, rest) ← value fuel ls
      match rest with
      | .mark ':' :: rest => do
        let (_, rest) ← value fuel rest
        match rest with
        | .mark ',' :: rest => do
          let (ks, rest) ← entries fuel rest
          return (k :: ks, rest)
        | .mark '\x7d' :: rest => return ([k], rest)
        | _ => malformed
      | _ => malformed

end

/-- A value, or several with commas between them, and nothing else. -/
def whole : Nat → List Lexeme → Except Fault Unit
  | 0, _ => malformed
  | fuel + 1, ls => do
    let (_, rest) ← value (4 * ls.length + 4) ls
    match rest with
    | [] | [.mark ','] => return ()
    | .mark ',' :: rest => whole fuel rest
    | _ => malformed

/-- What is wrong with the literal of arguments, if anything is. -/
def fault? (cs : List Char) : Option Fault :=
  match lexemes (cs.length + 1) cs [] with
  | .error message => some (.form message)
  | .ok (ls, opened) =>
    match opened, whole (ls.length + 1) ls with
    | [], .ok _ => none
    | [], .error f => some f
    | o :: _, _ => some (.form ("'" ++ o.toString ++ "' was never closed"))

/-- The part of a tag's parameters that is a literal: behind the name of a handler the call, or
else the whole; a name alone is called without arguments. -/
def literal (parameters : List Letter) : List Letter :=
  let call := parameters.dropWhile fun
    | .char c => isWordChar c || c = '.'
    | .surrogate _ => false
  match call with
  | [] => [.char '(', .char ')']
  | .char '(' :: inside =>
    if inside.getLast? = some ')' && !inside.contains '\n' then call else parameters
  | _ => parameters

example : fault? "('a', \x7b1: 2.5\x7d, -(1)+2j, 0x_1)".toList = none ∧
    fault? "('a' b'b',)".toList = some (.form "cannot mix bytes and nonbytes literals") ∧
    literal ("go(1" : Text).toList = ("go(1" : Text).toList ∧
    fault? "go(1".toList = some (.form "'(' was never closed") := by
  decide +kernel

end DesignTokens.Console.Arguments
