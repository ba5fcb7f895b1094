import DesignTokens.Toml.Text

/-! # Values of TOML

Strings, truth values, numbers, dates and times, arrays and inline tables. -/
namespace DesignTokens.Toml

/-- More digits of a class, with single lines between digits. -/
def moreDigits (p : Char → Bool) : List Char → List Char × List Char
  | [] => ([], [])
  | '_' :: c :: rest =>
    if p c then
      let (ds, after) := moreDigits p rest
      (c :: ds, after)
    else ([], '_' :: c :: rest)
  | c :: rest =>
    if p c then
      let (ds, after) := moreDigits p rest
      (c :: ds, after)
    else ([], c :: rest)

/-- Digits of a class, of which there is at least one in front. -/
def digits (p : Char → Bool) (cs : List Char) : Option (List Char × List Char) :=
  match cs with
  | c :: rest =>
    if p c then
      let (ds, after) := moreDigits p rest
      some (c :: ds, after)
    else none
  | [] => none

/-- A number in the base that a letter behind a zero marks. -/
def marked (cs : List Char) : Option (Int × List Char) :=
  let read (base : Nat) (rest : List Char) : Option (Int × List Char) :=
    (digits (fun c => (Literal.baseDigit? base c).isSome && c.toNat < 128) rest).map fun d =>
      let n : Nat := (d.1.filterMap (Literal.baseDigit? base)).foldl (fun n d => n * base + d) 0
      ((n : Int), d.2)
  match cs with
  | '0' :: 'x' :: rest => read 16 rest
  | '0' :: 'b' :: rest => read 2 rest
  | '0' :: 'o' :: rest => read 8 rest
  | _ => none

/-- The part of a number behind a mark; without a digit there is none. -/
def fraction (cs : List Char) : List Char × List Char :=
  match cs with
  | '.' :: rest => (digits Char.isDigit rest).getD ([], cs)
  | _ => ([], cs)

def exponent (cs : List Char) : Option (Int × List Char) :=
  match cs with
  | e :: rest =>
    if e = 'e' ∨ e = 'E' then
      let (negative, rest) := Literal.signed rest
      (digits Char.isDigit rest).map fun d =>
        let n : Int := Json.decimal d.1
        (if negative then -n else n, d.2)
    else none
  | [] => none

/-- A decimal number. It is whole unless it has a fraction or an exponent. -/
def decimal (cs : List Char) : Except Fault (Option (Scalar × List Char)) :=
  let (negative, body) := Literal.signed cs
  let whole := match body with
    | '0' :: rest => some (['0'], rest)
    | _ => digits Char.isDigit body
  match whole with
  | none => .ok none
  | some (int, rest) =>
    let (frac, rest) := fraction rest
    let digits := Json.decimal (int ++ frac)
    let places : Int := frac.length
    match exponent rest with
    | some (e, rest) => .ok (some (.float (.ofDecimal negative digits (e - places)), rest))
    | none =>
      if frac.isEmpty then
        if maxDigits < int.length then .error (.digits int.length)
        else .ok (some (.int (if negative then -(digits : Int) else digits), rest))
      else .ok (some (.float (.ofDecimal negative digits (-places)), rest))

def specialWords : List (String × Binary64) :=
  [("inf", .infinity false), ("+inf", .infinity false), ("-inf", .infinity true), ("nan", .nan),
    ("+nan", .nan), ("-nan", .nan)]

/-- Infinity or "not a number". -/
def special? (cs : List Char) : Option (Binary64 × List Char) :=
  (specialWords.find? fun w => startsWith w.1.toList cs).map fun w =>
    (w.2, cs.drop w.1.length)

/-- A number of exactly two digits within bounds. -/
def twoDigits (least most : Nat) (cs : List Char) : Option (Nat × List Char) :=
  match cs with
  | a :: b :: rest =>
    let n := Json.decimal [a, b]
    if a.isDigit && b.isDigit && least ≤ n && n ≤ most then some (n, rest) else none
  | _ => none

def after (c : Char) : List Char → Option (List Char)
  | [] => none
  | d :: rest => if d = c then some rest else none

/-- A time of day; of its fraction the first six digits count. -/
def clock? (cs : List Char) : Option (Clock × List Char) := do
  let (hour, rest) ← twoDigits 0 23 cs
  let (minute, rest) ← twoDigits 0 59 (← after ':' rest)
  let (second, rest) ← twoDigits 0 59 (← after ':' rest)
  let frac := match rest with
    | '.' :: more => more.takeWhile Char.isDigit
    | _ => []
  let micro := Json.decimal ((frac ++ List.replicate 6 '0').take 6)
  return (⟨hour, minute, second, micro⟩,
    if frac.isEmpty then rest else rest.drop (frac.length + 1))

/-- An offset behind a time, if there is one. -/
def offset (cs : List Char) : Option Int × List Char :=
  match cs with
  | [] => (none, [])
  | c :: rest =>
    if c = 'Z' ∨ c = 'z' then (some 0, rest)
    else if c = '+' ∨ c = '-' then
      let read : Option (Int × List Char) := do
        let (hours, rest) ← twoDigits 0 23 rest
        let (minutes, rest) ← twoDigits 0 59 (← after ':' rest)
        let seconds : Int := hours * 3600 + minutes * 60
        return (if c = '-' then -seconds else seconds, rest)
      match read with
      | some (seconds, rest) => (some seconds, rest)
      | none => (none, cs)
    else (none, cs)

/-- A date in digits; whether it is in the calendar is not asked. -/
def date? (cs : List Char) : Option (Date × List Char) := do
  let year := (cs.take 4).takeWhile Char.isDigit
  if year.length < 4 then none
  else
    let (month, rest) ← twoDigits 1 12 (← after '-' (cs.drop 4))
    let (day, rest) ← twoDigits 1 31 (← after '-' rest)
    return (⟨Json.decimal year, month, day⟩, rest)

def inCalendar (d : Date) : Bool := 1 ≤ d.year && d.day ≤ Date.daysInMonth d.year d.month

/-- A date, or a moment if a time follows. -/
def moment? (cs : List Char) : Option (Date × Atom × List Char) := do
  let (d, rest) ← date? cs
  let time := match rest with
    | c :: more => if c = 'T' ∨ c = 't' ∨ c = ' ' then clock? more else none
    | [] => none
  match time with
  | some (t, rest) =>
    let (zone, rest) := offset rest
    return (d, .moment ⟨d, t, zone⟩, rest)
  | none => return (d, .date d, rest)

/-- An atom that is no string. -/
def atom (cs : List Char) : Except Fault (Atom × List Char) :=
  if startsWith "true".toList cs then .ok (.bool true, cs.drop 4)
  else if startsWith "false".toList cs then .ok (.bool false, cs.drop 5)
  else
    match moment? cs with
    | some (d, a, rest) => if inCalendar d then .ok (a, rest) else malformed
    | none =>
      match clock? cs, marked cs with
      | some (t, rest), _ => .ok (.clock t, rest)
      | none, some (n, rest) => .ok (.int n, rest)
      | none, none => do
        match ← decimal cs with
        | some (s, rest) => return (.scalar s, rest)
        | none =>
          match special? cs with
          | some (x, rest) => return (.float x, rest)
          | none => malformed

def string (cs : List Char) : Except Fault (List Char × List Char) :=
  match cs with
  | c :: rest =>
    if startsWith [c, c] rest then linesString c cs
    else if c = '"' then basicString cs
    else literalString cs
  | [] => malformed

/-- Changes the table that a path of keys leads to; missing tables are made. Where a list of tables
is on the way, the last of them is meant if `lists` allows it. Any other value bars the way. -/
def within (lists : Bool) (change : Entries → Option Entries) :
    List String → Entries → Option Entries
  | [], es => change es
  | k :: path, es =>
    match es.get? k with
    | none => (within lists change path []).map fun sub => es.put (.text k) (.map sub)
    | some (.map sub) => (within lists change path sub).map fun sub => es.put (.text k) (.map sub)
    | some (.list items) =>
      match lists, items.getLast? with
      | true, some (.map sub) =>
        (within lists change path sub).map fun sub =>
          es.put (.text k) (.list (items.dropLast ++ [.map sub]))
      | _, _ => none
    | some _ => none

/-- Adds an entry whose key is not there yet. -/
def addNew (k : String) (v : Value) (es : Entries) : Option Entries :=
  if es.contains k then none else some (es.put (.text k) v)

/-- Whether a path lies in one of the frozen tables and arrays. -/
def isWithin (frozen : List (List String)) (path : List String) : Bool :=
  frozen.any fun f => f.isPrefixOf path

def isFrozenValue : Value → Bool
  | .list _ | .map _ => true
  | _ => false

/-- Blanks, line ends and comments between the items of an array. -/
def skipArrayBlanks : Nat → List Char → Except Fault (List Char)
  | 0, cs => .ok cs
  | fuel + 1, cs =>
    match cs.dropWhile isBlankOrLine with
    | '#' :: rest =>
      let comment := rest.takeWhile (· ≠ '\n')
      if comment.any isControl then malformed
      else skipArrayBlanks fuel (rest.drop comment.length)
    | rest => .ok rest

/-- The key of an assignment, with the rest behind the equals sign and its blanks. -/
def assigned (cs : List Char) : Except Fault (List String × List Char) := do
  let (path, rest) ← key cs
  match rest with
  | '=' :: rest => return (path, skipBlanks rest)
  | _ => malformed

mutual

/-- A value. `fuel` bounds the steps, of which there are fewer than two for each character. -/
def value : Nat → List Char → Except Fault (Value × List Char)
  | 0, _ => malformed
  | fuel + 1, cs =>
    match cs with
    | [] => malformed
    | c :: rest =>
      if c = '"' ∨ c = '\'' then do
        let (text, rest) ← string cs
        return (.text (String.ofList text), rest)
      else if c = '[' then do
        let (items, rest) ← items fuel (← skipArrayBlanks rest.length rest)
        return (.list items, rest)
      else if c = '\x7b' then
        match skipBlanks rest with
        | '\x7d' :: rest => .ok (.map [], rest)
        | rest => do
          let (es, rest) ← inlineEntries fuel rest [] []
          return (.map es, rest)
      else do
        let (a, rest) ← atom cs
        return (.atom a, rest)

/-- The items of an array up to its end; a comma may stand in front of it. -/
def items : Nat → List Char → Except Fault (List Value × List Char)
  | 0, _ => malformed
  | fuel + 1, cs =>
    if cs.head? = some ']' then .ok ([], cs.drop 1)
    else do
      let (v, rest) ← value fuel cs
      match ← skipArrayBlanks rest.length rest with
      | ']' :: rest => return ([v], rest)
      | ',' :: rest =>
        let (more, rest) ← items fuel (← skipArrayBlanks rest.length rest)
        return (v :: more, rest)
      | _ => malformed

/-- The entries of an inline table up to its end. Once read, a table or an array in it is frozen. -/
def inlineEntries : Nat → List Char → Entries → List (List String) →
    Except Fault (Entries × List Char)
  | 0, _, _, _ => malformed
  | fuel + 1, cs, es, frozen => do
    let (path, rest) ← assigned cs
    let (v, rest) ← value fuel rest
    if isWithin frozen path then malformed
    else
      match within false (addNew (path.getLast?.getD "") v) path.dropLast es with
      | none => malformed
      | some es =>
        match skipBlanks rest with
        | '\x7d' :: rest => return (es, rest)
        | ',' :: rest =>
          let frozen := if isFrozenValue v then path :: frozen else frozen
          inlineEntries fuel (skipBlanks rest) es frozen
        | _ => malformed

end

end DesignTokens.Toml
