import DesignTokens.Settings

/-! # Command line options

Options in their long and short forms. A value may stand in the same argument or in the next one;
short flags may share an argument. Of an option that is given twice the last one counts, and the
requests for the version and for help go before everything but a fault of form. -/
namespace DesignTokens.CommandLine

inductive Choice
  | tokens
  | output
  | interval
  | watch
  | verbose
  | version
  | help
  deriving DecidableEq, Repr

namespace Choice

def takesValue : Choice → Bool
  | .tokens | .output | .interval => true
  | _ => false

/-- The choices by their long names. -/
def long : List (String × Choice) :=
  [("--tokens", .tokens), ("--out-dir", .output), ("--watch", .watch), ("--interval", .interval),
    ("--verbose", .verbose), ("--version", .version), ("--help", .help)]

/-- The choices by their letters. -/
def short : List (Char × Choice) := [('t', .tokens), ('o', .output), ('w', .watch)]

end Choice

/-- What is wrong with the arguments of a run. -/
inductive UsageFault
  | unknown (option : String)
  | missingValue (choice : Choice)
  | needlessValue (choice : Choice)
  | noNumber (text : String)
  | noPath (choice : Choice)
  | surplus (arguments : List String)
  deriving DecidableEq, Repr

def Choice.name (c : Choice) : String :=
  ((Choice.long.find? fun e => e.2 = c).map Prod.fst).getD ""

def UsageFault.message : UsageFault → String
  | .unknown option => "No such option: " ++ option
  | .missingValue c => "Option '" ++ c.name ++ "' requires an argument."
  | .needlessValue c => "Option '" ++ c.name ++ "' does not take a value."
  | .noPath c => "Invalid value for '" ++ c.name ++ "': a path holds no null byte."
  | .noNumber text => "Invalid value for '--interval': '" ++ text ++ "' is not a valid float."
  | .surplus arguments => "Got unexpected extra arguments (" ++ " ".intercalate arguments ++ ")"

/-- A choice with the value that was given for it, which is empty for a flag. -/
structure Given where
  choice : Choice
  value : String
  deriving DecidableEq, Repr

/-- What one argument holds: choices that are complete, and one whose value is the next argument. -/
structure Reading where
  given : List Given
  awaited : Option Choice
  deriving DecidableEq, Repr

/-- An argument with a long name, and the text behind its equals sign if there is one. -/
def readLong (name : String) (value : Option String) : Except UsageFault Reading :=
  match Choice.long.lookup name with
  | none => .error (.unknown name)
  | some c =>
    match value with
    | some v => if c.takesValue then .ok ⟨[⟨c, v⟩], none⟩ else .error (.needlessValue c)
    | none => .ok (if c.takesValue then ⟨[], some c⟩ else ⟨[⟨c, ""⟩], none⟩)

/-- Letters that share an argument. What follows a letter that takes a value is its value. -/
def readShort : List Char → Except UsageFault Reading
  | [] => .ok ⟨[], none⟩
  | letter :: rest =>
    match Choice.short.lookup letter with
    | none => .error (.unknown (String.ofList ['-', letter]))
    | some c =>
      if c.takesValue then
        .ok (if rest.isEmpty then ⟨[], some c⟩ else ⟨[⟨c, String.ofList rest⟩], none⟩)
      else
        match readShort rest with
        | .ok more => .ok ⟨⟨c, ""⟩ :: more.given, more.awaited⟩
        | .error f => .error f

/-- One argument that starts with a dash and has more behind it. -/
def readOption (argument : String) : Except UsageFault Reading :=
  match argument.toList with
  | '-' :: '-' :: cs =>
    let name := cs.takeWhile (· ≠ '=')
    let value := if name.length < cs.length then some (String.ofList (cs.drop (name.length + 1)))
      else none
    readLong (String.ofList ('-' :: '-' :: name)) value
  | cs => readShort (cs.drop 1)

def isOption (argument : String) : Bool :=
  match argument.toList with
  | '-' :: _ :: _ => true
  | _ => false

/-- The choices in order, and the arguments that are none. Two dashes alone end the options. -/
def read : List String → Except UsageFault (List Given × List String)
  | [] => .ok ([], [])
  | argument :: rest =>
    if argument = "--" then .ok ([], rest)
    else if !isOption argument then
      match read rest with
      | .ok (given, others) => .ok (given, argument :: others)
      | .error f => .error f
    else
      match readOption argument with
      | .error f => .error f
      | .ok ⟨given, none⟩ =>
        match read rest with
        | .ok (more, others) => .ok (given ++ more, others)
        | .error f => .error f
      | .ok ⟨given, some c⟩ =>
        match rest with
        | [] => .error (.missingValue c)
        | value :: rest =>
          match read rest with
          | .ok (more, others) => .ok (given ++ ⟨c, value⟩ :: more, others)
          | .error f => .error f

/-- What a compilation is asked to do. -/
structure Options where
  tokens : Option Path
  output : Option Path
  interval : Option Binary64
  watch : Bool
  verbose : Bool
  deriving DecidableEq

inductive Command
  | showVersion
  | showHelp
  | compile (o : Options)
  deriving DecidableEq

/-- The value that was given last. -/
def last? (given : List Given) (c : Choice) : Option String :=
  ((given.filter fun g => g.choice = c).getLast?).map Given.value

/-- The path that was given last for a choice. -/
def pathOf (given : List Given) (c : Choice) : Except UsageFault (Option Path) :=
  match (last? given c).map Path.ofString with
  | none => .ok none
  | some path => if path.hasNul then .error (.noPath c) else .ok (some path)

/-- The options, with `number?` for the reader of numbers. -/
def optionsOf (number? : String → Option Binary64) (given : List Given) :
    Except UsageFault Options := do
  let interval ← match last? given .interval with
    | none => Except.ok none
    | some text =>
      match number? text with
      | some x => .ok (some x)
      | none => .error (.noNumber text)
  return ⟨← pathOf given .tokens, ← pathOf given .output, interval,
    (last? given .watch).isSome, (last? given .verbose).isSome⟩

/-- The choices that stand for a command of their own. -/
def immediate? : Choice → Option Command
  | .version => some .showVersion
  | .help => some .showHelp
  | _ => none

/-- The command that arguments ask for. -/
def parse (number? : String → Option Binary64) (arguments : List String) :
    Except UsageFault Command := do
  let (given, others) ← read arguments
  match given.findSome? fun g => immediate? g.choice with
  | some command => return command
  | none =>
    let options ← optionsOf number? given
    if others.isEmpty then return .compile options else .error (.surplus others)

end DesignTokens.CommandLine
