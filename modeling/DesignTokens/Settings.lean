import DesignTokens.Number.Literal
import DesignTokens.Path
import DesignTokens.Value

/-! # Settings

Where a build reads the token document, where it writes the artifacts, and how often watch mode
polls. What is given explicitly comes first, then the environment, then the bundled theme. -/
namespace DesignTokens

/-- The values of environment variables by name. -/
abbrev Environment := List (String × String)

namespace Environment

def tokensName : String := "PRSM_TOKENS_PATH"
def outputName : String := "PRSM_OUTPUT_DIR"
def intervalName : String := "PRSM_WATCH_INTERVAL"
def levelName : String := "PRSM_LOG_LEVEL"

/-- A variable without the blanks around it; an empty one counts as not set. -/
def setting? (env : Environment) (name : String) : Option String :=
  ((env.lookup name).map Text.strip).filter (· ≠ "")

end Environment

/-- Why an interval is refused. -/
inductive IntervalFault
  | noNumber
  | noNumberText
  | noCharacters
  | notPositive
  deriving DecidableEq, Repr

def IntervalFault.message : IntervalFault → String
  | .noNumber => "poll_interval: float_type: Input should be a valid number"
  | .noNumberText =>
    "poll_interval: float_parsing: Input should be a valid number, " ++
      "unable to parse string as a number"
  | .noCharacters =>
    "poll_interval: string_unicode: Input should be a valid string, " ++
      "unable to parse raw data as a unicode string"
  | .notPositive => "poll_interval: greater_than: Input should be greater than 0"

/-- Single lines between the characters of a number are dropped. -/
def withoutInnerLines : List Char → Option (List Char)
  | [] => some []
  | ['_'] => none
  | '_' :: '_' :: _ => none
  | '_' :: rest => withoutInnerLines rest
  | c :: rest => (withoutInnerLines rest).map (c :: ·)

/-- The number in the text of an interval. -/
def intervalText? (s : String) : Option Binary64 :=
  let cs := s.toList
  match Literal.double? (Literal.trimmed cs) with
  | some x => some x
  | none =>
    if cs.head? = some '_' then none else (withoutInnerLines cs).bind Literal.double?

/-- The interval that a value gives: a number, a truth value as one or zero, or the text of a
number. It has to be positive. -/
def intervalOf (v : Value) : Except IntervalFault Binary64 :=
  let number : Except IntervalFault Binary64 :=
    match v with
    | .atom (.bool b) => .ok (.ofInt (if b then 1 else 0))
    | .atom (.scalar (.int n)) =>
      let x := Binary64.ofInt n
      if x.isFinite then .ok x else .error .noNumber
    | .atom (.scalar (.float x)) => .ok x
    | .atom (.scalar (.text t)) =>
      match t.chars? with
      | none => .error .noCharacters
      | some cs =>
        match intervalText? (String.ofList cs) with
        | some x => .ok x
        | none => .error .noNumberText
    | _ => .error .noNumber
  match number with
  | .ok x => if x.isPositive then .ok x else .error .notPositive
  | .error f => .error f

structure Settings where
  tokens : Path
  output : Path
  interval : Binary64
  deriving DecidableEq

namespace Settings

def defaultTokens : Path := ⟨.bundled, ["variables.json"]⟩

def defaultOutput : Path := ⟨.bundled, ["dist"]⟩

/-- Half a second. -/
def defaultInterval : Binary64 := .ofRatio false 1 2

/-- What may be given explicitly. -/
structure Explicit where
  tokens : Option Path
  output : Option Path
  interval : Option Value

def nothing : Explicit := ⟨none, none, none⟩

def ofEnvironment (env : Environment) (given : Explicit) : Except IntervalFault Settings := do
  let path (given : Option Path) (name : String) (usual : Path) : Path :=
    (given.or ((env.setting? name).map Path.ofString)).getD usual
  let x ←
    match given.interval.or ((env.setting? Environment.intervalName).map fun s => Value.text s) with
    | some v => intervalOf v
    | none => Except.ok defaultInterval
  return ⟨path given.tokens Environment.tokensName defaultTokens,
    path given.output Environment.outputName defaultOutput, x⟩

end Settings

end DesignTokens
