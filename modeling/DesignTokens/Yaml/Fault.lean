import DesignTokens.Calendar
import DesignTokens.Number.Literal
import DesignTokens.Text.Quoted

/-! # Faults of YAML texts

A text is malformed, or it is well formed and a scalar does not fit its tag. Only the second kind
says more than that. -/
namespace DesignTokens.Yaml

/-- The parts of a calendar value that can be out of range. -/
inductive CalendarPart
  | month
  | day
  | hour
  | minute
  | second
  deriving DecidableEq, Repr

def CalendarPart.message : CalendarPart → String
  | .month => "month must be in 1..12"
  | .day => "day is out of range for month"
  | .hour => "hour must be in 0..23"
  | .minute => "minute must be in 0..59"
  | .second => "second must be in 0..59"

inductive Fault
  | malformed
  | codePoint (n : Nat)
  | integer (base : Nat) (text : Text)
  | digits (count : Nat)
  | double (text : Text)
  | emptyNumber
  | truth (text : Text)
  | timestamp
  | year (n : Nat)
  | calendar (part : CalendarPart)
  | offset (seconds : Int)
  | weight
  | notText
  deriving DecidableEq, Repr

def malformed {α : Type} : Except Fault α := .error .malformed

/-- The classes of what a scalar that does not fit its tag raises. -/
inductive FaultClass
  | value
  | overflow
  | index
  | key
  | attribute
  | type
  deriving DecidableEq, Repr

def FaultClass.name : FaultClass → String
  | .value => "ValueError"
  | .overflow => "OverflowError"
  | .index => "IndexError"
  | .key => "KeyError"
  | .attribute => "AttributeError"
  | .type => "TypeError"

namespace Fault

/-- The class of a fault; a malformed text has none of these. -/
def class? : Fault → Option FaultClass
  | .malformed => none
  | .codePoint n => some (if n < Nat.pow 2 31 then .value else .overflow)
  | .integer .. | .digits _ | .double _ | .year _ | .calendar _ | .offset _ => some .value
  | .emptyNumber => some .index
  | .truth _ => some .key
  | .timestamp => some .attribute
  | .weight => some .overflow
  | .notText => some .type

def message : Fault → String
  | .malformed => "Invalid YAML"
  | .codePoint n =>
    if n < Nat.pow 2 31 then "chr() arg not in range(0x110000)"
    else "Python int too large to convert to C int"
  | .integer base text =>
    "invalid literal for int() with base " ++ toString base ++ ": " ++
      String.ofList ((Text.quote text).toList.take 200)
  | .digits count => Literal.digitsMessage count
  | .double text => "could not convert string to float: " ++ Text.quote text
  | .emptyNumber => "string index out of range"
  | .truth text => Text.quote text
  | .timestamp => "'NoneType' object has no attribute 'groupdict'"
  | .year n => "year " ++ toString n ++ " is out of range"
  | .calendar part => part.message
  | .offset seconds =>
    "offset must be a timedelta strictly between -timedelta(hours=24) and " ++
      "timedelta(hours=24), not " ++ spanText seconds ++ "."
  | .weight => "int too large to convert to float"
  | .notText => "expected string or bytes-like object, got 'list'"

end Fault

end DesignTokens.Yaml
