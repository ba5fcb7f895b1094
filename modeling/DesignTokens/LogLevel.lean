import DesignTokens.Log
import DesignTokens.Settings
import DesignTokens.Text.Case
import DesignTokens.Text.Quoted

/-! # Log levels

The level below which nothing is shown, from the options of a run and the environment. -/
namespace DesignTokens.Log

/-- How a shown line is written. -/
def format : String := "%(asctime)s - %(name)s - %(levelname)s - %(message)s"

/-- What a name stands for: the number of a level, a text, or a table in its written form. -/
inductive Threshold
  | number (n : Nat)
  | text (s : String)
  | table (shown : String)
  deriving DecidableEq, Repr

/-- The format and the styles of formats that are known by name beside the levels. -/
def basicFormat : String := "%(levelname)s:%(name)s:%(message)s"

def styles : String :=
  "\x7b'%': (<class 'logging.PercentStyle'>, '%(levelname)s:%(name)s:%(message)s'), " ++
  "'\x7b': (<class 'logging.StrFormatStyle'>, '\x7blevelname\x7d:\x7bname\x7d:\x7bmessage\x7d'), " ++
  "'$': (<class 'logging.StringTemplateStyle'>, " ++
  "'$\x7blevelname\x7d:$\x7bname\x7d:$\x7bmessage\x7d')\x7d"

/-- What is known by name; two levels have an older name as well. -/
def names : List (String × Threshold) :=
  [("NOTSET", .number 0), ("DEBUG", .number 10), ("INFO", .number 20), ("WARNING", .number 30),
    ("WARN", .number 30), ("ERROR", .number 40), ("CRITICAL", .number 50), ("FATAL", .number 50),
    ("BASIC_FORMAT", .text basicFormat), ("_STYLES", .table styles)]

/-- Why something is no level: a text that names none, or anything else. -/
inductive LevelFault
  | unknown (name : String)
  | noLevel (shown : String)
  deriving DecidableEq, Repr

def LevelFault.className : LevelFault → String
  | .unknown _ => "ValueError"
  | .noLevel _ => "TypeError"

def LevelFault.message : LevelFault → String
  | .unknown name => "Unknown level: " ++ Text.quote name
  | .noLevel shown => "Level not an integer or a valid string: " ++ shown

/-- The level that logging is set up with. -/
def Threshold.level : Threshold → Except LevelFault Nat
  | .number n => .ok n
  | .text s => .error (.unknown s)
  | .table shown => .error (.noLevel shown)

/-- What a name in any case stands for; the level of warnings for every other name. -/
def Threshold.ofName (name : String) : Threshold :=
  (names.lookup (Text.upper name)).getD (.number 30)

/-- Everything is shown if that is asked for. Otherwise the environment decides, and where it is
silent watch mode shows its builds. -/
def threshold (env : Environment) (verbose watch : Bool) : Threshold :=
  if verbose then .number 10
  else .ofName ((env.lookup Environment.levelName).getD (if watch then "INFO" else "WARNING"))

/-- A line is shown from the level on. -/
def Threshold.admits (t : Threshold) (l : Line) : Bool :=
  match t.level with
  | .ok n => n ≤ l.level.weight
  | .error _ => false

end DesignTokens.Log
