import DesignTokens.Text

/-! # Log lines -/
namespace DesignTokens

namespace Log

inductive Level
  | debug
  | info
  | warning
  | error
  deriving DecidableEq, Repr

def Level.name : Level → String
  | .debug => "DEBUG"
  | .info => "INFO"
  | .warning => "WARNING"
  | .error => "ERROR"

/-- Levels as numbers, which a threshold is compared with. -/
def Level.weight : Level → Nat
  | .debug => 10
  | .info => 20
  | .warning => 30
  | .error => 40

/-- The parts of the program that log. -/
inductive Channel
  | store
  | compiler
  | watch
  | access
  deriving DecidableEq, Repr

def Channel.name : Channel → String
  | .store => "prsm_theme.core.store"
  | .compiler => "prsm_theme.compiler"
  | .watch => "prsm_theme.watch"
  | .access => "prsm_theme.api"

structure Line where
  level : Level
  channel : Channel
  message : Text
  deriving DecidableEq, Repr

/-- A line as it is shown. -/
def Line.text (l : Line) : Text :=
  l.channel.name ++ " - " ++ l.level.name ++ " - " ++ l.message

end Log

/-- What was logged, in order. -/
abbrev Log := List Log.Line

end DesignTokens
