import DesignTokens.Console.Arguments
import DesignTokens.Text.Encoding

/-! # Terminals

What the console finds where it prints and does not decide itself: how wide a page is, which
characters draw a table, which texts the encoding of the output refuses, and what is wrong with the
arguments of a handler. -/
namespace DesignTokens.Console

/-- How a horizontal line is drawn: its ends, what fills it, and where the columns meet. -/
structure Stroke where
  left : Char
  fill : Char
  crossing : Char
  right : Char
  deriving DecidableEq, Repr

/-- The lines of a table, and the borders of its header and of its rows. -/
structure Box where
  top : Stroke
  belowHeader : Stroke
  bottom : Stroke
  header : Char
  body : Char
  deriving DecidableEq, Repr

/-- Box-drawing characters, heavy around the header. -/
def Box.heavyHead : Box where
  top := ⟨'┏', '━', '┳', '┓'⟩
  belowHeader := ⟨'┡', '━', '╇', '┩'⟩
  bottom := ⟨'└', '─', '┴', '┘'⟩
  header := '┃'
  body := '│'

structure Terminal where
  width : Nat
  box : Box
  encodingFault? : Text → Option String
  argumentFault? : Text → Option Arguments.Fault

/-- What is said of a text that has no octets. -/
def unencoded? (t : Text) : Option String :=
  match t.encode with
  | .ok _ => none
  | .error f => some f.message

/-- What is wrong with the literal of arguments, which is encoded before it is read. -/
def Arguments.refusal? (t : Text) : Option Fault :=
  ((unencoded? t).map .value).or (t.chars?.bind fault?)

/-- What the console adds to a fault of the encoding. -/
def encodingAdvice : String :=
  "\n*** You may need to add PYTHONIOENCODING=utf-8 to your environment ***"

/-- A page of some columns in an encoding for all characters. -/
def Terminal.ofWidth (width : Nat) : Terminal :=
  ⟨width, .heavyHead, fun t => (unencoded? t).map (· ++ encodingAdvice), Arguments.refusal?⟩

/-- Output that goes to no screen has pages of 80 columns. -/
def Terminal.usual : Terminal := .ofWidth 80

end DesignTokens.Console
