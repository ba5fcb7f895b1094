import DesignTokens.Artifact
import DesignTokens.Console.Markup
import DesignTokens.LogLevel
import DesignTokens.Store

/-! # The world of a run

What the operations of the theme compiler read and change: the files, the environment and the
stores. An operation gives the world afterwards, its result and what it logged. -/
namespace DesignTokens

structure World where
  files : FileTree
  environment : Environment
  shelf : Shelf

/-- Everything that an operation may raise. -/
inductive Problem
  | load (e : LoadError)
  | interval (f : IntervalFault)
  | generation (f : Failure)
  | framework (name : String)
  | file (e : FileError)
  | markup (e : Console.MarkupError)
  | encoding (message : String)
  | level (f : Log.LevelFault)
  deriving DecidableEq, Repr

namespace Problem

def className : Problem → String
  | .load e => e.className
  | .interval _ => "ValidationError"
  | .generation f => f.className
  | .framework _ => "ValueError"
  | .file e => e.cause.className
  | .markup _ => "MarkupError"
  | .encoding _ => "UnicodeEncodeError"
  | .level f => f.className

def text : Problem → Text
  | .load e => e.text
  | .interval f => f.message
  | .generation f => f.text
  | .framework name =>
    "Unknown framework '" ++ name ++ "'. Expected one of: base, slidev, reveal, webslides"
  | .file e => e.message
  | .markup e => e.message
  | .encoding message => message
  | .level f => f.message

/-- The errors of the theme compiler itself. -/
def isThemeError : Problem → Bool
  | .load e => e.themeError?.isSome
  | .generation (.theme _) => true
  | _ => false

end Problem

structure Outcome (α : Type) where
  world : World
  result : Except Problem α
  log : Log

namespace Outcome

/-- Goes on with the result of a step, or stops at its problem. -/
def andThen {α β : Type} (o : Outcome α) (f : World → α → Outcome β) : Outcome β :=
  match o.result with
  | .error p => ⟨o.world, .error p, o.log⟩
  | .ok a =>
    let next := f o.world a
    ⟨next.world, next.result, o.log ++ next.log⟩

def map {α β : Type} (o : Outcome α) (f : α → β) : Outcome β :=
  ⟨o.world, o.result.map f, o.log⟩

end Outcome

namespace World

def settings (w : World) (given : Settings.Explicit) : Except Problem Settings :=
  match Settings.ofEnvironment w.environment given with
  | .ok s => .ok s
  | .error f => .error (.interval f)

/-- The shared store of the file that a path leads to. -/
def share (w : World) (path : Path) : Outcome Handle :=
  if path.hasNul then ⟨w, .error (.file ⟨.nul, path⟩), []⟩
  else
    let (shelf, h) := w.shelf.share w.files path
    ⟨{ w with shelf := shelf }, .ok h, []⟩

/-- The shared store of the document that the environment names. -/
def defaultStore (w : World) : Outcome Handle :=
  match w.settings Settings.nothing with
  | .error p => ⟨w, .error p, []⟩
  | .ok s => w.share s.tokens

/-- An access to a store of the shelf. -/
def access {α : Type} (w : World) (h : Handle) (f : Store → FileTree → Access α) : Outcome α :=
  let a := f (w.shelf.store h) w.files
  ⟨{ w with shelf := w.shelf.setStore h a.store }, a.result.mapError .load, a.log⟩

end World

end DesignTokens
