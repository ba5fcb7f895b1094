import DesignTokens.Build

/-! # Watch mode

A watcher compares the modification time of a file with the one it saw last. Watch mode takes its
baseline, builds, and then builds again whenever a poll finds the file changed. The baseline is
older than every build, so that a save during a build is found by the next poll. -/
namespace DesignTokens

/-- A watched path and the modification time that counts as known, if the file was there. -/
structure Watcher where
  path : Path
  baseline : Option Time
  deriving DecidableEq, Repr

namespace Watcher

def ofPath (path : Path) : Watcher := ⟨path, none⟩

/-- What is seen of the file is the baseline from here on. -/
def snapshot (w : Watcher) (files : FileTree) : Except Problem Watcher :=
  if w.path.hasNul then .error (.file ⟨.nul, w.path⟩)
  else .ok { w with baseline := files.modified? w.path }

/-- A file that is there has changed if it was not there before or is later than it was. -/
def changed (w : Watcher) (files : FileTree) : Bool :=
  match files.modified? w.path, w.baseline with
  | none, _ => false
  | some _, none => true
  | some now, some before => before < now

/-- One poll: whether the file changed. What is seen is the next baseline in any case. -/
def poll (w : Watcher) (files : FileTree) : Except Problem (Watcher × Bool) := do
  return (← w.snapshot files, w.changed files)

end Watcher

/-- A callback that fails is logged and forgotten. -/
def callbackLine : Log.Line := ⟨.error, .watch, "Error in change callback"⟩

def changedLine (path : Path) : Log.Line :=
  ⟨.info, .watch, path.name ++ " changed, rebuilding..."⟩

def watchingLine (path : Path) : Log.Line :=
  ⟨.info, .watch, "Watching " ++ path.text ++ " for changes"⟩

def stoppedLine : Log.Line := ⟨.info, .watch, "Watch mode stopped"⟩

/-- What is logged of a build in watch mode. -/
def rebuiltLine (r : Report) : Log.Line :=
  if r.success then
    ⟨.info, .watch,
      "Rebuilt " ++ toString r.artifacts.length ++ " artifacts in " ++ r.output.text⟩
  else
    let failed := (r.artifacts.filter fun a => !a.success).map Artifact.name
    ⟨.error, .watch, "Rebuild finished with failures: " ++ ", ".intercalate failed⟩

/-- A build whose errors of the theme compiler are logged; then there is no report. -/
def World.rebuild (w : World) (s : Settings) (h : Handle) : Outcome (Option Report) :=
  let built := w.build s (some h)
  match built.result with
  | .ok r => ⟨built.world, .ok (some r), built.log ++ [rebuiltLine r]⟩
  | .error p =>
    if p.isThemeError then
      ⟨built.world, .ok none,
        built.log ++ [⟨.error, .watch, "Rebuild failed: " ++ p.text⟩]⟩
    else ⟨built.world, .error p, built.log⟩

/-- A save of a file from outside. -/
structure Edit where
  path : Path
  octets : List UInt8
  time : Time
  deriving DecidableEq, Repr

def Edit.apply (e : Edit) (files : FileTree) : FileTree :=
  ((files.write e.path e.octets).1.setModified e.path e.time).1

/-- What is told of the answer of a build, unless telling it fails. -/
abbrev Telling (α : Type) := Option Report → Except Problem α

/-- A build with what is told of it. -/
def World.rebuildTelling {α : Type} (w : World) (s : Settings) (h : Handle) (tell : Telling α) :
    Outcome α :=
  (w.rebuild s h).andThen fun w r => ⟨w, tell r, []⟩

/-- What a watch has come to: the watcher, what was told of the builds so far, and what the polls
logged. -/
structure Watching (α : Type) where
  world : World
  watcher : Watcher
  told : List α
  log : Log

namespace Watching

variable {α : Type}

/-- One poll with the build that a change causes. -/
def step (s : Settings) (h : Handle) (tell : Telling α) (x : Watching α) : Watching α :=
  match x.watcher.poll x.world.files with
  | .error _ => x
  | .ok (watcher, false) => { x with watcher := watcher }
  | .ok (watcher, true) =>
    let built := x.world.rebuildTelling s h tell
    let log := x.log ++ changedLine watcher.path :: built.log
    match built.result with
    | .ok a => ⟨built.world, watcher, x.told ++ [a], log⟩
    | .error _ => ⟨built.world, watcher, x.told, log ++ [callbackLine]⟩

def edit (x : Watching α) (e : Edit) : Watching α :=
  { x with world := { x.world with files := e.apply x.world.files } }

/-- Saves that follow each other, each with the poll that finds it. -/
def run (s : Settings) (h : Handle) (tell : Telling α) (x : Watching α) (edits : List Edit) :
    Watching α :=
  edits.foldl (fun x e => (x.edit e).step s h tell) x

end Watching

/-- How a watch ends: it is told to stop, or it is interrupted. -/
inductive Ending
  | stop
  | interrupt
  deriving DecidableEq, Repr

def Ending.log : Ending → Log
  | .stop => []
  | .interrupt => [stoppedLine]

/-- The start of a watch: the baseline, then the first build. -/
def World.startWatch {α : Type} (w : World) (s : Settings) (h : Handle) (tell : Telling α) :
    Outcome (Watching α) :=
  match (Watcher.ofPath s.tokens).snapshot w.files with
  | .error p => ⟨w, .error p, []⟩
  | .ok watcher =>
    (w.rebuildTelling s h tell).andThen fun w first =>
      ⟨w, .ok ⟨w, watcher, [first], []⟩, [watchingLine s.tokens]⟩

/-- Watch mode from the first build to the end, with the saves that happen meanwhile. The polls log
in a thread of their own, whose lines come last. The result is what was told of the builds. -/
def World.watch {α : Type} (w : World) (s : Settings) (h : Handle) (tell : Telling α)
    (edits : List Edit) (ending : Ending) : Outcome (List α) :=
  (w.startWatch s h tell).andThen fun _ x =>
    let done := x.run s h tell edits
    ⟨done.world, .ok done.told, ending.log ++ done.log⟩

end DesignTokens
