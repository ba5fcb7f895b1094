import DesignTokens.Text.Encoding
import DesignTokens.World

/-! # Builds

A build reads the document anew, runs every generator and stores what succeeded. A file that cannot
be written makes its artifact a failed one and leaves the others alone, but a text that has no octets
ends the build. -/
namespace DesignTokens

/-- What became of the artifacts, and the path of each one that was stored. -/
structure Report where
  output : Path
  artifacts : List Artifact
  paths : List (String × Path)
  deriving DecidableEq, Repr

namespace Report

/-- A report without artifacts is no success. -/
def success (r : Report) : Bool := !r.artifacts.isEmpty && r.artifacts.all Artifact.success

def path? (r : Report) (name : String) : Option Path := r.paths.lookup name

end Report

/-- The file of an artifact in an output directory. -/
def Artifact.pathIn (output : Path) (a : Artifact) : Path := output ++ Path.ofString a.filename

def directoryError (output : Path) (e : FileError) : ThemeError :=
  .write ("Cannot create output directory: " ++ e.message) output

def artifactError (path : Path) (e : FileError) : ThemeError :=
  .write ("Cannot write artifact: " ++ e.message) path

/-- The artifact whose text could not be stored. -/
def Artifact.unstored (a : Artifact) (e : ThemeError) : Artifact :=
  { a with failure := some (.theme e) }

def errorLine (e : ThemeError) : Log.Line := ⟨.error, .compiler, e.text⟩

/-- Why a text is not stored in a file. -/
inductive StoringFault
  | file (e : FileError)
  | encoding (f : Text.EncodingFault)
  deriving DecidableEq, Repr

/-- Stores a text in a file. The file is opened before the text becomes octets, so that a text which
has none leaves it empty. -/
def FileTree.store (t : FileTree) (path : Path) (text : Text) : FileTree × Option StoringFault :=
  match text.encode with
  | .ok octets =>
    let (files, refusal) := t.write path octets
    (files, refusal.map .file)
  | .error f =>
    let (files, refusal) := t.write path []
    (files, some ((refusal.map .file).getD (.encoding f)))

/-- What the writing of artifacts has come to. It stops at a text that has no octets, and at a name
that no file can have. -/
structure Writing where
  files : FileTree
  report : Report
  log : Log
  stopped : Option Problem

namespace Writing

def givenUp (w : Writing) : Bool := w.stopped.isSome

/-- What is raised at a name that no file can have. -/
def noName (w : Writing) : Problem := .file ⟨.nul, w.report.output⟩

def pass (w : Writing) (a : Artifact) : Writing :=
  { w with report := { w.report with artifacts := w.report.artifacts ++ [a] } }

/-- Stores one artifact. Failed ones pass, and without the directory nothing is stored. -/
def add (denied : Option ThemeError) (w : Writing) (a : Artifact) : Writing :=
  if w.givenUp then w
  else if !a.success then w.pass a
  else
    match denied with
    | some e => w.pass (a.unstored e)
    | none =>
      let path := a.pathIn w.report.output
      match w.files.store path (a.content.getD "") with
      | (files, none) =>
        let done := { w with files := files }.pass a
        { done with
          report := { done.report with paths := done.report.paths ++ [(a.name, path)] } }
      | (files, some (.encoding f)) =>
        { w with files := files, stopped := some (.encoding f.message) }
      | (files, some (.file e)) =>
        if e.cause = .nul then { w with stopped := some w.noName }
        else
          let error := artifactError path e
          let done := { w with files := files }.pass (a.unstored error)
          { done with log := done.log ++ [errorLine error] }

def result (w : Writing) : Except Problem Report :=
  match w.stopped with
  | some p => .error p
  | none => .ok w.report

end Writing

/-- Stores the artifacts of a pass in a directory, which is made if it is not there. -/
def writeArtifacts (files : FileTree) (c : Compilation) (output : Path) : Writing :=
  let empty : Report := ⟨output, [], []⟩
  match files.ensureDirectories output with
  | (files, none) => c.foldl (Writing.add none) ⟨files, empty, [], none⟩
  | (files, some e) =>
    if e.cause = .nul then ⟨files, empty, [], some (.file ⟨.nul, output⟩)⟩
    else
      let error := directoryError output e
      c.foldl (Writing.add (some error)) ⟨files, empty, [errorLine error], none⟩

namespace Report

def artifactLine (r : Report) (a : Artifact) : Log.Line :=
  match a.failure with
  | none => ⟨.info, .compiler, "Generated " ++ ((r.path? a.name).map Path.text).getD ""⟩
  | some f => ⟨.error, .compiler, "Failed " ++ a.filename ++ ": " ++ f.text⟩

def log (r : Report) : Log := r.artifacts.map r.artifactLine

end Report

def loadingLine (path : Path) : Log.Line := ⟨.info, .compiler, "Loading " ++ path.text⟩

/-- Compiles a document with the generators of the theme and stores the artifacts. -/
def World.produce (w : World) (output : Path) (doc : Document) : Outcome Report :=
  let compilation := compile builtin doc
  let writing := writeArtifacts w.files compilation output
  let told := if writing.givenUp then [] else writing.report.log
  ⟨{ w with files := writing.files }, writing.result, compilation.log ++ writing.log ++ told⟩

/-- Builds the document of a store. -/
def World.buildFrom (w : World) (h : Handle) (output : Path) : Outcome Report :=
  let read := (w.access h Store.reload).andThen fun w doc => w.produce output doc
  { read with log := loadingLine (w.shelf.store h).path :: read.log }

/-- Builds with settings, from the shared store of the document unless another one is given. -/
def World.build (w : World) (s : Settings) (store : Option Handle) : Outcome Report :=
  match store with
  | some h => w.buildFrom h s.output
  | none => (w.share s.tokens).andThen fun w h => w.buildFrom h s.output

end DesignTokens
