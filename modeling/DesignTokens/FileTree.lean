import DesignTokens.Path
import DesignTokens.Text.Quoted

/-! # File trees

A file tree maps places, which are lists of names from the root on, to files and directories. Only
directories can be walked through, so a path with double dots leads nowhere if the name in front of
them is missing. Names and paths have a greatest length. Every change stamps what it touches with the
next tick of the clock. There are no links, so every file has one place; nothing is forbidden to
anybody; and there is room for whatever is stored. -/
namespace DesignTokens

/-- The names that lead from the root to a place. -/
abbrev Place := List String

/-- Modification times. Only their order counts. -/
abbrev Time := Int

inductive Node
  | file (octets : List UInt8) (modified : Time)
  | directory (modified : Time)
  deriving DecidableEq

namespace Node

def isFile : Node → Bool
  | .file .. => true
  | .directory _ => false

def modified : Node → Time
  | .file _ t => t
  | .directory t => t

def stamp : Node → Time → Node
  | .file octets _, t => .file octets t
  | .directory _, t => .directory t

end Node

/-- The reasons for which an operation on files is refused. -/
inductive FileCause
  | missing
  | alreadyThere
  | notDirectory
  | isDirectory
  | nameTooLong
  | nul
  deriving DecidableEq, Repr

structure FileError where
  cause : FileCause
  path : Path
  deriving DecidableEq, Repr

def FileCause.message : FileCause → String
  | .missing => "[Errno 2] No such file or directory"
  | .alreadyThere => "[Errno 17] File exists"
  | .notDirectory => "[Errno 20] Not a directory"
  | .isDirectory => "[Errno 21] Is a directory"
  | .nameTooLong => "[Errno 36] File name too long"
  | .nul => "embedded null byte"

def FileCause.className : FileCause → String
  | .missing => "FileNotFoundError"
  | .alreadyThere => "FileExistsError"
  | .notDirectory => "NotADirectoryError"
  | .isDirectory => "IsADirectoryError"
  | .nameTooLong => "OSError"
  | .nul => "ValueError"

/-- A path that cannot be that of a file is not told. -/
def FileError.message (e : FileError) : String :=
  match e.cause with
  | .nul => e.cause.message
  | cause => cause.message ++ ": " ++ Text.quote e.path.text

/-- The nodes with the places that the anchors of paths stand for, and the clock. -/
structure FileTree where
  nodes : List (Place × Node)
  working : Place
  bundled : Place
  clock : Time

namespace FileTree

/-- The node at a place; the root is always a directory. -/
def node? (t : FileTree) (place : Place) : Option Node :=
  match t.nodes.lookup place with
  | some n => some n
  | none => if place = [] then some (.directory 0) else none

def anchorPlace (t : FileTree) : Anchor → Place
  | .working => t.working
  | .root | .doubleRoot => []
  | .bundled => t.bundled

/-- One name further; double dots lead up, and from the root nowhere else. -/
def step (place : Place) (name : String) : Place :=
  if name = ".." then place.dropLast else place ++ [name]

/-- Where a path leads if no name is missing. -/
def resolve (t : FileTree) (path : Path) : Place :=
  path.parts.foldl step (t.anchorPlace path.anchor)

/-- The octets that a name may have. -/
def maxName : Nat := 255

/-- The octets that a path may have. -/
def maxPath : Nat := 4095

/-- The place that names lead to when each but the last must be a directory. -/
def walk (t : FileTree) (place : Place) : List String → Except FileCause Place
  | [] => .ok place
  | name :: rest =>
    match t.node? place with
    | some (.directory _) =>
      if name.utf8ByteSize > maxName then .error .nameTooLong else t.walk (step place name) rest
    | some (.file ..) => .error .notDirectory
    | none => .error .missing

def locate (t : FileTree) (path : Path) : Except FileCause Place :=
  if path.hasNul then .error .nul
  else if path.text.utf8ByteSize > maxPath then .error .nameTooLong
  else t.walk (t.anchorPlace path.anchor) path.parts

/-- The node a path leads to. -/
def stat (t : FileTree) (path : Path) : Except FileCause Node :=
  match t.locate path with
  | .error cause => .error cause
  | .ok place =>
    match t.node? place with
    | some n => .ok n
    | none => .error .missing

def isFile (t : FileTree) (path : Path) : Bool :=
  match t.stat path with
  | .ok n => n.isFile
  | .error _ => false

def isDirectory (t : FileTree) (path : Path) : Bool :=
  match t.stat path with
  | .ok n => !n.isFile
  | .error _ => false

/-- Whether a path leads to something. The question is refused if a name is too long. -/
def contains (t : FileTree) (path : Path) : Except FileError Bool :=
  match t.stat path with
  | .ok _ => .ok true
  | .error .nameTooLong => .error ⟨.nameTooLong, path⟩
  | .error _ => .ok false

/-- The modification time of what a path leads to. -/
def modified? (t : FileTree) (path : Path) : Option Time :=
  match t.stat path with
  | .ok n => some n.modified
  | .error _ => none

/-- The octets of a file. -/
def read (t : FileTree) (path : Path) : Except FileError (List UInt8) :=
  match t.stat path with
  | .ok (.file octets _) => .ok octets
  | .ok (.directory _) => .error ⟨.isDirectory, path⟩
  | .error cause => .error ⟨cause, path⟩

def setNode : List (Place × Node) → Place → Node → List (Place × Node)
  | [], place, n => [(place, n)]
  | (p, old) :: rest, place, n =>
    if p = place then (p, n) :: rest else (p, old) :: setNode rest place n

/-- Changes the node at a place. -/
def put (t : FileTree) (place : Place) (n : Node) : FileTree :=
  { t with nodes := setNode t.nodes place n }

/-- The time of the next change. -/
def now (t : FileTree) : Time := t.clock + 1

def tick (t : FileTree) : FileTree := { t with clock := t.now }

/-- Stamps the directory that holds a place, because its names change. -/
def touchParent (t : FileTree) (place : Place) : FileTree :=
  match t.node? place.dropLast with
  | some n => t.put place.dropLast (n.stamp t.now)
  | none => t

/-- Adds a node where there was none. -/
def add (t : FileTree) (place : Place) (n : Node) : FileTree :=
  ((t.touchParent place).put place n).tick

/-- Stores octets in a file, which is made if its directory is there. -/
def write (t : FileTree) (path : Path) (octets : List UInt8) : FileTree × Option FileError :=
  match t.locate path with
  | .error cause => (t, some ⟨cause, path⟩)
  | .ok place =>
    match t.node? place with
    | some (.directory _) => (t, some ⟨.isDirectory, path⟩)
    | some (.file ..) => ((t.put place (.file octets t.now)).tick, none)
    | none => (t.add place (.file octets t.now), none)

/-- Makes one directory. -/
def makeDirectory (t : FileTree) (path : Path) : FileTree × Option FileError :=
  match t.locate path with
  | .error cause => (t, some ⟨cause, path⟩)
  | .ok place =>
    match t.node? place with
    | some _ => (t, some ⟨.alreadyThere, path⟩)
    | none => (t.add place (.directory t.now), none)

/-- Makes a directory unless it is there. -/
def ensureDirectory (t : FileTree) (path : Path) : FileTree × Option FileError :=
  match t.makeDirectory path with
  | (t, some e) => if e.cause ≠ .missing ∧ t.isDirectory path then (t, none) else (t, some e)
  | done => done

/-- Makes a directory and those that lead to it, with at most `fuel` steps up. -/
def ensureDirectoriesUpTo (t : FileTree) (path : Path) : Nat → FileTree × Option FileError
  | 0 => t.ensureDirectory path
  | fuel + 1 =>
    match t.ensureDirectory path with
    | (t, some e) =>
      if e.cause = .missing ∧ path.parts ≠ [] then
        match t.ensureDirectoriesUpTo path.parent fuel with
        | (t, none) => t.ensureDirectory path
        | failed => failed
      else (t, some e)
    | done => done

/-- Makes a directory and those that lead to it. What was made before a refusal stays. -/
def ensureDirectories (t : FileTree) (path : Path) : FileTree × Option FileError :=
  t.ensureDirectoriesUpTo path path.parts.length

/-- Removes a file, or a directory with all it holds. -/
def remove (t : FileTree) (path : Path) : FileTree × Option FileError :=
  match t.locate path with
  | .error cause => (t, some ⟨cause, path⟩)
  | .ok place =>
    match t.node? place with
    | none => (t, some ⟨.missing, path⟩)
    | some _ =>
      let t := t.touchParent place
      ({ t with nodes := t.nodes.filter fun e => !place.isPrefixOf e.1 }.tick, none)

/-- Sets the modification time of what a path leads to. -/
def setModified (t : FileTree) (path : Path) (time : Time) : FileTree × Option FileError :=
  match t.locate path with
  | .error cause => (t, some ⟨cause, path⟩)
  | .ok place =>
    match t.node? place with
    | none => (t, some ⟨.missing, path⟩)
    | some n => (t.put place (n.stamp time), none)

/-- The names below a place, with the node each leads to. -/
def below (t : FileTree) (place : Place) : List (List String × Node) :=
  t.nodes.filterMap fun e =>
    if place.isPrefixOf e.1 ∧ e.1 ≠ place then some (e.1.drop place.length, e.2) else none

end FileTree

end DesignTokens
