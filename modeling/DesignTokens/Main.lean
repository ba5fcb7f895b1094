import DesignTokens.Bundled
import DesignTokens.CommandLine

/-! # The program

Carries a run out on the files of the disk. The tree of a run holds what is found under the paths
that it concerns; afterwards the files that are new or different are stored. -/
namespace DesignTokens.Program

def placeText (place : Place) : String := "/" ++ "/".intercalate place

def placeOf (text : String) : Place := (Path.namesOf text).filter (· ≠ "")

/-- The node at a place of the disk. A file that is as it was keeps its time. -/
def nodeAt (known : FileTree) (place : Place) : IO (Option Node) := do
  try
    let octets := (← IO.FS.readBinFile (placeText place)).toList
    match known.node? place with
    | some (.file old time) =>
      return some (.file octets (if old = octets then time else known.now))
    | _ => return some (.file octets known.now)
  catch
    | .inappropriateType _ 21 _ => return some (.directory known.clock)
    | _ => return none

/-- The places that a path passes, from the root on. -/
def way (t : FileTree) (path : Path) : List Place :=
  (List.range (path.parts.length + 1)).flatMap fun n =>
    let place := t.resolve ⟨path.anchor, path.parts.take n⟩
    (List.range (place.length + 1)).map place.take

/-- The document of the theme, where the disk has none. -/
def withBundled (t : FileTree) : FileTree :=
  let document := Settings.defaultTokens
  if t.isFile document then t
  else (((t.ensureDirectories document.parent).1).write document Bundled.octets).1

/-- What the disk holds under some paths. -/
def reload (known : FileTree) (paths : List Path) : IO FileTree := do
  let mut nodes := []
  for place in (paths.flatMap (way known)).eraseDups do
    if let some node ← nodeAt known place then nodes := (place, node) :: nodes
  return withBundled { known with nodes := nodes, clock := known.now }

/-- Stores what a run has changed. -/
def store (before after : FileTree) : IO Unit := do
  for (place, node) in after.nodes do
    match node, before.node? place with
    | .directory _, none => IO.FS.createDirAll (placeText place)
    | .file octets _, known =>
      let same : Bool := match known with
        | some (.file old _) => old = octets
        | _ => false
      unless same do
        IO.FS.createDirAll (placeText place.dropLast)
        IO.FS.writeBinFile (placeText place) (ByteArray.mk octets.toArray)
    | _, _ => pure ()

def environment : IO Environment := do
  let mut found := []
  for name in [Environment.tokensName, Environment.outputName, Environment.intervalName,
      Environment.levelName] do
    if let some value ← IO.getEnv name then found := (name, value) :: found
  return found

def emptyTree : IO FileTree := do
  let working := placeOf (← IO.currentDir).toString
  let program := placeOf (← IO.appPath).toString
  return ⟨[], working, program.dropLast ++ ["themes", "prsmtech"], 0⟩

def say (text : Text) : IO Unit := do
  let output ← IO.getStdout
  output.putStr text.standIn
  output.flush

/-- Where errors go, a surrogate is shown as its escape. -/
def complain (text : Text) : IO Unit := do
  let shown : Letter → List Char
    | .char c => [c]
    | .surrogate n => Text.escapeLetter '"' (.surrogate n)
  (← IO.getStderr).putStr (String.ofList (text.toList.flatMap shown))

def writeLog (threshold : Option Log.Threshold) (log : Log) : IO Unit := do
  for line in log do
    if (threshold.getD (.number 0)).admits line then complain (line.text ++ "\n")

/-- The settings of the compilation that arguments ask for, if they ask for one. -/
def compilation? (w : World) (arguments : List String) :
    Option (CommandLine.Options × Settings) :=
  match CommandLine.parse CommandLine.Host.usual.number? arguments with
  | .ok (.compile o) =>
    match w.settings o.explicit with
    | .ok s => some (o, s)
    | .error _ => none
  | _ => none

def milliseconds (x : Binary64) : Nat := ((x.floorScaled? 1000).getD 1000).toNat

/-- The polls of watch mode, without an end. -/
partial def poll (s : Settings) (h : Handle) (threshold : Option Log.Threshold)
    (x : Watching Text) : IO Unit := do
  IO.sleep (max 1 (milliseconds s.interval)).toUInt32
  let files ← reload x.world.files (CommandLine.paths s)
  let next := Watching.step s h (CommandLine.tell .usual)
    { x with world := { x.world with files := files }, told := [], log := [] }
  store files next.world.files
  for text in next.told do
    say text
  writeLog threshold next.log
  poll s h threshold next

def runWith (arguments : List String) : IO UInt32 := do
  let w : World := ⟨← emptyTree, ← environment, Shelf.empty⟩
  let asked := compilation? w arguments
  let paths := match asked with
    | some (_, s) => Settings.defaultTokens :: CommandLine.paths s
    | none => []
  let files ← reload w.files paths
  let run := CommandLine.run .usual { w with files := files } arguments [] .stop
  store files run.world.files
  say run.output
  complain run.errors
  writeLog run.threshold run.log
  if let .problem p := run.ended then
    complain (p.className ++ ": " ++ p.text ++ "\n")
  if let (0, some (o, s)) := (run.ended.code, asked) then
    if o.watch then
      let shared := run.world.share s.tokens
      match shared.result, (Watcher.ofPath s.tokens).snapshot files with
      | .ok h, .ok watcher => poll s h run.threshold ⟨shared.world, watcher, [], []⟩
      | _, _ => pure ()
  return run.ended.code.toUInt32

end DesignTokens.Program

def main (arguments : List String) : IO UInt32 := DesignTokens.Program.runWith arguments
