import NavFactory.CommandLine
import Std.Time.Format

/-!
# The program

The command line on the files of the disk.  The entries that a command may look at are read into a file tree, and
what the command changes in that tree is written back.
-/

namespace NavFactory.Disk

/-- The text of the path that names lead along. -/
def pathText (names : List String) : String := (Path.absolute names).text

/-- Whether the contents of a file of a given name matter to a command. -/
def isRead (name : String) : Bool :=
  name.endsWith sourceSuffix || name.endsWith ".j2" || name == settingsFileName || name == ignoreFileName

/-- Reads what the disk holds at a path.  Directories that no scan enters are left out, and files whose contents do
not matter are taken as empty. -/
partial def readEntry (names : List String) (wanted : Bool) : IO Entry := do
  let place := (← IO.currentDir) / pathText names
  if ← place.isDir then
    let mut entries := []
    for e in ← place.readDir do
      let name := e.fileName
      unless excludedDirectories.contains name do
        entries := (name, ← readEntry (names ++ [name]) (isRead name)) :: entries
    return .directory entries
  else if wanted then return .file (← IO.FS.readBinFile place).toList
  else return .file []

/-- Adds a place to a tree, with the directories above it as far as the disk has them. -/
def loadPlace (tree : Entry) (names : List String) : IO Entry := do
  let here ← IO.currentDir
  let mut tree := tree
  for n in List.range names.length do
    let above := names.take n
    if (tree.at? above).isNone && (← (here / pathText above).isDir) then
      tree := tree.put above .emptyDirectory
  if ← (here / pathText names).pathExists then
    tree := tree.put names (← readEntry names true)
  return tree

/-- The tree that holds several places. -/
def load (places : List (List String)) : IO Entry :=
  (sortBy (fun a b => a.length < b.length) places).foldlM loadPlace .emptyDirectory

/-- The directory of a project that a path stands for. -/
def projectPlace (names : List String) : IO (List String) := do
  let place := (← IO.currentDir) / pathText names
  return if (← place.isDir) || !(← place.pathExists) then names else names.dropLast

/-- The places that the settings of a project name. -/
def settingsPlaces (s : Settings) : List (List String) :=
  (s.sourceRoots ++ s.templates.toList ++ [s.packageDirectory]).map (·.resolve [])

/-- The tree that holds all that a command may look at. -/
def loadFor (current : List String) (i : CommandLine.Invocation) : IO Entry := do
  let path := Path.ofText i.path
  let project ← projectPlace (path.resolve current)
  let tree ← load [project]
  let named := (i.output.toList ++ i.logFile.toList).map fun text => (Path.ofText text).resolve current
  let places := match Settings.load tree current (Path.absolute project) with
    | .ok s => settingsPlaces s
    | .error _ => []
  load (project :: named ++ places)

/-- Writes a file in one step: beside its place first, and then moved there. -/
def writeFile (path : String) (contents : List UInt8) : IO Unit := do
  IO.FS.writeBinFile (path ++ ".tmp") ⟨contents.toArray⟩
  IO.FS.rename (path ++ ".tmp") path

/-- Writes back what differs between two trees. -/
partial def store (names : List String) (before : Option Entry) : Entry → IO Unit
  | .file contents => do
    let same := match before with
      | some (.file old) => old == contents
      | _ => false
    unless same do writeFile (pathText names) contents
  | .directory entries => do
    if before.isNone then IO.FS.createDirAll (pathText names)
    for (name, e) in entries do
      store (names ++ [name]) (before.bind fun b => b.child? name) e

/-- The time of log lines. -/
def timeText : IO String := do
  return (← Std.Time.PlainDateTime.now).format "uuuu-MM-dd HH:mm:ss,SSS"

end NavFactory.Disk

open NavFactory in
def main (arguments : List String) : IO UInt32 := do
  let current := (Path.ofText (← IO.currentDir).toString).parts
  let tree ← match CommandLine.readArguments arguments with
    | .ok i => Disk.loadFor current i
    | .error _ => pure .emptyDirectory
  let outcome := CommandLine.run tree current (← Disk.timeText) arguments
  Disk.store [] (some tree) outcome.tree
  IO.print outcome.output
  IO.eprint outcome.errors
  match outcome.fault with
  | none => return outcome.exitCode.toUInt32
  | some fault =>
    IO.eprintln fault.message
    return 1
