import NavFactory.Digest.Sha256
import NavFactory.Ignore.Rule
import NavFactory.Log
import NavFactory.ModuleName
import NavFactory.Settings
import NavFactory.Sorted

/-!
# Manifests

The importable source files below a directory.  Directories that are known to hold no sources and ignored ones are
not entered; the files of a directory come by name, and then those of its subdirectories by name.
-/

namespace NavFactory

/-- A source file. -/
structure SourceFile where
  /-- The path below the source root. -/
  path : String
  module : String
  size : Nat
  hash : String
deriving DecidableEq

/-- The source files below a root. -/
structure Manifest where
  root : Path
  files : List SourceFile
deriving DecidableEq

/-! ### Walking -/

/-- Directories that are never entered. -/
def excludedDirectories : List String :=
  [".git", ".hg", ".svn", ".venv", "venv", "node_modules", "__pycache__", ".pytest_cache", ".mypy_cache", ".tox",
    ".idea", "build", "dist"]

/-- The path of a name below another path. -/
def below (above name : String) : String := if above.isEmpty then name else above ++ "/" ++ name

/-- Whether a directory is entered. -/
def entersDirectory (rules : List IgnoreRule) (above name : String) : Bool :=
  !excludedDirectories.contains name && !".egg-info".toList.isSuffixOf name.toList &&
    !isIgnored rules (below above name) true

/-- Whether a file is a source file. -/
def isSource (rules : List IgnoreRule) (above name : String) : Bool :=
  sourceSuffix.toList.isSuffixOf name.toList && !isIgnored rules (below above name) false

/-- The files among the entries of a directory that are source files, by name. -/
def sourceNames (rules : List IgnoreRule) (above : String) (entries : List (String × Entry)) : List String :=
  sortTexts ((entries.filter fun (name, e) => !e.isDirectory && isSource rules above name).map (·.1))

mutual

/-- The paths of the source files of an entry that is reached by a path. -/
def sourcePaths (rules : List IgnoreRule) (above : String) : Entry → List String
  | .file _ => []
  | .directory entries =>
    (sourceNames rules above entries).map (below above) ++
      (sortBy (fun a b => a.1 < b.1) (subdirectoryPaths rules above entries)).flatMap (·.2)

/-- The paths of the source files of each directory among several entries that is entered, with its name. -/
def subdirectoryPaths (rules : List IgnoreRule) (above : String) : List (String × Entry) → List (String × List String)
  | [] => []
  | (name, e) :: rest =>
    if e.isDirectory && entersDirectory rules above name then
      (name, sourcePaths rules (below above name) e) :: subdirectoryPaths rules above rest
    else subdirectoryPaths rules above rest

end

/-! ### Rules -/

/-- Why a source root cannot be scanned. -/
inductive ScanFault
  | missing (root : String)
  | notDirectory (root : String)
  | file (f : FileFault)
  | ignoreFile (f : ReadingFault)
  | settings (f : SettingsFault)
deriving DecidableEq

def ScanFault.message : ScanFault → String
  | missing root => "Source path not found: " ++ root
  | notDirectory root => "Source path is not a directory: " ++ root
  | file f => f.message
  | ignoreFile f => f.message
  | settings f => f.message

/-- The name of the file that holds ignore rules. -/
def ignoreFileName : String := ".gitignore"

/-- The rules of the ignore file of a directory, if there is one. -/
def ignoreFileRules (tree : Entry) (root : Path) : Except ScanFault (List IgnoreRule) :=
  let file := root.child ignoreFileName
  match tree.hasEntry file with
  | .error f => .error (.file f)
  | .ok false => .ok []
  | .ok true => match tree.readText file with
    | .ok text => .ok (IgnoreRule.ofLines text)
    | .error f => .error (.ignoreFile f)

/-- The rules of the settings of a directory; faulty settings have none. -/
def settingsRules (tree : Entry) (root : Path) : Except ScanFault (List IgnoreRule) :=
  match Settings.load tree [] (root.child settingsFileName) with
  | .ok s => .ok (IgnoreRule.ofPatterns s.excludePaths)
  | .error f => if f.isOwn then .ok [] else .error (.settings f)

/-- The rules for the paths below a directory: its own, and those of further patterns. -/
def scanRules (tree : Entry) (root : Path) (extraExcludes : List String) : Except ScanFault (List IgnoreRule) := do
  .ok ((← ignoreFileRules tree root) ++ (← settingsRules tree root) ++ IgnoreRule.ofPatterns extraExcludes)

/-! ### Scanning -/

/-- The source file of a path below a root, if it can be imported. -/
def sourceFile? (tree : Entry) (root : Path) (path : String) : Option SourceFile :=
  (moduleNameOf? path).map fun module =>
    let contents := (tree.readBytes (root.child path)).toOption.getD []
    ⟨path, module, contents.length, Digest.sha256 contents⟩

/-- What a scan logs about a file that it passes over. -/
def skippedRecord (path : String) : LogRecord :=
  ⟨channel "scanner", .debug, "Skipping " ++ path ++ ": not an importable module path", none⟩

/-- The source files of several paths below a root, and what is logged about the others. -/
def sourceFiles (tree : Entry) (root : Path) (paths : List String) : List SourceFile × List LogRecord :=
  (paths.filterMap (sourceFile? tree root),
    (paths.filter fun path => (moduleNameOf? path).isNone).map skippedRecord)

/-- The manifest of a directory, with the log of the scan.  Paths that patterns besides its own rules match are left
out as well. -/
def scan (tree : Entry) (current : List String) (extraExcludes : List String) (rootText : String) :
    Except ScanFault (Manifest × List LogRecord) :=
  match Entry.resolvePath current (Path.ofText rootText) with
  | .error f => .error (.file f)
  | .ok root =>
    match tree.hasEntry root, tree.hasDirectory root with
    | .error f, _ => .error (.file f)
    | _, .error f => .error (.file f)
    | .ok false, _ => .error (.missing rootText)
    | .ok true, .ok false => .error (.notDirectory rootText)
    | .ok true, .ok true => do
      let rules ← scanRules tree root extraExcludes
      let paths := match tree.find root with
        | .ok e => sourcePaths rules "" e
        | .error _ => []
      let (files, skipped) := sourceFiles tree root paths
      .ok (⟨root, files⟩, skipped ++
        [⟨channel "scanner", .debug, "Scanned " ++ toString files.length ++ " modules under " ++ root.text, none⟩])

end NavFactory
