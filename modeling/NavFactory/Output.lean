import NavFactory.Diff.Unified
import NavFactory.Files.Access
import NavFactory.Log

/-!
# Generated files

Compares the texts of generated files with those on disk and writes the ones that differ.  A text is written to a
temporary file beside its place and then moved there, so that the place never holds a part of it.
-/

namespace NavFactory

/-- A file that a round has looked after. -/
structure WrittenFile where
  path : Path
  changed : Bool
deriving DecidableEq

/-- Why generated files cannot be compared or written. -/
inductive OutputFault
  | directory (path : Path) (f : FileFault)
  | unreadable (path : Path) (f : ReadingFault)
  | unwritable (path : Path) (f : FileFault)
  /-- A file operation fails in a way that is not expected. -/
  | file (f : FileFault)
deriving DecidableEq

def OutputFault.message : OutputFault → String
  | directory path f => "Cannot create output directory " ++ path.text ++ ": " ++ f.message
  | unreadable path f => "Cannot read existing " ++ path.text ++ ": " ++ f.message
  | unwritable path f => "Cannot write " ++ path.text ++ ": " ++ f.message
  | file f => f.message

/-- The texts of generated files by name. -/
abbrev Sources := List (String × String)

namespace Output

/-- The text of a file, if there is one. -/
def currentText (tree : Entry) (path : Path) : Except OutputFault (Option String) :=
  match tree.readText path with
  | .ok text => .ok (some text)
  | .error (.file f) =>
    if f.problem == .missing then .ok none
    else if f.problem == .nullCharacter then .error (.file f)
    else .error (.unreadable path (.file f))
  | .error f => .error (.unreadable path f)

/-- The directory of a path without double dots. -/
def temporaryDirectory (path : Path) : Path := ⟨path.root, Path.collapse [] path.parent.parts⟩

/-- Puts a text into the place of a file: it is written beside it and then moved. -/
def replaceFile (tree : Entry) (path : Path) (text : String) : Except OutputFault Entry :=
  let directory := temporaryDirectory path
  match tree.createTemporary directory path.name (Text.encode text) (tree.entryCount directory) 0 with
  | .error f => .error (.file f)
  | .ok (temporary, written) =>
    match written.moveFile temporary path with
    | .ok tree => .ok tree
    | .error f => .error (.unwritable path f)

/-- A tree after files have been written, with the log and how it went. -/
structure Outcome where
  tree : Entry
  records : List LogRecord
  result : Except OutputFault (List WrittenFile)

def record (level : Level) (message : String) : LogRecord := ⟨channel "output", level, message, none⟩

/-- Brings a file up to date: the tree after it, and whether the file was written. -/
def updateFile (tree : Entry) (path : Path) (text : String) : Except OutputFault (Entry × Bool) := do
  let current ← currentText tree path
  if current == some text then .ok (tree, false) else .ok (← replaceFile tree path text, true)

/-- What is logged about a file that has been brought up to date. -/
def updateRecord (path : Path) (changed : Bool) : LogRecord :=
  if changed then record .info ("Wrote " ++ path.text) else record .debug (path.text ++ " is up to date")

/-- Goes on behind a file with the tree that bringing it up to date has left; a fault ends everything. -/
def behind (tree : Entry) (path : Path) (updated : Except OutputFault (Entry × Bool)) (next : Entry → Outcome) : Outcome :=
  match updated with
  | .error f => ⟨tree, [], .error f⟩
  | .ok (tree, changed) =>
    let more := next tree
    ⟨more.tree, updateRecord path changed :: more.records, more.result.map (⟨path, changed⟩ :: ·)⟩

/-- Brings files up to date one after the other in a directory that is there. -/
def writeFiles (directory : Path) (tree : Entry) : Sources → Outcome
  | [] => ⟨tree, [], .ok []⟩
  | (name, text) :: rest =>
    let path := directory.child name
    behind tree path (updateFile tree path text) fun tree => writeFiles directory tree rest

/-- Writes files into a directory, which is made if it is missing. -/
def write (tree : Entry) (directory : Path) (files : Sources) : Outcome :=
  match tree.ensureDirectories directory with
  | (tree, some f) =>
    ⟨tree, [], .error (if f.problem == .nullCharacter then .file f else .directory directory f)⟩
  | (tree, none) => writeFiles directory tree files

/-- The differences of files on disk from what they should be, by name; files that are as they should be have
none. -/
def diff (tree : Entry) (directory : Path) : Sources → Except OutputFault (List (String × String))
  | [] => .ok []
  | (name, text) :: rest => do
    let current ← currentText tree (directory.child name)
    let more ← diff tree directory rest
    .ok (if current == some text then more else (name, Diff.unified name (current.getD "") text) :: more)

end Output

end NavFactory
