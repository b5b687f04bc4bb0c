import NavFactory.Files.Path
import NavFactory.Files.Tree
import NavFactory.Text.Lines
import NavFactory.Text.Quoted
import NavFactory.Text.Utf8

/-!
# Access to files

Looking up, reading and writing entries of a file tree by path.  A double dot leads back to the directory that the
path has come through, so that every step of a path must exist.
-/

namespace NavFactory

/-- Why a path cannot be used. -/
inductive FileProblem
  | missing
  | occupied
  | notDirectory
  | isDirectory
  | nameTooLong
  /-- A name holds a null character. -/
  | nullCharacter
deriving DecidableEq

namespace FileProblem

/-- The number of a problem. -/
def number : FileProblem → Nat
  | missing => 2
  | occupied => 17
  | notDirectory => 20
  | isDirectory => 21
  | nameTooLong => 36
  | nullCharacter => 0

def text : FileProblem → String
  | missing => "No such file or directory"
  | occupied => "File exists"
  | notDirectory => "Not a directory"
  | isDirectory => "Is a directory"
  | nameTooLong => "File name too long"
  | nullCharacter => "embedded null byte"

end FileProblem

/-- A problem with a path. -/
structure FileFault where
  problem : FileProblem
  path : Path
deriving DecidableEq

namespace FileFault

def message (f : FileFault) : String :=
  if f.problem == .nullCharacter then f.problem.text
  else "[Errno " ++ toString f.problem.number ++ "] " ++ f.problem.text ++ ": " ++ Text.quote f.path.text

/-- Whether a fault means only that there is nothing at a path. -/
def isAbsence (f : FileFault) : Bool :=
  f.problem == .missing || f.problem == .notDirectory || f.problem == .nullCharacter

end FileFault

namespace Text

/-- What a fault in a byte sequence says. -/
def DecodeFault.message (f : DecodeFault) : String :=
  let place :=
    if f.stop == f.start + 1 then
      "byte 0x" ++ String.ofList (hexDigits 2 f.first.toNat) ++ " in position " ++ toString f.start
    else "bytes in position " ++ toString f.start ++ "-" ++ toString (f.stop - 1)
  let reason := match f.reason with
    | .invalidStart => "invalid start byte"
    | .invalidContinuation => "invalid continuation byte"
    | .unexpectedEnd => "unexpected end of data"
  "'utf-8' codec can't decode " ++ place ++ ": " ++ reason

end Text

/-! ### Finding entries -/

/-- Where a path leads: to an entry, or to a name that is free in a directory. -/
inductive Place
  | found (names : List String)
  | free (directory : List String) (name : String)
deriving DecidableEq

/-- The length that a name may have in bytes. -/
def maxNameLength : Nat := 255

namespace Entry

/-- Where the rest of a path leads from a directory that is reached by given names. -/
def locateFrom (tree : Entry) (names : List String) : List String → Except FileProblem Place
  | [] => .ok (.found names)
  | part :: rest =>
    match tree.at? names with
    | none => .error .missing
    | some (.file _) => .error .notDirectory
    | some here =>
      if part == ".." then locateFrom tree names.dropLast rest
      else if maxNameLength < part.utf8ByteSize then .error .nameTooLong
      else
        match here.child? part with
        | some _ => locateFrom tree (names ++ [part]) rest
        | none => if rest.isEmpty then .ok (.free names part) else .error .missing

/-- Where an absolute path leads. -/
def locate (tree : Entry) (p : Path) : Except FileFault Place :=
  if p.hasNull then .error ⟨.nullCharacter, p⟩
  else match tree.locateFrom [] p.parts with
    | .ok place => .ok place
    | .error problem => .error ⟨problem, p⟩

/-- A path without double dots, from the top of the file tree. -/
def resolvePath (current : List String) (p : Path) : Except FileFault Path :=
  if p.hasNull then .error ⟨.nullCharacter, p⟩ else .ok (p.resolved current)

/-- The entry that a path leads to. -/
def find (tree : Entry) (p : Path) : Except FileFault Entry := do
  match ← tree.locate p with
  | .found names => match tree.at? names with
    | some e => .ok e
    | none => .error ⟨.missing, p⟩
  | .free .. => .error ⟨.missing, p⟩

/-- What a test says about the entry that a path leads to; it fails where there is none. -/
def holds (tree : Entry) (p : Path) (test : Entry → Bool) : Except FileFault Bool :=
  match tree.find p with
  | .ok e => .ok (test e)
  | .error fault => if fault.isAbsence then .ok false else .error fault

/-- Whether a path leads to an entry. -/
def hasEntry (tree : Entry) (p : Path) : Except FileFault Bool := tree.holds p fun _ => true

/-- Whether a path leads to a directory. -/
def hasDirectory (tree : Entry) (p : Path) : Except FileFault Bool := tree.holds p Entry.isDirectory

/-! ### Reading -/

/-- The bytes of a file. -/
def readBytes (tree : Entry) (p : Path) : Except FileFault (List UInt8) := do
  match ← tree.find p with
  | .file contents => .ok contents
  | .directory _ => .error ⟨.isDirectory, p⟩

end Entry

/-- Why a file has no text. -/
inductive ReadingFault
  | file (f : FileFault)
  | undecodable (f : Text.DecodeFault)
deriving DecidableEq

def ReadingFault.message : ReadingFault → String
  | file f => f.message
  | undecodable f => f.message

/-- The text that bytes stand for, with line feeds for all newlines. -/
def textOfBytes (bytes : List UInt8) : Except Text.DecodeFault String :=
  (Text.decode bytes).map fun s => String.ofList (Text.normalizeBreaks s.toList)

/-- The text of a file, with line feeds for all newlines. -/
def Entry.readText (tree : Entry) (p : Path) : Except ReadingFault String :=
  match tree.readBytes p with
  | .error f => .error (.file f)
  | .ok bytes => match textOfBytes bytes with
    | .ok text => .ok text
    | .error f => .error (.undecodable f)

/-! ### Writing -/

namespace Entry

/-- Makes a directory, for which the one above must be there. -/
def makeDirectory (tree : Entry) (p : Path) : Except FileFault Entry := do
  match ← tree.locate p with
  | .found _ => .error ⟨.occupied, p⟩
  | .free above name => .ok (tree.put (above ++ [name]) emptyDirectory)

/-- What is left of a fault in making a directory: nothing if the directory is there. -/
def remainingFault (tree : Entry) (fault : FileFault) : Option FileFault :=
  if fault.problem == .nullCharacter then some fault
  else match tree.hasDirectory fault.path with
    | .ok true => none
    | .ok false => some fault
    | .error other => some other

/-- Makes a directory with those above it, given the parts of its path in reverse.  Those that were made before a fault
stay. -/
def ensureDirectoriesFrom (tree : Entry) (root : String) : List String → Entry × Option FileFault
  | [] => (tree, tree.remainingFault ⟨.occupied, ⟨root, []⟩⟩)
  | part :: above =>
    let p : Path := ⟨root, (part :: above).reverse⟩
    match tree.makeDirectory p with
    | .ok tree => (tree, none)
    | .error fault =>
      if fault.problem == .missing then
        match ensureDirectoriesFrom tree root above with
        | (tree, some fault) => (tree, some fault)
        | (tree, none) => match tree.makeDirectory p with
          | .ok tree => (tree, none)
          | .error fault => (tree, if fault.problem == .missing then some fault else tree.remainingFault fault)
      else (tree, tree.remainingFault fault)

/-- Makes a directory with those above it, and tells why if it cannot be made; one that is there stays as it is. -/
def ensureDirectories (tree : Entry) (p : Path) : Entry × Option FileFault :=
  tree.ensureDirectoriesFrom p.root p.parts.reverse

/-- The tree in which a directory has been made with those above it. -/
def makeDirectories (tree : Entry) (p : Path) : Except FileFault Entry :=
  match tree.ensureDirectories p with
  | (tree, none) => .ok tree
  | (_, some fault) => .error fault

/-- Makes a file in a place that must be free. -/
def createFile (tree : Entry) (p : Path) (contents : List UInt8) : Except FileFault Entry := do
  match ← tree.locate p with
  | .found _ => .error ⟨.occupied, p⟩
  | .free above name => .ok (tree.put (above ++ [name]) (.file contents))

/-- Moves a file to a place, where it replaces another file. -/
def moveFile (tree : Entry) (source target : Path) : Except FileFault Entry := do
  match ← tree.locate source with
  | .free .. => .error ⟨.missing, source⟩
  | .found names => match tree.at? names with
    | some (.file contents) =>
      match ← tree.locate target with
      | .free above name => .ok ((tree.erase names).put (above ++ [name]) (.file contents))
      | .found place => match tree.at? place with
        | some (.file _) => .ok ((tree.erase names).put place (.file contents))
        | _ => .error ⟨.isDirectory, target⟩
    | _ => .error ⟨.isDirectory, source⟩

/-- The name of a temporary file beside one of a given name. -/
def temporaryName (name : String) (n : Nat) : String :=
  let digits := toString n
  "." ++ name ++ "." ++ String.ofList (List.replicate (8 - digits.length) '0') ++ digits ++ ".tmp"

/-- Makes a temporary file under the first name that is free, from the `n`-th on; `fuel` bounds the number of names
that are tried. -/
def createTemporary (tree : Entry) (folder : Path) (name : String) (contents : List UInt8) :
    Nat → Nat → Except FileFault (Path × Entry)
  | 0, n =>
    let p := folder / ⟨"", [temporaryName name n]⟩
    (tree.createFile p contents).map fun tree => (p, tree)
  | fuel + 1, n =>
    let p := folder / ⟨"", [temporaryName name n]⟩
    match tree.createFile p contents with
    | .ok tree => .ok (p, tree)
    | .error fault =>
      if fault.problem == .occupied then createTemporary tree folder name contents fuel (n + 1) else .error fault

/-- How many entries the directory of a path has. -/
def entryCount (tree : Entry) (p : Path) : Nat :=
  match tree.find p with
  | .ok e => e.entries.length
  | .error _ => 0

end Entry

end NavFactory
