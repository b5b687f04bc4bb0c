import NavFactory.CommandLine.Arguments
import NavFactory.CommandLine.Help
import NavFactory.Round

/-!
# The command line

What a command does to a file tree, what it prints and how it exits.  Mistakes in the setup of a project and texts
that cannot be generated are explained and make the exit code one; other faults end the program as they are.
-/

namespace NavFactory

/-- Why the program ends without an exit code of its own. -/
inductive CommandFault
  | logFile (f : FileFault)
  | round (f : RoundFault)
deriving DecidableEq

def CommandFault.message : CommandFault → String
  | logFile f => f.message
  | round f => f.message

/-- A file tree after a command, and what the command has shown. -/
structure CommandOutcome where
  tree : Entry
  exitCode : Nat := 0
  output : String := ""
  errors : String := ""
  fault : Option CommandFault := none

/-! ### Faults that are explained -/

/-- Whether a fault says that something is not where it is looked for. -/
def FileFault.isMisplaced (f : FileFault) : Bool := f.problem == .missing || f.problem == .notDirectory

@[inherit_doc FileFault.isMisplaced] def ReadingFault.isMisplaced : ReadingFault → Bool
  | file f => f.isMisplaced
  | undecodable _ => false

/-- Whether a fault lies in the setup of a project. -/
def SettingsFault.isSetup (f : SettingsFault) : Bool :=
  match f with
  | unreadable f => f.isMisplaced
  | f => f.isOwn

@[inherit_doc SettingsFault.isSetup] def ScanFault.isSetup : ScanFault → Bool
  | missing _ => true
  | notDirectory _ => true
  | file f => f.isMisplaced
  | ignoreFile f => f.isMisplaced
  | settings f => f.isSetup

@[inherit_doc SettingsFault.isSetup] def RoundFault.isSetup : RoundFault → Bool
  | noProject _ => true
  | unresolved f => f.isMisplaced
  | settings f => f.isSetup
  | scan f => f.isSetup
  | template f => f.isMisplaced
  | output (.file f) => f.isMisplaced
  | _ => false

/-- Whether a fault means that a text cannot be generated or kept. -/
def RoundFault.isGeneration : RoundFault → Bool
  | sameFile _ => true
  | render .nullCharacter => false
  | render _ => true
  | output (.file _) => false
  | output _ => true
  | _ => false

/-! ### Log files -/

/-- The place of a log file. -/
def logPlace (current : List String) (file : String) : Path := (Path.ofText file).resolved current

/-- Appends a text to a log file, which is made if it is missing. -/
def appendLog (tree : Entry) (file : Path) (text : String) : Except FileFault Entry := do
  match ← tree.locate file with
  | .free above name => .ok (tree.put (above ++ [name]) (.file (Text.encode text)))
  | .found names => match tree.at? names with
    | some (.file contents) => .ok (tree.put names (.file (contents ++ Text.encode text)))
    | _ => .error ⟨.isDirectory, file⟩

namespace CommandLine

/-! ### Results -/

/-- A path as seen from the current directory, if it lies below. -/
def seenFrom (current : List String) (p : Path) : String :=
  match p.relativeTo? (Path.absolute current) with
  | some relative => relative.text
  | none => p.text

/-- What is printed about a round that went through. -/
def report (i : Invocation) (current : List String) (o : RoundOutcome) : String :=
  let diffs := String.join (o.diffs.map (·.2))
  match i.command with
  | .check => if o.stale then diffs else "Generated files are up to date\n"
  | .generate =>
    if i.dryRun then
      if o.stale then "Generated files would change (dry-run):\n" ++ diffs
      else "Generated files already up to date (dry-run)\n"
    else if o.changed.isEmpty then "Generated files already up to date\n"
    else String.join (o.changed.map fun p => "Generated " ++ seenFrom current p ++ "\n")

/-- Why a command fails although the round went through. -/
def complaint? (i : Invocation) (o : RoundOutcome) : Option String :=
  match i.command with
  | .check =>
    if o.stale then some ("Generated files are out of date. Run `" ++ programName ++ " generate`.\n") else none
  | .generate =>
    if (i.strict || o.strict) && !o.errors.isEmpty then
      some (programName ++ " generate: " ++ toString o.errors.length ++ " declaration errors (strict mode)\n")
    else none

/-- The explanation of a fault, if it has one. -/
def explanation? (i : Invocation) (f : RoundFault) : Option String :=
  if f.isSetup then some (f.message ++ "\n")
  else if f.isGeneration then
    some (programName ++ " " ++ i.command.name ++ " failed: " ++ f.message ++
      "\nRun with --verbose for more details.\n")
  else none

/-- The end of a command whose round has run; `log` is what the console shows of it. -/
def conclude (i : Invocation) (current : List String) (tree : Entry) (log : String)
    (result : Except RoundFault RoundOutcome) : CommandOutcome :=
  match result with
  | .ok o =>
    let text := report i current o
    match complaint? i o with
    | some complaint => { tree, exitCode := 1, output := text, errors := log ++ complaint }
    | none => { tree, output := text, errors := log }
  | .error f =>
    match explanation? i f with
    | some explanation => { tree, exitCode := 1, errors := log ++ explanation }
    | none => { tree, errors := log, fault := some (.round f) }

/-! ### Commands -/

/-- The round that a command runs. -/
def roundOf (tree : Entry) (current : List String) (i : Invocation) : Round :=
  let request : Request := { path := i.path, output := i.output.map Path.ofText }
  if i.command = .check || i.dryRun then Round.check tree current request else Round.generate tree current request

/-- Carries out a command.  `time` stands in front of the lines of a log file, which is opened before anything else
and must be writable. -/
def perform (tree : Entry) (current : List String) (time : String) (i : Invocation) : CommandOutcome :=
  let finish (tree : Entry) (append : Entry → String → Entry) : CommandOutcome :=
    let round := roundOf tree current i
    conclude i current (append round.tree (fileLog i.verbose time round.records)) (consoleLog i.verbose round.records)
      round.result
  match i.logFile.map (logPlace current) with
  | none => finish tree fun tree _ => tree
  | some file => match appendLog tree file "" with
    | .error f => { tree, fault := some (.logFile f) }
    | .ok opened => finish opened fun tree text => (appendLog tree file text).toOption.getD tree

/-- Runs the program on the arguments of a command line. -/
def run (tree : Entry) (current : List String) (time : String) (arguments : List String) : CommandOutcome :=
  match readArguments arguments with
  | .ok i => perform tree current time i
  | .error (.help p) => { tree, output := p.help }
  | .error (.misuse p f) =>
    { tree, exitCode := 2, errors := p.usage ++ p.program ++ ": error: " ++ f.message ++ "\n" }

end CommandLine

end NavFactory
