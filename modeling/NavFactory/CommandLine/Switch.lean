import NavFactory.Log
import NavFactory.Text.Quoted

/-!
# Switches

The switches that each part of a command line takes.  The part in front of the command and each command have a table
of their own; usage lines, help and the reading of arguments follow from the tables.
-/

namespace NavFactory.CommandLine

/-- What the program is asked to do. -/
inductive Command
  | generate
  | check
deriving DecidableEq

namespace Command

def all : List Command := [generate, check]

def name : Command → String
  | generate => "generate"
  | check => "check"

def help : Command → String
  | generate => "Scan sources and write the generated containers."
  | check => "Fail when the generated containers are out of date."

def ofName? (name : String) : Option Command := all.find? (·.name == name)

end Command

/-- An argument that starts with a dash. -/
inductive Switch
  | help
  | verbose
  | logFile
  | output
  | strict
  | dryRun
deriving DecidableEq

namespace Switch

/-- The names of a switch, a short one first. -/
def names : Switch → List String
  | help => ["-h", "--help"]
  | verbose => ["-v", "--verbose"]
  | logFile => ["--log-file"]
  | output => ["--output"]
  | strict => ["--strict"]
  | dryRun => ["--dry-run"]

/-- What the value of a switch is called, if it takes one. -/
def valueName? : Switch → Option String
  | logFile => some "LOG_FILE"
  | output => some "OUTPUT"
  | _ => none

def takesValue (s : Switch) : Bool := s.valueName?.isSome

def helpText : Switch → String
  | help => "show this help message and exit"
  | verbose => "Increase log verbosity for troubleshooting."
  | logFile => "Also write logs to this file."
  | output => "Directory receiving the generated package (overrides output.directory)."
  | strict => "Exit with an error when any declaration was rejected."
  | dryRun => "Show the changes that would be written without touching files."

/-- A name of a switch together with that of its value. -/
def spelled (s : Switch) (name : String) : String :=
  match s.valueName? with
  | some value => name ++ " " ++ value
  | none => name

/-- How messages refer to a switch. -/
def label (s : Switch) : String := "/".intercalate s.names

end Switch

/-- A part of a command line: what stands in front of the command, or what follows one. -/
inductive Part
  | top
  | command (c : Command)
deriving DecidableEq

namespace Part

/-- The words that lead up to a part. -/
def program : Part → String
  | top => programName
  | command c => programName ++ " " ++ c.name

def switches : Part → List Switch
  | top => [.help, .verbose, .logFile]
  | command .generate => [.help, .verbose, .output, .strict, .dryRun]
  | command .check => [.help, .verbose, .output]

/-- The names of all switches of a part. -/
def switchNames (p : Part) : List (String × Switch) := p.switches.flatMap fun s => s.names.map (·, s)

/-- The switch of a name. -/
def switch? (p : Part) (name : String) : Option Switch := p.switchNames.lookup name

end Part

/-- Why a command line cannot be understood. -/
inductive UsageFault
  | ambiguous (text : String) (names : List String)
  /-- A switch has a value that it does not take. -/
  | unwantedValue (s : Switch) (value : String)
  | missingValue (s : Switch)
  | unknownCommand (text : String)
  | noCommand
  | unrecognized (arguments : List String)
deriving DecidableEq

def UsageFault.message : UsageFault → String
  | ambiguous text names => "ambiguous option: " ++ text ++ " could match " ++ ", ".intercalate names
  | unwantedValue s value => "argument " ++ s.label ++ ": ignored explicit argument " ++ Text.quote value
  | missingValue s => "argument " ++ s.label ++ ": expected one argument"
  | unknownCommand text =>
    "argument command: invalid choice: " ++ Text.quote text ++ " (choose from " ++
      ", ".intercalate (Command.all.map fun c => Text.quote c.name) ++ ")"
  | noCommand => "the following arguments are required: command"
  | unrecognized arguments => "unrecognized arguments: " ++ " ".intercalate arguments

end NavFactory.CommandLine
