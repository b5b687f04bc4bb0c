import NavFactory.Text.Case

/-!
# Log records

A record goes to the console under the tag of the program, except for a record of the diagnostics channel, whose
text is already a compiler-style line.  A log file shows time, level and channel of every record.
-/

namespace NavFactory

/-- How severe a log record is. -/
inductive Level
  | debug
  | info
  | warning
  | error
  | critical
deriving DecidableEq

namespace Level

def rank : Level → Nat
  | debug => 10
  | info => 20
  | warning => 30
  | error => 40
  | critical => 50

def name : Level → String
  | debug => "DEBUG"
  | info => "INFO"
  | warning => "WARNING"
  | error => "ERROR"
  | critical => "CRITICAL"

def all : List Level := [debug, info, warning, error, critical]

end Level

/-- The name of the program, which is also the channel that all others belong to. -/
def programName : String := "autotarget"

/-- A channel below that of the program. -/
def channel (name : String) : String := if name.isEmpty then programName else programName ++ "." ++ name

/-- The channel of diagnostics against declarations. -/
def diagnosticsChannel : String := channel "diagnostics"

/-- One line of the log. -/
structure LogRecord where
  channel : String
  level : Level
  message : String
  /-- Kind and text of an exception that the record carries along. -/
  cause : Option (String × String) := none
deriving DecidableEq

namespace LogRecord

/-- The kind of an exception, with its text unless that is empty. -/
def causeText (kind text : String) : String := if text.isEmpty then kind else kind ++ ": " ++ text

/-- The text of a record on the console. -/
def consoleText (r : LogRecord) : String :=
  let message :=
    if r.channel == diagnosticsChannel then r.message
    else "[" ++ programName ++ "] " ++ Text.lower r.level.name ++ ": " ++ r.message
  match r.cause with
  | some (kind, text) => message ++ "\n" ++ causeText kind text
  | none => message

/-- The text of a record in a log file, after the time at which it was written. -/
def fileText (time : String) (r : LogRecord) : String :=
  time ++ " " ++ r.level.name ++ " " ++ r.channel ++ ": " ++ r.message

/-- Whether a log that shows records from a level on shows the record. -/
def shownFrom (level : Level) (r : LogRecord) : Bool := level.rank ≤ r.level.rank

end LogRecord

/-- The level from which records are shown. -/
def shownLevel (verbose : Bool) : Level := if verbose then .debug else .info

/-- The records as they appear on the console, each on lines of its own. -/
def consoleLog (verbose : Bool) (records : List LogRecord) : String :=
  String.join ((records.filter (·.shownFrom (shownLevel verbose))).map (·.consoleText ++ "\n"))

/-- The records as they are appended to a log file. -/
def fileLog (verbose : Bool) (time : String) (records : List LogRecord) : String :=
  String.join ((records.filter (·.shownFrom (shownLevel verbose))).map (·.fileText time ++ "\n"))

end NavFactory
