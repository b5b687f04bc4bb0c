import NavFactory.Round.Plan

/-!
# Rounds

A round makes a plan for a project and then writes the generated files that differ from it, or only tells how they
differ.  A round that fails before it writes, and one that only compares, leaves the file tree as it is.
-/

namespace NavFactory

/-- What a round has done. -/
structure RoundOutcome where
  packageDirectory : Path
  containers : List Container
  sources : Sources
  diagnostics : List Diagnostic
  files : List WrittenFile := []
  /-- By file name, how the files that are not up to date differ from what they should be. -/
  diffs : List (String × String) := []
  dryRun : Bool
  strict : Bool
deriving DecidableEq

namespace RoundOutcome

def errors (o : RoundOutcome) : List Diagnostic := o.diagnostics.filter (·.isError)

/-- The files that were written. -/
def changed (o : RoundOutcome) : List Path := (o.files.filter (·.changed)).map (·.path)

/-- Whether some file was found out of date. -/
def stale (o : RoundOutcome) : Bool := !o.diffs.isEmpty

end RoundOutcome

/-- A file tree after a round, what the round made known, and how it went. -/
structure Round where
  tree : Entry
  events : List Event
  result : Except RoundFault RoundOutcome

namespace Round

/-- The log records of a round. -/
def records (r : Round) : List LogRecord := r.events.map (·.record)

/-- What a round logs at its end. -/
def summary (plan : Plan) (diagnostics : List Diagnostic) : LogRecord :=
  let count (n : Nat) := toString n
  roundRecord .info ("Generated " ++ count (plan.containers.flatMap (·.methods)).length ++ " methods in " ++
    count plan.containers.length ++ " containers (" ++ count (diagnostics.filter (·.isError)).length ++ " errors, " ++
    count (diagnostics.filter (·.isWarning)).length ++ " warnings)")

/-- The end of a round that comes to the end of its plan. -/
def finish (tree : Entry) (events : List Event) (plan : Plan) (dryRun : Bool) (files : List WrittenFile)
    (diffs : List (String × String)) : Round :=
  let diagnostics := diagnosticsOf events
  ⟨tree, events ++ [.logged (summary plan diagnostics)],
    .ok ⟨plan.settings.packageDirectory, plan.containers, plan.sources, diagnostics, files, diffs, dryRun,
      plan.settings.strict⟩⟩

/-- Compares the files of a plan with those of a tree. -/
def compare (tree : Entry) (events : List Event) (plan : Plan) : Round :=
  match Output.diff tree plan.settings.packageDirectory plan.sources with
  | .ok diffs => finish tree events plan true [] diffs
  | .error fault => ⟨tree, events, .error (.output fault)⟩

/-- Writes the files of a plan. -/
def write (tree : Entry) (events : List Event) (plan : Plan) : Round :=
  let written := Output.write tree plan.settings.packageDirectory plan.sources
  let events := events ++ written.records.map .logged
  match written.result with
  | .ok files => finish written.tree events plan false files []
  | .error fault => ⟨written.tree, events, .error (.output fault)⟩

/-- Goes through with a plan once it is made. -/
def ofPlan (tree : Entry) (planned : Trace Plan) (carryOut : Entry → List Event → Plan → Round) : Round :=
  match planned.result with
  | .ok plan => carryOut tree planned.events plan
  | .error fault => ⟨tree, planned.events, .error fault⟩

/-- A round that writes. -/
def generate (tree : Entry) (current : List String) (request : Request) : Round :=
  ofPlan tree (plan tree current request) write

/-- A round that only compares. -/
def check (tree : Entry) (current : List String) (request : Request) : Round :=
  ofPlan tree (plan tree current request) compare

end Round

end NavFactory
