import NavFactory.Accessor
import NavFactory.Factory

/-!
# Processors

A processor turns the declarations that carry its marker into a container.  Three are built in; plug-ins add
others.  `discover` picks those that are enabled: the built-in ones first, each name once whatever its case.
-/

namespace NavFactory

/-- A plug-in, whose container holds no methods. -/
structure Plugin where
  kind : String
  marker : String
  module : String
  docstring : String
deriving DecidableEq

/-- What turns the declarations of one marker into a container. -/
inductive Processor
  | targets (t : TargetKind)
  | bundles
  | plugin (p : Plugin)
deriving DecidableEq

namespace Processor

def kind : Processor → String
  | targets t => t.kind
  | bundles => "bundle"
  | plugin p => p.kind

def marker : Processor → String
  | targets t => t.marker
  | bundles => bundleMarker
  | plugin p => p.marker

def module : Processor → String
  | targets t => t.module
  | bundles => "bundles"
  | plugin p => p.module

/-- The container for the declarations of a round. -/
def container (p : Processor) (declarations : List Declaration) (containerName : String) : Report Container :=
  match p with
  | targets t => targetContainer t declarations containerName
  | bundles => bundleContainer declarations containerName
  | plugin p => pure ⟨p.kind, containerName, p.module, p.docstring, .reserving [], []⟩

/-- What a processor logs about a container that it has made. -/
def emissionRecords (p : Processor) (c : Container) : List LogRecord :=
  let emitted (what : String) : LogRecord :=
    ⟨channel ("processing." ++ c.kind), .debug,
      "Emitted " ++ toString c.methods.length ++ " " ++ what ++ " into " ++ c.name, none⟩
  match p with
  | targets _ => [emitted "methods"]
  | bundles => [emitted "accessors"]
  | plugin _ => []

end Processor

/-- The processors that are built in, by name. -/
def builtinProcessors : List (String × Processor) :=
  [("activity", .targets activityTargets), ("fragment", .targets fragmentTargets), ("bundle", .bundles)]

/-- What a plug-in's entry point gives when it is loaded. -/
inductive LoadedObject
  | processor (p : Plugin)
  | foreign
  | failed (message : String)
deriving DecidableEq

/-- A named entry point of a plug-in. -/
structure EntryPoint where
  name : String
  object : LoadedObject
deriving DecidableEq

/-- Why processors cannot be discovered. -/
inductive DiscoveryFault
  | loadFailed (name message : String)
  | notAProcessor
  | unknown (names : List String)
deriving DecidableEq

def DiscoveryFault.message : DiscoveryFault → String
  | loadFailed name message => "Failed to load processor entry point '" ++ name ++ "': " ++ message
  | notAProcessor => "Processor entry point must be a Processor subclass or factory"
  | unknown names => "Unknown processors requested: " ++ ", ".intercalate names

/-- Whether a name in lower case is to be used; an empty list of enabled names leaves the choice open. -/
def isEnabled (enabled : List String) (key : String) : Bool := enabled.isEmpty || enabled.contains key

/-- Entry points in order: each is loaded, and its processor is added if its name is enabled and not yet `seen`.
The names seen are returned with the processors. -/
def discoverFrom (enabled seen : List String) :
    List EntryPoint → Except DiscoveryFault (List Processor × List String)
  | [] => .ok ([], seen)
  | e :: rest =>
    let key := Text.lower e.name
    match e.object with
    | .failed message => .error (.loadFailed e.name message)
    | .foreign =>
      if isEnabled enabled key && !seen.contains key then .error .notAProcessor else discoverFrom enabled seen rest
    | .processor p =>
      if isEnabled enabled key && !seen.contains key then do
        let (found, seen) ← discoverFrom enabled (key :: seen) rest
        .ok (.plugin p :: found, seen)
      else discoverFrom enabled seen rest

/-- The processors of a round. -/
def discover (enabledNames : List String) (entryPoints : List EntryPoint) : Except DiscoveryFault (List Processor) := do
  let enabled := dedupe (enabledNames.map Text.lower)
  let builtin := builtinProcessors.filter fun (name, _) => isEnabled enabled name
  let (found, seen) ← discoverFrom enabled (builtin.map (·.1)) entryPoints
  let missing := sortTexts (enabled.filter fun key => !seen.contains key)
  if (", ".intercalate missing).isEmpty then .ok (builtin.map (·.2) ++ found) else .error (.unknown missing)

end NavFactory
