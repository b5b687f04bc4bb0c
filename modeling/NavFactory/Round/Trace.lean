import NavFactory.Diagnostic
import NavFactory.Manifest
import NavFactory.Output
import NavFactory.Processor
import NavFactory.Reader
import NavFactory.Rendering

/-!
# Traces

A trace is a computation of a round: what it makes known on its way, in order, and its result or why there is none.
Log lines and diagnostics are events of one list, because they appear interleaved.
-/

namespace NavFactory

/-- Something that a round makes known. -/
inductive Event
  | logged (r : LogRecord)
  | reported (d : Diagnostic)
deriving DecidableEq

namespace Event

/-- The log record of an event. -/
def record : Event → LogRecord
  | logged r => r
  | reported d => d.record

/-- The diagnostic that an event reports, if it does. -/
def diagnostic? : Event → Option Diagnostic
  | logged _ => none
  | reported d => some d

end Event

/-- The diagnostics among events, in order. -/
def diagnosticsOf (events : List Event) : List Diagnostic := events.filterMap Event.diagnostic?

/-- Why a round ends early. -/
inductive RoundFault
  | noProject (path : String)
  | unresolved (f : FileFault)
  | settings (f : SettingsFault)
  | scan (f : ScanFault)
  | source (f : ReadFault)
  | digits (limit : Value.DigitLimit)
  | discovery (f : DiscoveryFault)
  /-- Two containers have the same file name, or one has that of the package. -/
  | sameFile (fileName : String)
  | template (f : ReadingFault)
  | render (f : RenderFault)
  | output (f : OutputFault)
deriving DecidableEq

def RoundFault.message : RoundFault → String
  | noProject path => "Project path not found: " ++ path
  | unresolved f => f.message
  | settings f => f.message
  | scan f => f.message
  | source f => f.message
  | digits limit => limit.message
  | discovery f => f.message
  | sameFile fileName => "Two containers would be written to " ++ fileName
  | template f => f.message
  | render f => f.message
  | output f => f.message

/-- A computation with the events on its way. -/
structure Trace (α : Type) where
  events : List Event
  result : Except RoundFault α

namespace Trace

variable {α β : Type}

/-- Goes on with a result; the events of the second part follow those of the first. -/
def andThen (t : Trace α) (f : α → Trace β) : Trace β :=
  match t.result with
  | .ok a => ⟨t.events ++ (f a).events, (f a).result⟩
  | .error fault => ⟨t.events, .error fault⟩

instance : Monad Trace where
  pure a := ⟨[], .ok a⟩
  bind := andThen

/-- Logs records. -/
def log (records : List LogRecord) : Trace Unit := ⟨records.map .logged, .ok ()⟩

/-- Reports diagnostics. -/
def tell (diagnostics : List Diagnostic) : Trace Unit := ⟨diagnostics.map .reported, .ok ()⟩

/-- A result or a fault, without events. -/
def lift {ε : Type} (cause : ε → RoundFault) (result : Except ε α) : Trace α := ⟨[], result.mapError cause⟩

/-- A result with the diagnostics reported on the way to it. -/
def ofReport (r : Report α) : Trace α := ⟨r.diagnostics.map .reported, r.result.mapError .digits⟩

/-- Runs a trace for each of several values, in order. -/
def forEach (f : α → Trace β) : List α → Trace (List β)
  | [] => pure []
  | a :: rest => do
    let b ← f a
    let others ← forEach f rest
    pure (b :: others)

@[simp] theorem events_pure (a : α) : (pure a : Trace α).events = [] := rfl

@[simp] theorem result_pure (a : α) : (pure a : Trace α).result = .ok a := rfl

end Trace

end NavFactory
