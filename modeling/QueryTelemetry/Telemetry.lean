import QueryTelemetry.Log.Registry
import QueryTelemetry.Settings.Seconds
import QueryTelemetry.Trace.Observer

/-!
# The state of telemetry

What requests share: the loggers, the journal of spans, the clock, and the trail of everything that
left the library through a log. Beside that stands what is current where the code runs, the
tracing context and the context of log records; every call may find another one there.
-/

namespace QueryTelemetry

/-- What is current where the code runs. -/
structure Ambient where
  tracing : Trace.Context
  logging : Log.Context

namespace Ambient

/-- Nothing is current. -/
def empty : Ambient := { tracing := .empty, logging := .empty }

end Ambient

/-- The state that requests share, and what is current. -/
structure Telemetry where
  registry : Log.Registry
  journal : Trace.Journal
  ambient : Ambient
  /-- The readings of the clock that are still to come. -/
  clock : List Settings.Seconds
  now : Log.Timestamp
  /-- How many requests were given an id here. -/
  numbered : Nat
  /-- What left the library through a log, the oldest first. -/
  trail : List Log.Emission

namespace Telemetry

/-- The state at the beginning. -/
def create (registry : Log.Registry) (clock : List Settings.Seconds) (now : Log.Timestamp) :
    Telemetry :=
  { registry, journal := .empty, ambient := .empty, clock, now, numbered := 0, trail := [] }

/-- The state with another context of log records. -/
def withLogging (t : Telemetry) (c : Log.Context) : Telemetry :=
  { t with ambient := { t.ambient with logging := c } }

/-- The state with another tracing context. -/
def withTracing (t : Telemetry) (c : Trace.Context) : Telemetry :=
  { t with ambient := { t.ambient with tracing := c } }

/-- The logger of a name, and the state with it. -/
def getLogger (t : Telemetry) (name : String) : Nat × Telemetry :=
  let (i, registry) := t.registry.getLogger name none
  (i, { t with registry })

/-- Log a message through the logger of a place. Fields that cannot be masked are refused. -/
def log (t : Telemetry) (logger : Nat) (level : Log.Level) (message : String) (fields : Fields) :
    Except Fault Telemetry := do
  let (registry, out) ← t.registry.log logger level message fields t.ambient.logging t.now
  .ok { t with registry, trail := t.trail ++ out }

/-- Log a message whose fields are texts, with the fault that it reports, if any. Such fields are
never refused. -/
def say (t : Telemetry) (logger : Nat) (level : Log.Level) (message : String)
    (fields : List (String × String)) (exc : Option Fault) : Telemetry :=
  let arguments := fields.map fun e => (e.1, Value.text e.2)
  let given := match exc with
    | some f => arguments ++ [(Log.Logger.faultArgument, .fault f)]
    | none => arguments
  match t.log logger level message given with
  | .ok t => t
  | .error _ => t

/-- Read the clock. Once its readings are used up it stands at zero. -/
def readClock (t : Telemetry) : Settings.Seconds × Telemetry :=
  match t.clock with
  | [] => (.fraction 0.0, t)
  | reading :: rest => (reading, { t with clock := rest })

/-- An id for a request that has none: the next number as 32 hexadecimal digits. -/
def newId (t : Telemetry) : String × Telemetry :=
  (Text.hex 32 (t.numbered + 1), { t with numbered := t.numbered + 1 })

/-- The part of the state that tracing works on. -/
def backend (t : Telemetry) : Trace.Backend :=
  { journal := t.journal, current := t.ambient.tracing, notes := [] }

/-- The state after tracing has worked on its part. -/
def absorb (t : Telemetry) (b : Trace.Backend) : Telemetry :=
  { t.withTracing b.current with
    journal := b.journal, trail := t.trail ++ b.notes.map Log.Emission.host }

end Telemetry

end QueryTelemetry
