import QueryTelemetry.Request.Recorder
import QueryTelemetry.Request.Reporter
import QueryTelemetry.Settings.Tracing

/-!
# The observers of this library

A request can be traced, logged, recorded, or watched by somebody who does nothing. Tracing that is
switched off watches and does nothing.
-/

namespace QueryTelemetry

namespace Trace.Observer

/-- What an outcome leaves of the state of telemetry. -/
def settle (t : Telemetry) (o : Outcome) : Observer × Telemetry × Option Fault :=
  (o.observer, t.absorb o.backend, o.fault)

/-- Tracing takes part in requests. -/
instance : Request.Observing Observer where
  kind _ := "OpenTelemetryExtension"
  react o e data t :=
    let (o, t, fault) := settle t (o.hook data.parent? e t.backend)
    { observer := o, data, telemetry := t, fault }
  close o t := settle t (o.close t.backend)

end Trace.Observer

namespace Request

/-- An observer of one of the kinds that this library has. -/
inductive Participant where
  | bystander
  | recorder (r : Recorder)
  | reporter (r : Reporter)
  | tracing (o : Trace.Observer)

namespace Participant

/-- The tracing of a new request by its settings. -/
def ofSettings (tracer : Trace.Tracer) (s : Settings.Tracing) : Participant :=
  if s.enabled then
    tracing (.create tracer s.includeSource s.includeVariables s.strictSlots)
  else bystander

/-- The name of the kind of an observer. -/
def kind : Participant → String
  | bystander => "BaseExtension"
  | recorder r => Observing.kind r
  | reporter r => Observing.kind r
  | tracing o => Observing.kind o

/-- A reaction of an observer of one kind. -/
def lift {ι : Type} (f : ι → Participant) (r : Reaction ι) : Reaction Participant :=
  { observer := f r.observer, data := r.data, telemetry := r.telemetry, fault := r.fault }

/-- What an observer does at an event. -/
def react (p : Participant) (e : Event) (data : Data) (t : Telemetry) : Reaction Participant :=
  match p with
  | bystander => { observer := bystander, data, telemetry := t, fault := none }
  | recorder r => lift recorder (Observing.react r e data t)
  | reporter r => lift reporter (Observing.react r e data t)
  | tracing o => lift tracing (Observing.react o e data t)

/-- What closing an observer of one kind leaves. -/
def liftClosed {ι : Type} (f : ι → Participant) (c : ι × Telemetry × Option Fault) :
    Participant × Telemetry × Option Fault :=
  (f c.1, c.2)

/-- What an observer does when the request is left. -/
def close (p : Participant) (t : Telemetry) : Participant × Telemetry × Option Fault :=
  match p with
  | bystander => (bystander, t, none)
  | recorder r => liftClosed recorder (Observing.close r t)
  | reporter r => liftClosed reporter (Observing.close r t)
  | tracing o => liftClosed tracing (Observing.close o t)

instance : Observing Participant := { kind, react, close }

end Participant

end Request

end QueryTelemetry
