import QueryTelemetry.Request.Runner

/-!
# Recording a request

A recorder remembers every event that it gets, with what the event carries, and can be made to fail
at events of some names once it has remembered them.
-/

namespace QueryTelemetry.Request

/-- An event as it was received. -/
structure Call where
  event : String
  arguments : List Value

/-- The events that were received, the number of times that data came with one, and the names of the
events to fail at. -/
structure Recorder where
  failOn : List String
  calls : List Call
  contexts : Nat

namespace Recorder

/-- A recorder that has received nothing. -/
def create (failOn : List String) : Recorder := { failOn, calls := [], contexts := 0 }

/-- The recorder after one more event, which may have come with data. -/
def record (r : Recorder) (c : Call) (withData : Bool) : Recorder :=
  { r with calls := r.calls ++ [c], contexts := if withData then r.contexts + 1 else r.contexts }

/-- The fault that a recorder raises at an event of a name. -/
def failure (r : Recorder) (event : String) : Option Fault :=
  if r.failOn.contains event then some (.ofRuntime (event ++ " failed")) else none

/-- How often events of a name were received. -/
def count (r : Recorder) (event : String) : Nat := r.calls.countP (·.event == event)

/-- A recorder that has forgotten everything. -/
def reset (r : Recorder) : Recorder := create r.failOn

/-- The name under which closing is recorded. -/
def closing : String := "close"

instance : Observing Recorder where
  kind _ := "RecordingExtension"
  react r e data t :=
    { observer := r.record { event := e.name, arguments := e.payload } true
      data, telemetry := t, fault := r.failure e.name }
  close r t := (r.record { event := closing, arguments := [] } false, t, r.failure closing)

end Recorder

end QueryTelemetry.Request
