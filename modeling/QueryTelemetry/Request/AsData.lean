import QueryTelemetry.Propagation.Bridge
import QueryTelemetry.Request.Participant
import QueryTelemetry.Settings.Data
import QueryTelemetry.Trace.Data

/-!
# Requests as data

The observers of a request and what a caller says about its tracing, read from named data, and what
a recorder has received, shown as such.
-/

namespace QueryTelemetry

/-- The propagators that data names, or the usual ones. -/
def Propagation.namesOf (v : Value) : List String :=
  if (v.member? "propagators").isSome then v.textsAt "propagators" else defaultNames

namespace Request

/-- What a caller says about tracing, while a context is current, with the notes that it leaves. A
carrier must be readable. Other data is nothing of the kind. -/
def Joining.ofValue? (current : Trace.Context) (v : Value) :
    Option (Except Fault (Joining × List Log.HostRecord)) :=
  match v.textAt "$t" "" with
  | "parent_none" => some (.ok ({ parent := none }, []))
  | "parent_empty" => some (.ok ({ parent := some .empty }, []))
  | "parent_span" =>
    some (.ok (.ofSpan { identity := .ofValue v, entry := none } current, []))
  | "parent_carrier" =>
    let (bridge, notes) := Propagation.Bridge.ofNames false (Propagation.namesOf v)
    let joining := bridge.joining ((v.member? "carrier").getD (.dict [])) current
    some (joining.map fun j => (j, notes))
  | _ => none

/-- The tracer of an observer that data describes. Settings may name its scope, if the name is not
empty. -/
def tracerOfValue (v : Value) (s : Settings.Tracing) : Trace.Tracer :=
  let namesScope := v.textAt "via" "" == "create" && !s.tracerName.isEmpty
  { provider := v.textAt "provider" "p"
    scope := if namesScope then s.tracerName else Settings.Tracing.standard.tracerName
    refuses := Trace.refusalsOf (v.entry "faults") }

/-- An observer. -/
def Participant.ofValue (v : Value) (t : Telemetry) : Except Fault (Participant × Telemetry) :=
  match v.textAt "kind" "" with
  | "recording" => .ok (.recorder (.create (v.textsAt "fail_on")), t)
  | "logging" =>
    let (r, t) := Reporter.create (v.textAt? "logger_name") (v.boolAt "log_query" true)
      (v.boolAt "log_variables" false) t
    .ok (.reporter r, t)
  | "otel" => do
    let given ← Settings.Tracing.ofValue? (v.entry "config")
    let s := given.getD .standard
    .ok (.ofSettings (tracerOfValue v s) s, t)
  | _ => .ok (.bystander, t)

/-- What a recorder has received, as named data. All of it came with the data of one request. -/
def Recorder.toFields (r : Recorder) : Fields :=
  [("events", .ofTexts (r.calls.map Call.event)),
    ("args", .list (r.calls.map fun c => .list c.arguments)),
    ("contexts", .ofNat r.contexts), ("same_context", .bool true)]

/-- What recorders among some observers have received. -/
def Participant.recorded (ps : List Participant) : Value :=
  .list (ps.filterMap fun
    | .recorder r => some (Fields.toValue r.toFields)
    | _ => none)

/-- The numbers of errors that reporters among some observers have seen. -/
def Participant.errorCounts (ps : List Participant) : Value :=
  .list (ps.filterMap fun
    | .reporter r => some (.ofNat r.errors)
    | _ => none)

/-- The live slots of the tracing observers among some observers. -/
def Participant.trees (ps : List Participant) : Value :=
  .list (ps.filterMap fun
    | .tracing o => some (.ofTexts (o.tree.keys.map Trace.Slot.label))
    | _ => none)

end Request

end QueryTelemetry
