import QueryTelemetry.Request.Data
import QueryTelemetry.Request.Lifecycle
import QueryTelemetry.Telemetry

/-!
# Running a request

A runner tells the events of one request to its observers, in their order. An observer that fails
is reported and passed over: the others still get the event, and the caller does not see the
failure. Events that do not fit the stage of the request are reported and told all the same. All
this happens in a log scope with the id of the request and the name of its operation, which is left
when the event has been told.

Closing the runner closes every observer, once.
-/

namespace QueryTelemetry.Request

/-- What an observer leaves after an event: itself, the data of the request, the state of
telemetry, and the fault that it raised, if any. -/
structure Reaction (ι : Type) where
  observer : ι
  data : Data
  telemetry : Telemetry
  fault : Option Fault

/-- What takes part in requests. -/
class Observing (ι : Type) where
  /-- The name of the kind of an observer. -/
  kind : ι → String
  /-- What an observer does at an event. -/
  react : ι → Event → Data → Telemetry → Reaction ι
  /-- What an observer does when the request is left. -/
  close : ι → Telemetry → ι × Telemetry × Option Fault

/-- One request on its way. -/
structure Runner (ι : Type) where
  observers : List ι
  data : Data
  requestId : String
  operationName : Option String
  stage : Stage
  closed : Bool
  logger : Nat

/-- What telling an event leaves. A fault is left only when a failure of an observer could not be
reported. -/
structure Told (ι : Type) where
  observers : List ι
  data : Data
  telemetry : Telemetry
  fault : Option Fault

namespace Runner

variable {ι : Type}

/-- The name of the logger of runners. -/
def loggerName : String := "gqlext.extensions.runner"

/-- The id that a request is given, or a new one when it is missing or empty. -/
def chooseId (given : Option String) (t : Telemetry) : String × Telemetry :=
  match given with
  | some id => if id.isEmpty then t.newId else (id, t)
  | none => t.newId

/-- A request that has not started. -/
def create (observers : List ι) (data : Data) (id operationName : Option String) (t : Telemetry) :
    Runner ι × Telemetry :=
  let (requestId, t) := chooseId id t
  let (logger, t) := t.getLogger loggerName
  ({ observers, data, requestId, operationName, stage := .idle, closed := false, logger }, t)

/-- Whether nobody observes the request. -/
def isEmpty (r : Runner ι) : Bool := r.observers.isEmpty

/-- The fields of the log scope of a request. -/
def scopeFields (r : Runner ι) : Log.Context :=
  { requestId := .text r.requestId, operationName := .ofText? r.operationName, extra := [] }

/-- The state inside the log scope of a request. -/
def entered (r : Runner ι) (t : Telemetry) : Telemetry :=
  t.withLogging (t.ambient.logging.merge r.scopeFields)

/-- Report an event that does not fit the stage of a request. -/
def reportOrder (r : Runner ι) (e : Event) (t : Telemetry) : Telemetry :=
  if e.fits r.stage then t
  else
    t.say r.logger .warning "Lifecycle event out of order"
      [("event", e.name), ("state", r.stage.name)] none

/-- Report the failure of an observer. The failure must have a text. -/
def reportFailure (logger : Nat) (kind : String) (e : Event) (f : Fault) (t : Telemetry) :
    Except Fault Telemetry := do
  let shown ← f.text
  .ok (t.say logger .error ("Extension hook '" ++ e.name ++ "' failed: " ++ shown)
    [("extension", kind), ("event", e.name)] (some f))

variable [Observing ι]

/-- Tell an event to some observers in turn. -/
def tell (logger : Nat) (e : Event) : List ι → Data → Telemetry → Told ι
  | [], data, t => { observers := [], data, telemetry := t, fault := none }
  | o :: rest, data, t =>
    let done := Observing.react o e data t
    let reported : Except Fault Telemetry := match done.fault with
      | none => .ok done.telemetry
      | some f => reportFailure logger (Observing.kind done.observer) e f done.telemetry
    match reported with
    | .error f =>
      { observers := done.observer :: rest, data := done.data, telemetry := done.telemetry
        fault := some f }
    | .ok t =>
      let told := tell logger e rest done.data t
      { told with observers := done.observer :: told.observers }

/-- Tell an event to the observers of a request: the request, the state, and a fault that escapes
when a failure could not be reported. -/
def dispatch (r : Runner ι) (e : Event) (t : Telemetry) : Runner ι × Telemetry × Option Fault :=
  let told := tell r.logger e r.observers r.data (r.reportOrder e (r.entered t))
  ({ r with observers := told.observers, data := told.data, stage := e.next r.stage },
    told.telemetry.withLogging t.ambient.logging, told.fault)

/-- Close some observers in turn, and report those that fail. -/
def closeAll (logger : Nat) : List ι → Telemetry → List ι × Telemetry
  | [], t => ([], t)
  | o :: rest, t =>
    let (o, t, fault) := Observing.close o t
    let t := match fault with
      | none => t
      | some f => t.say logger .error "Extension close failed" [("extension", Observing.kind o)] f
    let (others, t) := closeAll logger rest t
    (o :: others, t)

/-- Report a request that is left before its end. -/
def reportEarly (r : Runner ι) (t : Telemetry) : Telemetry :=
  if r.stage.isTerminal then t
  else t.say r.logger .debug "Request scope left before end" [("state", r.stage.name)] none

/-- Leave a request: close every observer. Nothing happens the second time. -/
def close (r : Runner ι) (t : Telemetry) : Runner ι × Telemetry :=
  if r.closed then (r, t)
  else
    let (observers, after) := closeAll r.logger r.observers (r.reportEarly (r.entered t))
    ({ r with observers, closed := true }, after.withLogging t.ambient.logging)

/-- The stage moves by the event alone, whatever the observers do. -/
theorem stage_dispatch (r : Runner ι) (e : Event) (t : Telemetry) :
    (r.dispatch e t).1.stage = e.next r.stage := rfl

theorem close_of_closed {r : Runner ι} (h : r.closed = true) (t : Telemetry) :
    r.close t = (r, t) := by
  rw [close, if_pos h]

/-- A request that was left stays so. -/
theorem closed_close (r : Runner ι) (t : Telemetry) : (r.close t).1.closed = true := by
  simp only [close]
  split
  · assumption
  · rfl

theorem length_tell (logger : Nat) (e : Event) (observers : List ι) (data : Data) (t : Telemetry) :
    (tell logger e observers data t).observers.length = observers.length := by
  induction observers generalizing data t with
  | nil => rfl
  | cons o rest ih =>
    simp only [tell]
    split
    · rfl
    · simp [ih]

theorem length_closeAll (logger : Nat) (observers : List ι) (t : Telemetry) :
    (closeAll logger observers t).1.length = observers.length := by
  induction observers generalizing t with
  | nil => rfl
  | cons o rest ih => simp [closeAll, ih]

end Runner

end QueryTelemetry.Request
