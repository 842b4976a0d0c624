import QueryTelemetry.Request.Runner
import QueryTelemetry.Value.Access
import QueryTelemetry.Value.Mapping

/-!
# Logging a request

A reporter logs how a request goes: the query that is parsed and what validation found, both for
debugging, every error with its path, and at the end the number of errors and the time since the
start.
-/

namespace QueryTelemetry.Request

/-- What logs one request. -/
structure Reporter where
  logger : Nat
  showsQuery : Bool
  showsVariables : Bool
  /-- The query that was parsed last. -/
  query : Option String
  startedAt : Option Settings.Seconds
  errors : Nat

namespace Reporter

/-- The name of the logger of reporters that are given none. -/
def loggerName : String := "gqlext.extensions.logger"

/-- A reporter that logs through the logger of a name, the usual one when the name is missing or
empty. -/
def create (name : Option String) (showsQuery showsVariables : Bool) (t : Telemetry) :
    Reporter × Telemetry :=
  let chosen := match name with
    | some n => if n.isEmpty then loggerName else n
    | none => loggerName
  let (logger, t) := t.getLogger chosen
  ({ logger, showsQuery, showsVariables, query := none, startedAt := none, errors := 0 }, t)

/-- The fields about a query that is parsed. Variables must read as a map. -/
def queryFields (r : Reporter) (query : Option String) (bindings : Value) : Except Fault Fields :=
  let source : Fields := if r.showsQuery then [("query", .ofText? query)] else []
  if r.showsVariables then do
    let entries ← bindings.toEntries
    .ok (source ++ [("variables", .dict entries)])
  else .ok source

/-- The message of an error; only the library's own errors and query errors have one. -/
def messageOf : Value → Except Fault Value
  | .queryError message .. => .ok (.text message)
  | .fault (.reported _ message _ _) => .ok message
  | v => .error (.absent v.kind "message")

/-- The response path of an error; only query errors have one. -/
def pathOf : Value → Except Fault (List Value)
  | .queryError _ path .. => .ok path
  | v => .error (.absent v.kind "path")

/-- The field of a path, when it is not empty. -/
def pathFields (path : List Value) : Except Fault Fields :=
  if path.isEmpty then .ok []
  else do
    let shown ← Value.joinTexts "." path
    .ok [("path", .text shown)]

/-- The field of the query that was parsed last, when it is to be shown. -/
def sourceFields (r : Reporter) : Fields :=
  match r.query with
  | some q => if r.showsQuery then [("query", .text q)] else []
  | none => []

/-- The fields about an error. -/
def errorFields (r : Reporter) (err : Value) : Except Fault Fields := do
  let message ← messageOf err
  let path ← pathOf err
  let shown ← pathFields path
  .ok ([("error_message", message)] ++ shown ++ r.sourceFields)

/-- The fields about the end of a request, at a reading of the clock if it was started. -/
def endFields (r : Reporter) (lasted : Option Settings.Seconds) : Fields :=
  [("errors", .ofNat r.errors)] ++
    match lasted with
    | some time => [("duration_ms", time.milliseconds)]
    | none => []

/-- The time since the start of the request, if it was started. -/
def lasted (r : Reporter) (t : Telemetry) : Option Settings.Seconds × Telemetry :=
  match r.startedAt with
  | some start =>
    let (reading, t) := t.readClock
    (some (reading.since start), t)
  | none => (none, t)

/-- Log some fields, or fail with the fault in their place. -/
def logFields (r : Reporter) (level : Log.Level) (message : String) (fields : Except Fault Fields)
    (t : Telemetry) : Telemetry × Option Fault :=
  match fields with
  | .error f => (t, some f)
  | .ok fields =>
    match t.log r.logger level message fields with
    | .ok t => (t, none)
    | .error f => (t, some f)

/-- What a reporter does at an event. -/
def handle (r : Reporter) (e : Event) (t : Telemetry) : Reporter × Telemetry × Option Fault :=
  match e with
  | .start =>
    let (reading, t) := t.readClock
    ({ r with startedAt := some reading }, t, none)
  | .parseStart query bindings =>
    ({ r with query }, r.logFields .debug "Parsing query" (r.queryFields query bindings) t)
  | .validationEnd complexity depth =>
    (r, r.logFields .debug "Query validated"
      (.ok [("complexity", .int complexity), ("depth", .int depth)]) t)
  | .error err =>
    ({ r with errors := r.errors + 1 }, r.logFields .info "Query error" (r.errorFields err) t)
  | .finish =>
    let (time, t) := r.lasted t
    (r, r.logFields .info "Request finished" (.ok (r.endFields time)) t)
  | _ => (r, t, none)

instance : Observing Reporter where
  kind _ := "LoggingExtension"
  react r e data t :=
    let (r, t, fault) := r.handle e t
    { observer := r, data, telemetry := t, fault }
  close r t := (r, t, none)

end Reporter

end QueryTelemetry.Request
