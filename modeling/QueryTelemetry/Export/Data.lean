import QueryTelemetry.Export.Setup
import QueryTelemetry.Settings.Data

/-!
# Exporting as data

Resources, exporters and providers as named data.
-/

namespace QueryTelemetry.Export

/-- The name of the kind of an exporter. -/
def Exporter.kind (e : Exporter) : String :=
  match e.target with
  | .collector c =>
    match c.protocol with
    | .grpc => "grpc"
    | .http => "http"
  | .console => "ConsoleSpanExporter"
  | .memory => "InMemorySpanExporter"
  | .custom => "custom"

/-- The headers that are sent along: pairs for one protocol, a map for the other. -/
def Connection.headersValue (c : Connection) : Value :=
  if c.headers.isEmpty then .null
  else
    match c.protocol with
    | .grpc => .tuple (c.headers.map fun e => .tuple [.text e.1, .text e.2])
    | .http => Fields.toValue (c.headers.map fun e => (e.1, .text e.2))

/-- The name of the compression of a connection. -/
def Connection.compressionName (c : Connection) : Value :=
  match c.compression, c.protocol with
  | .gzip, _ => .text "Gzip"
  | .plain, .grpc => .null
  | .plain, .http => .text "NoCompression"

/-- A connection as named data. -/
def Connection.toFields (c : Connection) : Fields :=
  [("endpoint", .text c.endpoint), ("headers", c.headersValue), ("timeout", .int c.timeout),
    ("compression", c.compressionName)] ++
    match c.protocol with
    | .grpc => [("insecure", .bool c.insecure)]
    | .http => []

/-- What an exporter was made with. -/
def Exporter.argumentsValue (e : Exporter) : Value :=
  match e.target with
  | .collector c => Fields.toValue c.toFields
  | .custom => .dict []
  | _ => .null

/-- The limits of batching as named data. -/
def Limits.toFields (l : Limits) : Fields :=
  [("max_queue_size", .int l.queueSize), ("max_export_batch_size", .int l.batchSize),
    ("export_timeout_millis", .int l.exportTimeout),
    ("schedule_delay_millis", .int l.scheduleDelay)]

/-- The name of the kind of a processor. -/
def Processor.kind (p : Processor) : String :=
  if p.batches then "BatchSpanProcessor" else "SimpleSpanProcessor"

/-- The name of the kind of a tracer. -/
def Tracer.kind : Tracer → String
  | .ofSource .. => "Tracer"
  | .idle => "NoOpTracer"
  | .deferred => "ProxyTracer"

/-- The scope of a tracer, if it is known. -/
def Tracer.scope? : Tracer → Option String
  | .ofSource _ scope _ => some scope
  | _ => none

/-- The start of the names of attributes that describe the tracing library itself. -/
def ownAttributes : String := "telemetry.sdk."

/-- A resource as named data, without what describes the tracing library. -/
def Resource.toFields (r : Resource) : Fields :=
  r.attributes.filter fun e => !ownAttributes.isPrefixOf e.1

/-- A provider as named data. -/
def Setup.describe (p : Setup) (i : Nat) : Fields :=
  let source := (p.sourceOf i).map (·.2)
  let processor := source.bind Source.processor
  let exporter := p.exporterOf i
  [("enabled", .bool (p.isEnabled i)),
    ("config_enabled",
      Value.ofOption (fun v => .bool v.settings.enabled) (p.providers[i]? : Option Provider)),
    ("has_provider", .bool source.isSome),
    ("processor", .ofText? (processor.map Processor.kind)),
    ("batch", Value.ofOption (fun l => Fields.toValue l.toFields)
      (processor.bind Processor.limits)),
    ("exporter", .ofText? (exporter.map Exporter.kind)),
    ("exporter_args", Value.ofOption Exporter.argumentsValue exporter),
    ("resource", Value.ofOption (fun s => Fields.toValue s.resource.toFields) source)]

/-- The arguments that ask a provider for a tracer. -/
def providerTracer : Signature :=
  .of "OTelTracerProvider.get_tracer" [.may "name", .may "version"] []

/-- The arguments that ask a bare source of spans for a tracer. -/
def sourceTracer : Signature :=
  .of "TracerProvider.get_tracer" [.must "instrumenting_module_name",
    .may "instrumenting_library_version", .may "schema_url", .may "attributes"] []

/-- The arguments of a flush. -/
def flushing : Signature := .of "OTelTracerProvider.force_flush" [.may "timeout_millis"] []

/-- The tracer that a provider hands out for the arguments of a call. -/
def Setup.tracerFor (p : Setup) (i : Nat) (args : List Value) : Except Fault Tracer := do
  let b ← providerTracer.bind args []
  .ok (p.tracer i (b.get "name").asText? (b.get "version").asText?)

/-- The tracer that a bare source of spans hands out for the arguments of a call. -/
def Tracer.forSource (source : Nat) (args : List Value) : Except Fault Tracer := do
  let b ← sourceTracer.bind args []
  .ok (.ofSource source ((b.get "instrumenting_module_name").asText?.getD "")
    ((b.get "instrumenting_library_version").asText?.getD ""))

/-- The milliseconds that a value stands for, as far as a flush tells them apart, or the message
about a value that cannot be counted in time. -/
def millisecondsOf : Value → Except String Int
  | .int n => .ok n
  | .bool b => .ok (if b then 1 else 0)
  | .float x => .ok (if x ≤ 0.0 then 0 else 1)
  | v =>
    let (sign, first, second) :=
      match v with
      | .text _ | .bytes _ | .list _ | .tuple _ => ("+", "int", v.kind)
      | _ => ("*", v.kind, "int")
    .error ("unsupported operand type(s) for " ++ sign ++ ": '" ++ first ++ "' and '" ++ second ++ "'")

/-- Flush a provider for the arguments of a call. A time that cannot be counted makes the flush fail,
unless it is refused before, or there is nothing to flush. -/
def Setup.flushFor (p : Setup) (i : Nat) (args : List Value) : Except Fault (Done Bool) := do
  let b ← flushing.bind args []
  match millisecondsOf ((b.get? "timeout_millis").getD (.int Setup.usualTimeout)) with
  | .ok timeout => .ok (p.flush i timeout)
  | .error message =>
    if (p.sourceOf i).all (·.2.flushFails) then .ok (p.flush i Setup.usualTimeout)
    else .ok { result := false, setup := p, notes := [Setup.flushNote message] }

/-- An exported span as data. -/
def Exported.toValue (e : Exported) : Value := .ofTexts [e.name, e.scope, e.version]

end QueryTelemetry.Export
