import QueryTelemetry.Settings.Tracing
import QueryTelemetry.Value.Access
import QueryTelemetry.Value.Same

/-!
# Settings as data

Settings can be shown as named data, read from it, and changed step by step by named changes. A
part that the data leaves out has its default. The parts of settings can also be values of their
own, which the changes take as arguments.
-/

namespace QueryTelemetry.Settings

/-- A length of time that is given as a number of seconds. -/
def Seconds.ofValue (default : Seconds) : Value → Seconds
  | .int n => .whole n
  | .float x => .fraction x
  | _ => default

/-- Texts by name. -/
def textPairs (v : Value) : List (String × String) :=
  v.asFields.filterMap fun e => e.2.asText?.map (e.1, ·)

/-- The choice that a value is. A value of another kind does not say what it stands for. -/
def choiceOf {α : Type} (c : Choices α) (v : Value) : Except Fault α :=
  match v with
  | .choice .. => c.ofValue v
  | v => .error (.absent v.kind "value")

/-- Settings of a kind. A value of another kind lacks the first of their parts. -/
def settingsLike (kind first : String) (v : Value) : Except Fault Value :=
  if v.kind == kind then .ok v else .error (.absent v.kind first)

namespace Service

/-- The kind of values that describe a service. -/
def kind : String := "ResourceConfig"

/-- The parts of a service by name. -/
def toParts (s : Service) : Fields :=
  [("service_name", .text s.name), ("service_version", .text s.version),
    ("service_namespace", .ofText? s.namespaceName),
    ("deployment_environment", .text s.environment),
    ("service_instance_id", .ofText? s.instanceId), ("additional_attributes", .dict s.additional)]

/-- The description of a service. -/
def ofValue (v : Value) : Service :=
  let base := standard
  { name := v.textAt "service_name" base.name
    version := v.textAt "service_version" base.version
    namespaceName := v.textAt? "service_namespace"
    environment := v.textAt "deployment_environment" base.environment
    instanceId := v.textAt? "service_instance_id"
    additional := v.entriesAt "additional_attributes" }

/-- A service as a value of its own, from some of its parts. -/
def valueOf (given : Fields) : Except Fault Value := Value.settingsOf kind standard.toParts given

/-- A service as named data, with the attributes that describe it. -/
def toFields (s : Service) : Fields := s.toParts ++ [("to_attributes", .dict s.toAttributes)]

end Service

namespace Collector

/-- The kind of values that describe a collector. -/
def kind : String := "OTLPExporterConfig"

/-- The parts of a collector by name, with the choices as they are. -/
def toParts (c : Collector) : Fields :=
  [("endpoint", .text c.endpoint), ("protocol", Protocol.choices.toValue c.protocol),
    ("compression", Compression.choices.toValue c.compression),
    ("headers", Fields.toValue (c.headers.map fun e => (e.1, .text e.2))),
    ("timeout_seconds", c.timeout.toValue), ("insecure", .bool c.insecure)]

/-- A collector. What its choices stand for must be known. -/
def ofValue (v : Value) : Except Fault Collector := do
  let base := standard
  let protocol ← ((v.member? "protocol").map (choiceOf Protocol.choices)).getD (.ok base.protocol)
  let compression ←
    ((v.member? "compression").map (choiceOf Compression.choices)).getD (.ok base.compression)
  .ok {
    endpoint := v.textAt "endpoint" base.endpoint
    protocol, compression
    headers := textPairs (v.entry "headers")
    timeout := .ofValue base.timeout (v.entry "timeout_seconds")
    insecure := v.boolAt "insecure" base.insecure }

/-- A collector as a value of its own, from some of its parts. -/
def valueOf (given : Fields) : Except Fault Value := Value.settingsOf kind standard.toParts given

/-- A collector as named data, with what its choices stand for. -/
def toFields (c : Collector) : Fields :=
  c.toParts.map fun e =>
    match e with
    | (name, .choice _ _ content) => (name, content)
    | e => e

end Collector

namespace Batch

/-- The kind of values that describe the gathering of spans. -/
def kind : String := "BatchConfig"

/-- The gathering of spans as named data. -/
def toFields (b : Batch) : Fields :=
  [("max_queue_size", .int b.queueSize), ("max_export_batch_size", .int b.batchSize),
    ("export_timeout_seconds", b.exportTimeout.toValue),
    ("schedule_delay_seconds", b.scheduleDelay.toValue)]

/-- The gathering of spans. -/
def ofValue (v : Value) : Batch :=
  let base := standard
  { queueSize := v.intAt "max_queue_size" base.queueSize
    batchSize := v.intAt "max_export_batch_size" base.batchSize
    exportTimeout := .ofValue base.exportTimeout (v.entry "export_timeout_seconds")
    scheduleDelay := .ofValue base.scheduleDelay (v.entry "schedule_delay_seconds") }

/-- The gathering of spans as a value of its own, from some of its parts. -/
def valueOf (given : Fields) : Except Fault Value := Value.settingsOf kind standard.toFields given

end Batch

namespace Tracing

/-- The settings as named data. -/
def toFields (t : Tracing) : Fields :=
  [("enabled", .bool t.enabled), ("tracer_name", .text t.tracerName),
    ("include_source", .bool t.includeSource), ("include_variables", .bool t.includeVariables),
    ("strict_slots", .bool t.strictSlots), ("traces_exporter", .text t.exporter.label),
    ("propagators", .ofTexts t.propagators), ("resource", Fields.toValue t.service.toFields),
    ("otlp", Fields.toValue t.collector.toFields), ("batch", Fields.toValue t.batch.toFields)]

/-- Whether two settings are the same: they show the same data. -/
def same (a b : Tracing) : Bool := (Fields.toValue a.toFields).sameData (Fields.toValue b.toFields)

/-- The kind of the part of the settings that a change of a name is about, and the name of the
change there. -/
def receiverOf (name : String) : String × String :=
  let parts := [("resource.", Service.kind), ("otlp.", Collector.kind), ("batch.", Batch.kind)]
  match parts.find? fun p => p.1.isPrefixOf name with
  | some (lead, kind) => (kind, String.ofList (name.toList.drop lead.length))
  | none => ("OTelConfig", name)

open Parameter (must may) in
/-- The parameters of the change of a name, if there is such a change. -/
def parameters? : String → Option (List Parameter)
  | "with_enabled" => some [must "enabled"]
  | "with_tracer_name" | "with_service_name" | "resource.with_service_name" => some [must "name"]
  | "with_source" | "with_variables" => some [must "include"]
  | "with_strict_slots" => some [may "strict"]
  | "with_exporter" => some [must "exporter"]
  | "with_resource" => some [must "resource"]
  | "with_otlp" => some [must "otlp"]
  | "with_batch" => some [must "batch"]
  | "resource.with_service_version" => some [must "version"]
  | "resource.with_environment" => some [must "environment"]
  | "resource.with_instance_id" => some [must "instance_id"]
  | "with_endpoint" | "otlp.with_endpoint" => some [must "endpoint"]
  | "otlp.with_protocol" => some [must "protocol"]
  | "otlp.with_compression" => some [must "compression"]
  | "otlp.with_timeout" | "batch.with_export_timeout" => some [must "timeout_seconds"]
  | "otlp.with_insecure" => some [may "insecure"]
  | "batch.with_queue_size" | "batch.with_batch_size" => some [must "size"]
  | "batch.with_schedule_delay" => some [must "delay_seconds"]
  | "with_propagators" | "resource.with_attributes" | "otlp.with_headers" => some []
  | _ => none

/-- The signature of the change of a name. Propagators are given by position, attributes and headers
by name, any number of them. -/
def signature (name : String) : Except Fault Signature :=
  let (kind, change) := receiverOf name
  match parameters? name with
  | some places =>
    .ok { callee := kind ++ "." ++ change, places, names := []
          morePlaces := change == "with_propagators"
          moreNames := change == "with_attributes" || change == "with_headers" }
  | none => .error (.absent kind change)

/-- The settings after the change of a name, with its arguments by position and by name. -/
def change (t : Tracing) (name : String) (args : List Value) (named : Fields) :
    Except Fault Tracing := do
  let given ← (← signature name).bind args named
  let text (key : String) : String := (given.get key).asText?.getD ""
  let truth (key : String) (default : Bool) : Bool := (given.get key).asBool?.getD default
  let number (key : String) : Int := (given.get key).asInt?.getD 0
  let seconds (key : String) : Seconds := .ofValue (.whole 0) (given.get key)
  match name with
  | "with_enabled" => .ok { t with enabled := truth "enabled" false }
  | "with_tracer_name" => .ok { t with tracerName := text "name" }
  | "with_source" => .ok { t with includeSource := truth "include" false }
  | "with_variables" => .ok { t with includeVariables := truth "include" false }
  | "with_strict_slots" => .ok { t with strictSlots := truth "strict" true }
  | "with_exporter" => do
    let exporter ← choiceOf Exporter.choices (given.get "exporter")
    .ok { t with exporter }
  | "with_propagators" => .ok (t.withPropagators (given.items.filterMap Value.asText?))
  | "with_resource" => do
    let service ← settingsLike Service.kind "service_name" (given.get "resource")
    .ok { t with service := .ofValue service }
  | "with_otlp" => do
    let collector ← Collector.ofValue (← settingsLike Collector.kind "endpoint" (given.get "otlp"))
    .ok { t with collector }
  | "with_batch" => do
    let batch ← settingsLike Batch.kind "max_queue_size" (given.get "batch")
    .ok { t with batch := .ofValue batch }
  | "with_service_name" | "resource.with_service_name" =>
    .ok (t.withServiceName (text "name"))
  | "resource.with_service_version" =>
    .ok (t.mapService fun s => { s with version := text "version" })
  | "resource.with_environment" =>
    .ok (t.mapService fun s => { s with environment := text "environment" })
  | "resource.with_instance_id" =>
    .ok (t.mapService fun s => { s with instanceId := (given.get "instance_id").asText? })
  | "resource.with_attributes" => .ok (t.mapService (·.withAttributes given.named))
  | "with_endpoint" | "otlp.with_endpoint" =>
    .ok (t.withEndpoint (text "endpoint"))
  | "otlp.with_protocol" => do
    let protocol ← choiceOf Protocol.choices (given.get "protocol")
    .ok (t.mapCollector fun c => { c with protocol })
  | "otlp.with_compression" => do
    let compression ← choiceOf Compression.choices (given.get "compression")
    .ok (t.mapCollector fun c => { c with compression })
  | "otlp.with_headers" =>
    .ok (t.mapCollector (·.withHeaders (textPairs (Fields.toValue given.named))))
  | "otlp.with_timeout" =>
    .ok (t.withTimeout (seconds "timeout_seconds"))
  | "otlp.with_insecure" =>
    .ok (t.mapCollector fun c => { c with insecure := truth "insecure" true })
  | "batch.with_queue_size" => .ok (t.withQueueSize (number "size"))
  | "batch.with_batch_size" => .ok (t.withBatchSize (number "size"))
  | "batch.with_export_timeout" =>
    .ok (t.mapBatch fun b => { b with exportTimeout := seconds "timeout_seconds" })
  | _ => .ok (t.mapBatch fun b => { b with scheduleDelay := seconds "delay_seconds" })

/-- The settings after several changes, each given by its name and its arguments. -/
def changeAll (t : Tracing) (calls : List Value) : Except Fault Tracing :=
  calls.foldlM
    (fun t call => t.change (call.textAt "call" "") (call.itemsAt "args") (call.fieldsAt "kwargs")) t

/-- The settings that data describes: a preset and changes to it; nothing for null. -/
def ofValue? (v : Value) : Except Fault (Option Tracing) :=
  match v with
  | .null => .ok none
  | v => some <$> ((preset? (v.textAt "preset" "default")).getD standard).changeAll (v.itemsAt "calls")

end Tracing

end QueryTelemetry.Settings
