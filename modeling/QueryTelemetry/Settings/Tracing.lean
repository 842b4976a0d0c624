import QueryTelemetry.Settings.Seconds
import QueryTelemetry.Value.Choice

/-!
# Settings of the tracing layer

What describes the service, how spans are exported and batched, and what the tracing extension
records. Settings are data: every `with` function gives new ones. The presets at the end suit
development, production, testing and the absence of telemetry.
-/

namespace QueryTelemetry.Settings

/-- Where finished spans go. -/
inductive Exporter where
  | otlp
  | console
  | memory
  | discard
deriving DecidableEq, Repr

/-- How spans travel to a collector. -/
inductive Protocol where
  | grpc
  | http
deriving DecidableEq, Repr

/-- How exported spans are packed. -/
inductive Compression where
  | plain
  | gzip
deriving DecidableEq, Repr

namespace Exporter

/-- All exporters. -/
def all : List Exporter := [otlp, console, memory, discard]

/-- The name of an exporter in settings. -/
def label : Exporter → String
  | otlp => "otlp"
  | console => "console"
  | memory => "memory"
  | discard => "none"

/-- The name of an exporter in descriptions. -/
def constant : Exporter → String
  | otlp => "OTLP"
  | console => "CONSOLE"
  | memory => "MEMORY"
  | discard => "NONE"

/-- The exporters as a kind of choices. -/
def choices : Choices Exporter :=
  { kind := "ExporterType", all, name := constant, content := fun e => .text e.label }

end Exporter

namespace Protocol

/-- All protocols. -/
def all : List Protocol := [grpc, http]

/-- The name of a protocol in settings. -/
def label : Protocol → String
  | grpc => "grpc"
  | http => "http/protobuf"

/-- The name of a protocol in descriptions. -/
def constant : Protocol → String
  | grpc => "GRPC"
  | http => "HTTP_PROTOBUF"

/-- The protocols as a kind of choices. -/
def choices : Choices Protocol :=
  { kind := "OTLPProtocol", all, name := constant, content := fun p => .text p.label }

end Protocol

namespace Compression

/-- All compressions. -/
def all : List Compression := [plain, gzip]

/-- The name of a compression in settings. -/
def label : Compression → String
  | plain => "none"
  | gzip => "gzip"

/-- The name of a compression in descriptions. -/
def constant : Compression → String
  | plain => "NONE"
  | gzip => "GZIP"

/-- The compressions as a kind of choices. -/
def choices : Choices Compression :=
  { kind := "OTLPCompression", all, name := constant, content := fun c => .text c.label }

end Compression

/-- What describes the service that produces the telemetry. -/
structure Service where
  name : String
  version : String
  namespaceName : Option String
  environment : String
  instanceId : Option String
  /-- More attributes; their keys need not be texts. -/
  additional : Entries

namespace Service

/-- The description of a service that gives none. -/
def standard : Service :=
  { name := "graphql-service", version := "0.1.0", namespaceName := none,
    environment := "development", instanceId := none, additional := [] }

/-- The service with another name. -/
def withName (s : Service) (name : String) : Service := { s with name }

/-- The service with more attributes. -/
def withAttributes (s : Service) (more : Fields) : Service :=
  { s with additional := Assoc.overlay s.additional more.toEntries }

/-- A named text, when it is there and not empty. -/
def optional (name : String) : Option String → Fields
  | some s => if s.isEmpty then [] else [(name, .text s)]
  | none => []

/-- The attributes that describe a service; the additional ones win. -/
def toAttributes (s : Service) : Entries :=
  let own : Fields :=
    [("service.name", .text s.name), ("service.version", .text s.version),
        ("deployment.environment", .text s.environment)] ++
      optional "service.namespace" s.namespaceName ++
      optional "service.instance.id" s.instanceId
  Assoc.overlay own.toEntries s.additional

end Service

/-- How spans are sent to a collector. -/
structure Collector where
  endpoint : String
  protocol : Protocol
  compression : Compression
  headers : List (String × String)
  timeout : Seconds
  insecure : Bool

namespace Collector

/-- The collector of settings that name none. -/
def standard : Collector :=
  { endpoint := "http://localhost:4317", protocol := .grpc, compression := .gzip, headers := [],
    timeout := .fraction 10.0, insecure := false }

/-- The collector at another endpoint. -/
def withEndpoint (c : Collector) (endpoint : String) : Collector := { c with endpoint }

/-- The collector with another time limit. -/
def withTimeout (c : Collector) (timeout : Seconds) : Collector := { c with timeout }

/-- The collector with more request headers. -/
def withHeaders (c : Collector) (more : List (String × String)) : Collector :=
  { c with headers := Assoc.overlay c.headers more }

end Collector

/-- How spans are gathered before they are sent. -/
structure Batch where
  queueSize : Int
  batchSize : Int
  exportTimeout : Seconds
  scheduleDelay : Seconds

namespace Batch

/-- The batching of settings that give none. -/
def standard : Batch :=
  { queueSize := 2048, batchSize := 512, exportTimeout := .fraction 30.0,
    scheduleDelay := .fraction 5.0 }

/-- The batching with a queue of another size. -/
def withQueueSize (b : Batch) (queueSize : Int) : Batch := { b with queueSize }

/-- The batching with batches of another size. -/
def withBatchSize (b : Batch) (batchSize : Int) : Batch := { b with batchSize }

end Batch

/-- The settings of the tracing layer. -/
structure Tracing where
  enabled : Bool
  tracerName : String
  includeSource : Bool
  includeVariables : Bool
  strictSlots : Bool
  exporter : Exporter
  service : Service
  collector : Collector
  batch : Batch
  propagators : List String

namespace Tracing

/-- Everything recorded and sent to a collector. -/
def standard : Tracing :=
  { enabled := true, tracerName := "gqlext", includeSource := true, includeVariables := true,
    strictSlots := false, exporter := .otlp, service := .standard, collector := .standard,
    batch := .standard, propagators := ["tracecontext", "baggage"] }

/-- Spans on the console. -/
def development : Tracing :=
  { standard with
    exporter := .console
    service := { Service.standard with environment := "development" } }

/-- Spans batched for a collector, without the variables of queries. -/
def production : Tracing :=
  { standard with
    includeVariables := false
    service := { Service.standard with environment := "production" }
    collector := { Collector.standard with compression := .gzip, timeout := .fraction 30.0 }
    batch := { Batch.standard with queueSize := 4096, batchSize := 1024 } }

/-- Spans in memory and strict slots. -/
def testing : Tracing :=
  { standard with
    strictSlots := true
    exporter := .memory
    service := { Service.standard with environment := "testing" } }

/-- No telemetry. -/
def disabled : Tracing := { standard with enabled := false, exporter := .discard }

/-- The settings with another description of the service. -/
def mapService (t : Tracing) (f : Service → Service) : Tracing :=
  { t with service := f t.service }

/-- The settings with another collector. -/
def mapCollector (t : Tracing) (f : Collector → Collector) : Tracing :=
  { t with collector := f t.collector }

/-- The settings with another gathering of spans. -/
def mapBatch (t : Tracing) (f : Batch → Batch) : Tracing := { t with batch := f t.batch }

/-- The settings with another endpoint. -/
def withEndpoint (t : Tracing) (endpoint : String) : Tracing :=
  t.mapCollector (·.withEndpoint endpoint)

/-- The settings with another time limit. -/
def withTimeout (t : Tracing) (timeout : Seconds) : Tracing :=
  t.mapCollector (·.withTimeout timeout)

/-- The settings with another name of the service. -/
def withServiceName (t : Tracing) (name : String) : Tracing := t.mapService (·.withName name)

/-- The settings with a queue of another size. -/
def withQueueSize (t : Tracing) (size : Int) : Tracing := t.mapBatch (·.withQueueSize size)

/-- The settings with batches of another size. -/
def withBatchSize (t : Tracing) (size : Int) : Tracing := t.mapBatch (·.withBatchSize size)

/-- The settings with other propagators. -/
def withPropagators (t : Tracing) (propagators : List String) : Tracing := { t with propagators }

/-- The preset of a name. -/
def preset? : String → Option Tracing
  | "default" => some standard
  | "development" => some development
  | "production" => some production
  | "testing" => some testing
  | "disabled" => some disabled
  | _ => none

end Tracing

end QueryTelemetry.Settings
