import QueryTelemetry.Settings.Tracing

/-!
# Exporters

An exporter takes the spans that have ended: it sends them to a collector, prints them, keeps them
in memory, or does with them what the caller wants. Each way to reach a collector needs a package
of its own. Once it is stopped an exporter takes no more.
-/

namespace QueryTelemetry.Export

/-- An ended span as exporters see it: its name, and the scope that it comes from. -/
structure Exported where
  name : String
  scope : String
  version : String
deriving DecidableEq, Repr

/-- Which of the optional packages are installed. -/
structure Packages where
  grpc : Bool
  http : Bool
deriving DecidableEq, Repr

/-- How a collector is reached; the time limit is in seconds. -/
structure Connection where
  protocol : Settings.Protocol
  endpoint : String
  headers : List (String × String)
  timeout : Int
  insecure : Bool
  compression : Settings.Compression

/-- Where spans go. -/
inductive Target where
  | collector (c : Connection)
  | console
  | memory
  | custom

/-- Where spans go, the spans taken so far, and whether no more are taken. -/
structure Exporter where
  target : Target
  taken : List Exported
  stopped : Bool

namespace Exporter

/-- An exporter that has taken nothing. -/
def ofTarget (target : Target) : Exporter := { target, taken := [], stopped := false }

/-- Export some spans. -/
def accept (e : Exporter) (spans : List Exported) : Exporter :=
  if e.stopped then e else { e with taken := e.taken ++ spans }

/-- Stop an exporter. -/
def stop (e : Exporter) : Exporter := { e with stopped := true }

/-- Forget the spans taken so far. -/
def clear (e : Exporter) : Exporter := { e with taken := [] }

/-- Whether the spans are kept in memory. -/
def keepsSpans (e : Exporter) : Bool :=
  match e.target with
  | .memory => true
  | _ => false

/-- The error that the package for a protocol is missing. -/
def missing : Settings.Protocol → Fault
  | .grpc => .notInstalled "OTLP gRPC trace exporter"
  | .http => .notInstalled "OTLP HTTP trace exporter"

/-- Whether the package for a protocol is installed. -/
def isInstalled (p : Packages) : Settings.Protocol → Bool
  | .grpc => p.grpc
  | .http => p.http

/-- The exporter to a collector. -/
def ofCollector (p : Packages) (c : Settings.Collector) : Except Fault Exporter :=
  if isInstalled p c.protocol then do
    let timeout ← c.timeout.inSeconds
    .ok (ofTarget (.collector
      { protocol := c.protocol, endpoint := c.endpoint, headers := c.headers, timeout
        insecure := c.insecure, compression := c.compression }))
  else .error (missing c.protocol)

/-- The exporter that settings ask for, if they want one. -/
def ofSettings (p : Packages) (s : Settings.Tracing) : Except Fault (Option Exporter) :=
  match s.exporter with
  | .otlp => some <$> ofCollector p s.collector
  | .console => .ok (some (ofTarget .console))
  | .memory => .ok (some (ofTarget .memory))
  | .discard => .ok none

end Exporter

end QueryTelemetry.Export
