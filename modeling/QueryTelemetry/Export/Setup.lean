import QueryTelemetry.Export.Source
import QueryTelemetry.Log.Host

/-!
# The providers of a program

A provider hands out tracers of a source of spans that its settings describe; one that is switched
off has no source. A program has any number of providers. One source can be the global one, which
is chosen once and for all, and one provider is the configured one, which gives way to the next.

Failures of a source while it is flushed or shut down are noted and otherwise ignored.
-/

namespace QueryTelemetry.Export

open Log (HostRecord)

/-- What hands out tracers. The source is known by its place in the setup. -/
structure Provider where
  settings : Settings.Tracing
  /-- The exporter that the caller gave. -/
  given : Option Exporter
  source : Option Nat
  closed : Bool

/-- What starts spans: a scope of a source, nothing, or whatever will be the global source. -/
inductive Tracer where
  | ofSource (source : Nat) (scope version : String)
  | idle
  | deferred
deriving DecidableEq, Repr

/-- The tracing of a whole program: its sources and providers, each known by its place, the global
source and the configured provider. -/
structure Setup where
  packages : Packages
  host : Host
  sources : List Source
  providers : List Provider
  global : Option Nat
  configured : Option Nat

/-- What an operation leaves: its result, the setup, and the notes for the host. -/
structure Done (α : Type) where
  result : α
  setup : Setup
  notes : List HostRecord

namespace Setup

/-- A program without sources and providers. -/
def initial (packages : Packages) (host : Host) : Setup :=
  { packages, host, sources := [], providers := [], global := none, configured := none }

/-- Add a source: its place, and the setup with it. -/
def addSource (p : Setup) (s : Source) : Nat × Setup :=
  (p.sources.length, { p with sources := p.sources ++ [s] })

/-- Add a provider: its place, and the setup with it. -/
def addProvider (p : Setup) (v : Provider) : Nat × Setup :=
  (p.providers.length, { p with providers := p.providers ++ [v] })

/-- Change a source. -/
def updateSource (p : Setup) (i : Nat) (f : Source → Source) : Setup :=
  { p with sources := p.sources.modify i f }

/-- Change a provider. -/
def updateProvider (p : Setup) (i : Nat) (f : Provider → Provider) : Setup :=
  { p with providers := p.providers.modify i f }

/-- The source of a provider, with its place. -/
def sourceOf (p : Setup) (i : Nat) : Option (Nat × Source) := do
  let v ← p.providers[i]?
  let k ← v.source
  let s ← p.sources[k]?
  some (k, s)

/-- Make a provider. -/
def create (p : Setup) (s : Settings.Tracing) (given : Option Exporter) :
    Except Fault (Nat × Setup) :=
  if s.enabled then do
    let source ← Source.ofSettings p.packages p.host s given
    let (k, p) := p.addSource source
    .ok (p.addProvider { settings := s, given, source := some k, closed := false })
  else .ok (p.addProvider { settings := s, given, source := none, closed := false })

/-- Make a provider that keeps its spans in memory, whatever else settings say. -/
def createInMemory (p : Setup) (s : Option Settings.Tracing) : Except Fault (Nat × Setup) :=
  p.create { s.getD Settings.Tracing.testing with exporter := .memory, enabled := true } none

/-- Whether a provider is switched on. -/
def isEnabled (p : Setup) (i : Nat) : Bool :=
  match p.providers[i]? with
  | some v => v.settings.enabled && v.source.isSome
  | none => false

/-- A text, or another one when it is missing or empty. -/
def orElse (given : Option String) (other : String) : String :=
  match given with
  | some s => if s.isEmpty then other else s
  | none => other

/-- A tracer of a provider, by default for the scope that its settings name. -/
def tracer (p : Setup) (i : Nat) (scope version : Option String) : Tracer :=
  match p.providers[i]? with
  | none => .idle
  | some v =>
    match v.source with
    | none => .idle
    | some k => .ofSource k (orElse scope v.settings.tracerName) (version.getD "")

/-- A tracer of the global source, if it is chosen yet. -/
def globalTracer (p : Setup) (scope : String) : Tracer :=
  match p.global with
  | some k => .ofSource k scope ""
  | none => .deferred

/-- Start and end a span of a tracer. -/
def span (p : Setup) (t : Tracer) (name : String) : Setup :=
  match t with
  | .ofSource k scope version => p.updateSource k (·.take { name, scope, version })
  | _ => p

/-- The exporter of a provider: that of its source, or without a source the one that was given. -/
def exporterOf (p : Setup) (i : Nat) : Option Exporter :=
  match p.sourceOf i with
  | some (_, s) => s.exporter?
  | none => (p.providers[i]?).bind Provider.given

/-- The memory of a provider that keeps its spans there. -/
def memoryOf (p : Setup) (i : Nat) : Option Exporter :=
  (p.sourceOf i).bind fun e => e.2.exporter?.filter Exporter.keepsSpans

/-- The spans that a provider has collected in memory. -/
def collected (p : Setup) (i : Nat) : Except Fault (List Exported) :=
  match p.memoryOf i with
  | some e => .ok e.taken
  | none =>
    if ((p.providers[i]?).map fun v => v.settings.exporter == .memory).getD false then .ok []
    else
      .error (.bare (.provider (.text "tracer"))
        "get_collected_spans only available with MEMORY exporter" none)

/-- Forget the spans that a provider has collected in memory. -/
def clear (p : Setup) (i : Nat) : Setup :=
  match p.memoryOf i, p.sourceOf i with
  | some _, some (k, _) => p.updateSource k Source.clear
  | _, _ => p

/-- The note that a source failed with a message. -/
def failed (what message : String) : HostRecord :=
  .plain "gqlext.opentelemetry.providers.tracer" .warning (what ++ ": " ++ message)

/-- The note that a provider could not be flushed. -/
def flushNote (message : String) : HostRecord := failed "Failed to force flush spans" message

/-- How long a provider may be flushed when nothing is said, in milliseconds. -/
def usualTimeout : Int := 30000

/-- Flush a provider. -/
def flush (p : Setup) (i : Nat) (timeout : Int) : Done Bool :=
  match p.sourceOf i with
  | none => { result := true, setup := p, notes := [] }
  | some (k, s) =>
    match s.flush timeout with
    | .ok (done, s) => { result := done, setup := p.updateSource k fun _ => s, notes := [] }
    | .error message =>
      { result := false, setup := p, notes := [flushNote message] }

/-- Shut a provider down. Nothing happens the second time. -/
def shutdown (p : Setup) (i : Nat) : Done Bool :=
  if ((p.providers[i]?).map Provider.closed).getD true then
    { result := true, setup := p, notes := [] }
  else
    let p := p.updateProvider i fun v => { v with closed := true }
    match p.sourceOf i with
    | none => { result := true, setup := p, notes := [] }
    | some (k, s) =>
      match s.shutdown with
      | .ok s => { result := true, setup := p.updateSource k fun _ => s, notes := [] }
      | .error message =>
        { result := false, setup := p
          notes := [failed "Failed to shutdown TracerProvider" message] }

/-- Choose the global source. Only the first choice counts. -/
def chooseGlobal (p : Setup) (source : Nat) : Setup :=
  match p.global with
  | some _ => p
  | none => { p with global := some source }

/-- Make the source of a provider the global one. A provider that is switched off has none. -/
def setGlobal (p : Setup) (i : Nat) : Setup :=
  match (p.providers[i]?).bind Provider.source with
  | some k => p.chooseGlobal k
  | none => p

/-- A note about the configuration of the program. -/
def configurationNote (message : String) : HostRecord :=
  .plain "gqlext.opentelemetry" .info message

/-- Shut down the configured provider, which stays the configured one. -/
def retire (p : Setup) : Done Unit :=
  match p.configured with
  | none => { result := (), setup := p, notes := [] }
  | some i =>
    let done := p.shutdown i
    { result := (), setup := done.setup, notes := done.notes }

/-- Configure the program: retire the configured provider, and make the next one. Settings that
are switched off change nothing. -/
def configure (p : Setup) (s : Settings.Tracing) (asGlobal : Bool) :
    Done (Except Fault (Option Nat)) :=
  if s.enabled then
    let retired := p.retire
    match retired.setup.create s none with
    | .error f => { result := .error f, setup := retired.setup, notes := retired.notes }
    | .ok (i, p) =>
      let p := { p with configured := some i }
      { result := .ok (some i), setup := if asGlobal then p.setGlobal i else p
        notes := retired.notes ++ [configurationNote ("OpenTelemetry configured: service=" ++
          s.service.name ++ ", exporter=" ++ s.exporter.label)] }
  else
    { result := .ok none, setup := p
      notes := [configurationNote "OpenTelemetry is disabled by configuration"] }

/-- Flush and shut down the configured provider; there is none afterwards. -/
def shutdownConfigured (p : Setup) : Done Unit :=
  match p.configured with
  | none => { result := (), setup := p, notes := [] }
  | some i =>
    let flushed := p.flush i usualTimeout
    let done := flushed.setup.shutdown i
    { result := (), setup := { done.setup with configured := none }
      notes := flushed.notes ++ done.notes }

end Setup

end QueryTelemetry.Export
