import QueryTelemetry.Export.Exporter
import QueryTelemetry.Export.Resource

/-!
# Sources of spans

A source hands every span that ends to its processor. A simple processor exports it at once; one
that batches lets it wait until it is flushed or shut down. Spans that end after a shutdown are
lost. The host can make flushing or shutting down a source fail.
-/

namespace QueryTelemetry.Export

/-- The limits of batching; times are in milliseconds. -/
structure Limits where
  queueSize : Int
  batchSize : Int
  exportTimeout : Int
  scheduleDelay : Int
deriving DecidableEq, Repr

namespace Limits

/-- The limits, if spans can be batched within them. -/
def check (l : Limits) : Except Fault Limits :=
  if l.queueSize ≤ 0 then .error (.ofValue "max_queue_size must be a positive integer.")
  else if l.scheduleDelay ≤ 0 then .error (.ofValue "schedule_delay_millis must be positive.")
  else if l.batchSize ≤ 0 then
    .error (.ofValue "max_export_batch_size must be a positive integer.")
  else if l.queueSize < l.batchSize then
    .error (.ofValue "max_export_batch_size must be less than or equal to max_queue_size.")
  else .ok l

/-- Limits pass the check as they are, and exactly when all of them are positive and a batch fits
the queue. -/
theorem check_eq_ok_iff {l l' : Limits} :
    l.check = .ok l' ↔
      l' = l ∧ 0 < l.queueSize ∧ 0 < l.scheduleDelay ∧ 0 < l.batchSize ∧
        l.batchSize ≤ l.queueSize := by
  simp only [check]
  repeat' split
  all_goals simp only [Except.ok.injEq, reduceCtorEq, false_iff]
  · omega
  · omega
  · omega
  · omega
  · exact ⟨fun h => ⟨h.symm, by omega⟩, fun h => h.1.symm⟩

/-- The limits that settings give. -/
def ofBatch (b : Settings.Batch) : Except Fault Limits := do
  let exportTimeout ← b.exportTimeout.inMilliseconds
  let scheduleDelay ← b.scheduleDelay.inMilliseconds
  check { queueSize := b.queueSize, batchSize := b.batchSize, exportTimeout, scheduleDelay }

end Limits

/-- What takes the spans of a source to its exporter, in batches if it has limits for them. -/
structure Processor where
  limits : Option Limits
  exporter : Exporter
  waiting : List Exported
  stopped : Bool

namespace Processor

/-- A processor that has seen no spans. -/
def create (limits : Option Limits) (exporter : Exporter) : Processor :=
  { limits, exporter, waiting := [], stopped := false }

/-- Whether spans wait to be exported. -/
def batches (p : Processor) : Bool := p.limits.isSome

/-- Export the spans that wait. -/
def exportWaiting (p : Processor) : Processor :=
  { p with exporter := p.exporter.accept p.waiting, waiting := [] }

/-- Take a span that has ended. -/
def take (p : Processor) (s : Exported) : Processor :=
  if p.stopped then p
  else if p.batches then { p with waiting := p.waiting ++ [s] }
  else { p with exporter := p.exporter.accept [s] }

/-- Export the spans that wait; a processor that has batched its last spans refuses. -/
def flush (p : Processor) : Bool × Processor :=
  if p.batches then if p.stopped then (false, p) else (true, p.exportWaiting) else (true, p)

/-- Export the spans that wait, and stop. -/
def shutdown (p : Processor) : Processor :=
  if p.stopped then p
  else
    let done := p.exportWaiting
    { done with exporter := done.exporter.stop, stopped := true }

theorem stopped_shutdown (p : Processor) : p.shutdown.stopped = true := by
  simp only [shutdown]
  split
  · assumption
  · rfl

/-- A processor that has stopped takes no more spans. -/
theorem take_of_stopped {p : Processor} (h : p.stopped = true) (s : Exported) : p.take s = p := by
  rw [take, if_pos h]

end Processor

/-- What spans come from. Without a processor they are lost. -/
structure Source where
  resource : Resource
  processor : Option Processor
  flushFails : Bool
  shutdownFails : Bool

namespace Source

/-- A source without a processor. -/
def bare (resource : Resource) : Source :=
  { resource, processor := none, flushFails := false, shutdownFails := false }

/-- The exporter of a source. -/
def exporter? (s : Source) : Option Exporter := s.processor.map Processor.exporter

/-- Change the processor of a source. -/
def mapProcessor (s : Source) (f : Processor → Processor) : Source :=
  { s with processor := s.processor.map f }

/-- A span of a source ends. -/
def take (s : Source) (e : Exported) : Source := s.mapProcessor (·.take e)

/-- Forget the exported spans. -/
def clear (s : Source) : Source :=
  s.mapProcessor fun p => { p with exporter := p.exporter.clear }

/-- Flush a source within a time: whether it was flushed, and the source afterwards, or the message
of the host that refuses. -/
def flush (s : Source) (timeout : Int) : Except String (Bool × Source) :=
  if s.flushFails then .error "force_flush failed"
  else
    match s.processor with
    | none => .ok (true, s)
    | some p =>
      if timeout ≤ 0 then .ok (false, s)
      else
        let (done, p) := p.flush
        .ok (done, { s with processor := some p })

/-- Shut a source down, unless the host refuses with a message. -/
def shutdown (s : Source) : Except String Source :=
  if s.shutdownFails then .error "shutdown failed"
  else .ok (s.mapProcessor Processor.shutdown)

/-- The processor that settings ask for: spans are batched only on their way to a collector. -/
def processorOf (s : Settings.Tracing) (e : Exporter) : Except Fault Processor :=
  match s.exporter with
  | .otlp => do
    let limits ← Limits.ofBatch s.batch
    .ok (.create (some limits) e)
  | _ => .ok (.create none e)

/-- The exporter that is given, or else the one that settings ask for. -/
def chooseExporter (p : Packages) (s : Settings.Tracing) (given : Option Exporter) :
    Except Fault (Option Exporter) :=
  match given with
  | some e => .ok (some e)
  | none => Exporter.ofSettings p s

/-- The source of spans that settings describe, with an exporter of the caller's if one is
given. -/
def build (p : Packages) (host : Host) (s : Settings.Tracing) (given : Option Exporter) :
    Except Fault Source := do
  let resource ← Resource.ofService s.service (some host)
  let start := bare resource
  match ← chooseExporter p s given with
  | none => .ok start
  | some e => do
    let processor ← processorOf s e
    .ok { start with processor := some processor }

/-- The error of a source that could not be built. A missing package is reported as such, and a
fault without a text brings its own. -/
def failure (f : Fault) : Fault :=
  match f with
  | .reported (.notInstalled _) .. => f
  | f =>
    match f.text with
    | .ok text => .provider ("Failed to initialize TracerProvider: " ++ text) "tracer" f
    | .error refusal => refusal

/-- The source of spans that settings describe. -/
def ofSettings (p : Packages) (host : Host) (s : Settings.Tracing) (given : Option Exporter) :
    Except Fault Source :=
  (build p host s given).mapError failure

end Source

end QueryTelemetry.Export
