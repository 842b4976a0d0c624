import QueryTelemetry.Trace.Context

/-!
# The journal of spans

The journal is the backend's memory: every span that a tracer started, in the order of starting,
and the order in which the recorded ones ended. A span continues the trace of a valid parent and is
recorded when its parent is; without a valid parent it opens a new trace, which is recorded. The
n-th started span has the span id n, and the n-th new trace the trace id n; ids that are used up
start again.

A span that has ended, or that is not recorded, keeps no further data. The journal remembers that
something was asked of it all the same. Every operation of the backend may also be refused: the
tracer says which operations it refuses on spans of which name.
-/

namespace QueryTelemetry.Trace

/-- An operation of the backend. -/
inductive Operation where
  | start
  | finish
  | setAttributes
  | addEvent
  | setStatus
deriving DecidableEq, Repr

/-- The name of an operation. -/
def Operation.name : Operation → String
  | .start => "start_span"
  | .finish => "end"
  | .setAttributes => "set_attributes"
  | .addEvent => "add_event"
  | .setStatus => "set_status"

/-- An operation that the backend refused on a span. -/
structure Refusal where
  operation : Operation
  span : String
deriving DecidableEq, Repr

/-- The message of a refusal. -/
def Refusal.message (r : Refusal) : String := r.operation.name ++ " " ++ r.span ++ " refused"

/-- A refusal as a fault. -/
def Refusal.fault (r : Refusal) : Fault := .plain .runtime r.message

/-- What starts spans: the provider that gathers them, the scope that they name as their origin,
and the operations that it refuses on spans of a name. -/
structure Tracer where
  provider : String
  scope : String
  refuses : Operation → String → Bool

/-- The side of a request that a span is on. -/
inductive Kind where
  | internal
  | server
deriving DecidableEq, Repr

/-- How the work of a span went, as far as it was said. -/
inductive Status where
  | unset
  | error (description : String)
deriving DecidableEq, Repr

/-- A span: what was said at its start, and what was recorded on it since. -/
structure Span where
  tracer : Tracer
  name : String
  kind : Kind
  identity : Identity
  parent : Option Identity
  attributes : Fields
  events : List (String × Fields)
  status : Status
  ended : Bool

namespace Span

/-- Whether a span takes up data: it is recorded and has not ended. -/
def isRecording (s : Span) : Bool := s.identity.isSampled && !s.ended

/-- Whether an operation is refused on a span. -/
def refuses (s : Span) (op : Operation) : Bool := s.tracer.refuses op s.name

/-- The span with more attributes. -/
def withAttributes (s : Span) (more : Fields) : Span :=
  { s with attributes := Assoc.overlay s.attributes more }

/-- The span with one more event. -/
def withEvent (s : Span) (name : String) (attributes : Fields) : Span :=
  { s with events := s.events ++ [(name, attributes)] }

/-- The span with an error status. -/
def withError (s : Span) (description : String) : Span :=
  { s with status := .error description }

/-- The span after its end. -/
def finished (s : Span) : Span := { s with ended := true }

end Span

/-- The end of a recorded span: its entry, and the id of the span that was current meanwhile. -/
structure Finish where
  entry : Nat
  current : Nat
deriving DecidableEq, Repr

/-- Something that was asked of a span after its start. -/
structure Act where
  operation : Operation
  span : SpanRef
deriving DecidableEq, Repr

/-- The spans started so far, the ends of the recorded ones in order, and the number of traces. -/
structure Journal where
  spans : List Span
  finishes : List Finish
  traces : Nat
  /-- What was asked of spans after their starts and not refused, the oldest first. It is noted also
  when it had no effect, and of spans that were started elsewhere. -/
  acts : List Act

namespace Journal

/-- A journal without spans. -/
def empty : Journal := { spans := [], finishes := [], traces := 0, acts := [] }

/-- The id that follows when `used` ids have been given out: they count up from one and start again
before they reach the bound. -/
def nextId (bound used : Nat) : Nat := used % (bound - 1) + 1

/-- The identity of the next span under a parent. -/
def nextIdentity (j : Journal) (parent : Identity) : Identity :=
  let spanId := nextId (Nat.pow 2 64) j.spans.length
  if parent.isValid then
    { traceId := parent.traceId, spanId, remote := false, state := parent.state
      flags := parent.flags % 2 + 2 * (parent.flags / 2 % 2) }
  else
    { traceId := nextId (Nat.pow 2 128) j.traces, spanId, flags := 1, remote := false, state := [] }

/-- The next span, under the current span of a context. -/
def newSpan (j : Journal) (t : Tracer) (name : String) (parent : Context) (kind : Kind)
    (attributes : Fields) : Span :=
  let identity := j.nextIdentity parent.identity
  { tracer := t, name, kind, identity
    parent := if parent.identity.isValid then some parent.identity else none
    attributes := if identity.isSampled then attributes else []
    events := [], status := .unset, ended := false }

/-- The journal with one more span, under the current span of a context. -/
def opened (j : Journal) (t : Tracer) (name : String) (parent : Context) (kind : Kind)
    (attributes : Fields) : SpanRef × Journal :=
  let span := j.newSpan t name parent kind attributes
  ({ identity := span.identity, entry := some j.spans.length },
    { j with
      spans := j.spans ++ [span]
      traces := if parent.identity.isValid then j.traces else j.traces + 1 })

/-- Start a span under the current span of a context. -/
def start (j : Journal) (t : Tracer) (name : String) (parent : Context) (kind : Kind)
    (attributes : Fields) : Except Refusal (SpanRef × Journal) :=
  if t.refuses .start name then .error { operation := .start, span := name }
  else .ok (j.opened t name parent kind attributes)

/-- The entry of a reference and the span there. A span that was not started here has none. -/
def find? (j : Journal) (r : SpanRef) : Option (Nat × Span) :=
  r.entry.bind fun i => (j.spans[i]?).map (i, ·)

/-- The journal with the span of an entry changed. -/
def update (j : Journal) (i : Nat) (f : Span → Span) : Journal :=
  { j with spans := j.spans.modify i f }

/-- The journal with something more that was asked of a span. -/
def noted (j : Journal) (op : Operation) (r : SpanRef) : Journal :=
  { j with acts := j.acts ++ [{ operation := op, span := r }] }

/-- Change the data of a span, if it is recording. Nothing happens to a span that was not started
here. -/
def record (j : Journal) (r : SpanRef) (op : Operation) (f : Span → Span) :
    Except Refusal Journal :=
  match j.find? r with
  | none => .ok (j.noted op r)
  | some (i, s) =>
    if s.refuses op then .error { operation := op, span := s.name }
    else .ok (if s.isRecording then (j.noted op r).update i f else j.noted op r)

/-- Write attributes of a span. -/
def setAttributes (j : Journal) (r : SpanRef) (more : Fields) : Except Refusal Journal :=
  j.record r .setAttributes (·.withAttributes more)

/-- Add an event to a span. -/
def addEvent (j : Journal) (r : SpanRef) (name : String) (attributes : Fields) :
    Except Refusal Journal :=
  j.record r .addEvent (·.withEvent name attributes)

/-- Give a span an error status. -/
def setError (j : Journal) (r : SpanRef) (description : String) : Except Refusal Journal :=
  j.record r .setStatus (·.withError description)

/-- The journal after the end of the span of an entry, while the span of id `current` is current. -/
def closed (j : Journal) (i : Nat) (s : Span) (current : Nat) : Journal :=
  if s.ended then j
  else
    { j.update i Span.finished with
      finishes :=
        if s.identity.isSampled then j.finishes ++ [{ entry := i, current }] else j.finishes }

/-- End a span. A second end does nothing. -/
def finish (j : Journal) (r : SpanRef) (current : Nat) : Except Refusal Journal :=
  match j.find? r with
  | none => .ok (j.noted .finish r)
  | some (i, s) =>
    if s.refuses .finish then .error { operation := .finish, span := s.name }
    else .ok ((j.noted .finish r).closed i s current)

theorem length_spans_update (j : Journal) (i : Nat) (f : Span → Span) :
    (j.update i f).spans.length = j.spans.length := List.length_modify ..

/-- Data is recorded without starting or ending a span. -/
theorem length_spans_record {j j' : Journal} {r : SpanRef} {op : Operation} {f : Span → Span}
    (h : j.record r op f = .ok j') :
    j'.spans.length = j.spans.length ∧ j'.finishes = j.finishes := by
  simp only [record] at h
  split at h
  · cases h
    exact ⟨rfl, rfl⟩
  · split at h
    · cases h
    · cases h
      split
      · exact ⟨length_spans_update .., rfl⟩
      · exact ⟨rfl, rfl⟩

theorem nextId_pos (bound used : Nat) : 0 < nextId bound used := Nat.succ_pos _

theorem nextId_lt {bound : Nat} (h : 1 < bound) (used : Nat) : nextId bound used < bound := by
  have := Nat.mod_lt used (show 0 < bound - 1 by omega)
  rw [nextId]
  omega

/-- Every span that is started has a valid identity. -/
theorem isValid_nextIdentity (j : Journal) (parent : Identity) :
    (j.nextIdentity parent).isValid = true := by
  have hspan := nextId_lt (show 1 < Nat.pow 2 64 by decide) j.spans.length
  have htrace := nextId_lt (show 1 < Nat.pow 2 128 by decide) j.traces
  simp only [nextIdentity]
  split
  · next h =>
    simp only [Identity.isValid, Bool.and_eq_true, decide_eq_true_eq] at h ⊢
    exact ⟨⟨h.1.1, nextId_pos ..⟩, hspan⟩
  · simp only [Identity.isValid, Bool.and_eq_true, decide_eq_true_eq]
    exact ⟨⟨⟨nextId_pos .., htrace⟩, nextId_pos ..⟩, hspan⟩

end Journal

end QueryTelemetry.Trace
