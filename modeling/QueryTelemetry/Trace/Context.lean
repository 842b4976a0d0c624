import QueryTelemetry.Text.Digit
import QueryTelemetry.Value.Basic

/-!
# Contexts

A span is known by its identity: the trace it belongs to, its own id, and flags of which the lowest
says whether the trace is recorded. A context says which span is the current one and carries
baggage, named data that travels along. Contexts are data: the context of a child is the context of
its parent with another span.
-/

namespace QueryTelemetry.Trace

/-- What identifies a span everywhere. A remote identity came in with a request. -/
structure Identity where
  traceId : Nat
  spanId : Nat
  flags : Nat
  remote : Bool
  /-- Entries of tracing systems that the trace has passed through. -/
  state : List (String × String)
deriving DecidableEq, Repr

namespace Identity

/-- The identity of no span. -/
def invalid : Identity := { traceId := 0, spanId := 0, flags := 0, remote := false, state := [] }

/-- Whether both ids are positive and within their 128 and 64 bits. -/
def isValid (i : Identity) : Bool :=
  decide (0 < i.traceId) && decide (i.traceId < Nat.pow 2 128) && decide (0 < i.spanId) &&
    decide (i.spanId < Nat.pow 2 64)

/-- Whether the trace is recorded. -/
def isSampled (i : Identity) : Bool := i.flags % 2 == 1

/-- The trace id as text. -/
def traceText (i : Identity) : String := Text.hex 32 i.traceId

/-- The span id as text. -/
def spanText (i : Identity) : String := Text.hex 16 i.spanId

theorem isValid_invalid : invalid.isValid = false := rfl

end Identity

/-- A reference to a span: its identity, and its entry in the journal if it was started here. -/
structure SpanRef where
  identity : Identity
  entry : Option Nat
deriving DecidableEq, Repr

/-- A reference to no span. -/
def SpanRef.absent : SpanRef := { identity := .invalid, entry := none }

/-- The current span, and the baggage. -/
structure Context where
  span : Option SpanRef
  baggage : Fields

namespace Context

/-- The context without a span and without baggage. -/
def empty : Context := { span := none, baggage := [] }

instance : Inhabited Context := ⟨empty⟩

/-- The current span; without one, the reference to no span. -/
def current (c : Context) : SpanRef := c.span.getD .absent

/-- The identity of the current span. -/
def identity (c : Context) : Identity := c.current.identity

/-- The context with another span. -/
def withSpan (c : Context) (r : SpanRef) : Context := { c with span := some r }

theorem current_empty : empty.current = SpanRef.absent := rfl

/-- The span of a context, when it is valid. -/
def validSpan? (c : Context) : Option SpanRef :=
  if c.identity.isValid then some c.current else none

end Context

end QueryTelemetry.Trace
