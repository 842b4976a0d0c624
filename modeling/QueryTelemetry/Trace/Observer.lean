import QueryTelemetry.Request.Event
import QueryTelemetry.Trace.Attributes
import QueryTelemetry.Trace.Journal
import QueryTelemetry.Trace.SlotTree

/-!
# Tracing one request

The observer turns the events of one request into a tree of spans: a span for the request, under
it one for each of its phases, under execution one for each top-level field, and under a field one
for each field that it encloses. The context of an open span waits in the slot of its work. A field
whose enclosing span is not there is not traced, and neither is anything below it.

A request that joins an outer trace brings a context of its own. It then takes the place of the
request span and is never ended here.

A refusal of the backend is noted and otherwise ignored. While a span is ended its context is the
current one; at any other time the current context is left alone and never consulted.
-/

namespace QueryTelemetry.Trace

open Log (HostRecord)

/-- What the observer works on: the journal, the current context, and the notes that it leaves for
the host, the oldest first. -/
structure Backend where
  journal : Journal
  current : Context
  notes : List HostRecord

namespace Backend

/-- The backend with one more note of the observer. -/
def note (b : Backend) (level : Log.Level) (message : String) : Backend :=
  { b with notes := b.notes ++ [.plain "gqlext.opentelemetry.extension" level message] }

/-- The backend with more notes. -/
def noteAll (b : Backend) (more : List HostRecord) : Backend := { b with notes := b.notes ++ more }

/-- The backend after an operation, or with a note that it was refused. -/
def attempt (b : Backend) (failure : String) (r : Except Refusal Journal) : Backend :=
  match r with
  | .ok journal => { b with journal }
  | .error refusal => b.note .warning (failure ++ ": " ++ refusal.message)

/-- End the span of a reference while the current context is current. -/
def finishSpan (b : Backend) (r : SpanRef) : Except Refusal Journal :=
  b.journal.finish r b.current.identity.spanId

end Backend

/-- The tracing of one request. -/
structure Observer where
  tracer : Tracer
  includeSource : Bool
  includeVariables : Bool
  tree : SlotTree
  /-- Whether the request has joined an outer trace. -/
  joined : Bool

/-- What a hook leaves: the observer, the backend, and the fault that it raised, if any. -/
structure Outcome where
  observer : Observer
  backend : Backend
  fault : Option Fault

namespace Observer

/-- The tracing of a new request. -/
def create (tracer : Tracer) (includeSource includeVariables strict : Bool) : Observer :=
  { tracer, includeSource, includeVariables, tree := .empty strict, joined := false }

/-- A hook that does nothing. -/
def idle (o : Observer) (b : Backend) : Outcome := { observer := o, backend := b, fault := none }

/-- A hook that raises a fault. -/
def raise (o : Observer) (b : Backend) (f : Fault) : Outcome :=
  { observer := o, backend := b, fault := some f }

/-- Start a span under a context, the empty one for a new trace: the context with the new span, or
nothing when the backend refused. -/
def startSpan (o : Observer) (name : String) (parent : Context) (attributes : Fields)
    (b : Backend) : Option Context × Backend :=
  match b.journal.start o.tracer name parent .server attributes with
  | .ok (r, journal) => (some (parent.withSpan r), { b with journal })
  | .error refusal =>
    (none, b.note .warning ("Failed to start span '" ++ name ++ "': " ++ refusal.message))

/-- End a span that was started for a slot which is live already, and raise the error. The
operations of the backend are not guarded here. -/
def reject (o : Observer) (k : Slot) (c : Context) (b : Backend) : Outcome :=
  match b.journal.setError c.current ("context slot " ++ k.label ++ " already live") with
  | .error refusal => o.raise b refusal.fault
  | .ok journal =>
    let marked := { b with journal }
    match marked.finishSpan c.current with
    | .error refusal => o.raise marked refusal.fault
    | .ok journal => o.raise { b with journal } (SlotTree.alreadyLive k)

/-- Keep the context of a new span in its slot. -/
def enter (o : Observer) (k : Slot) (c : Context) (b : Backend) : Outcome :=
  match o.tree.enter k c with
  | (.rejected, _) => o.reject k c b
  | (entered, tree) => idle { o with tree } (b.noteAll (SlotTree.notesOf k entered))

/-- Keep the context that a request brings in the slot of the request. -/
def join (o : Observer) (c : Context) (b : Backend) : Outcome :=
  let o := { o with joined := true }
  match o.tree.enter .request c with
  | (.rejected, _) => o.raise b (SlotTree.alreadyLive .request)
  | (entered, tree) => idle { o with tree } (b.noteAll (SlotTree.notesOf .request entered))

/-- Start a span for a slot under a context. -/
def begin (o : Observer) (k : Slot) (name : String) (parent : Context) (attributes : Fields)
    (b : Backend) : Outcome :=
  match o.startSpan name parent attributes b with
  | (some c, b) => o.enter k c b
  | (none, b) => o.idle b

/-- Whether the context of a slot belongs to the observer: its span was started here. -/
def owns (o : Observer) (k : Slot) : Bool := !(k == .request && o.joined)

/-- Leave a slot and end its span while its context is current. -/
def release (o : Observer) (k : Slot) (b : Backend) : Outcome :=
  match o.tree.exit k with
  | (none, _) => o.idle b
  | (some c, tree) =>
    let after := { o with tree }
    if o.owns k then
      let inside := { b with current := SlotTree.inside (some c) b.current }
      let done := inside.attempt ("Failed to end span for slot " ++ k.label)
        (inside.finishSpan c.current)
      after.idle { done with current := b.current }
    else after.idle b

/-- Write the last attributes of the span of a slot, if it is live. -/
def annotate (o : Observer) (k : Slot) (attributes : Fields) (b : Backend) : Backend :=
  match o.tree.get? k with
  | none => b
  | some c =>
    b.attempt "Failed to set span attributes" (b.journal.setAttributes c.current attributes)

/-- The start of a request, which may bring a context to join. -/
def onStart (o : Observer) (parent : Option Context) (b : Backend) : Outcome :=
  match parent with
  | some c => o.join c b
  | none => o.begin .request requestName .empty [] b

/-- The variables of a query as text, with the notes that writing them leaves. -/
def shownVariables (o : Observer) (bindings : Value) :
    Except Fault (Option String × List HostRecord) :=
  if o.includeVariables then do
    let written ← writeVariables bindings
    .ok (written.toOption, written.notes)
  else .ok (none, [])

/-- The start of parsing. -/
def onParseStart (o : Observer) (query : Option String) (bindings : Value) (b : Backend) :
    Outcome :=
  match o.tree.get? .request with
  | none => o.idle b
  | some parent =>
    match o.shownVariables bindings with
    | .error f => o.raise b f
    | .ok (shown, notes) =>
      let source := if o.includeSource then query else none
      o.begin .parse parseName parent (parseAttributes source shown) (b.noteAll notes)

/-- The start of validation. -/
def onValidationStart (o : Observer) (b : Backend) : Outcome :=
  match o.tree.get? .request with
  | none => o.idle b
  | some parent => o.begin .validation validationName parent [] b

/-- The start of execution. It is traced even without a request span, so that fields have a
parent. -/
def onExecutionStart (o : Observer) (b : Backend) : Outcome :=
  o.begin .execution executeName ((o.tree.get? .request).getD .empty) [] b

/-- The slot of what encloses a field. -/
def enclosingSlot (id : Request.ResolveId) : Slot :=
  match id.enclosing? with
  | some parent => .field parent
  | none => .execution

/-- The start of a field resolution. -/
def onResolveStart (o : Observer) (r : Request.Resolution) (b : Backend) : Outcome :=
  match o.tree.get? (enclosingSlot r.id) with
  | none => o.idle b
  | some parent =>
    o.begin (.field r.id.current) r.path parent
      (resolveAttributes r.id.current r.parentType r.returnType) b

/-- An error: an event on the span of execution, if it is live. An error without a text leaves a
note. -/
def onError (o : Observer) (err : Value) (b : Backend) : Outcome :=
  match o.tree.get? .execution with
  | none => o.idle b
  | some c =>
    match errorEvent err with
    | .ok attributes =>
      o.idle (b.attempt "Failed to record error event"
        (b.journal.addEvent c.current errorName attributes))
    | .error f =>
      match f.text with
      | .ok shown => o.idle (b.note .warning ("Failed to record error event: " ++ shown))
      | .error f => o.raise b f

/-- The hook of an event, in a request that may bring a context to join. -/
def hook (o : Observer) (parent : Option Context) (e : Request.Event) (b : Backend) : Outcome :=
  match e with
  | .start => o.onStart parent b
  | .parseStart query bindings => o.onParseStart query bindings b
  | .parseEnd _ => o.release .parse b
  | .validationStart => o.onValidationStart b
  | .validationEnd complexity depth =>
    o.release .validation (o.annotate .validation (validationAttributes complexity depth) b)
  | .executionStart => o.onExecutionStart b
  | .executionEnd => o.release .execution b
  | .resolveStart r => o.onResolveStart r b
  | .resolveEnd r => o.release (.field r.id.current) b
  | .error err => o.onError err b
  | .finish => o.release .request b

/-- End the span of a slot that the request left open, with an error status. -/
def abandon (o : Observer) (b : Backend) (e : Slot × Context) : Backend :=
  let failure := "Failed to end abandoned span for slot " ++ e.1.label
  if o.owns e.1 then
    match b.journal.setError e.2.current "request scope left before span ended" with
    | .error refusal => b.attempt failure (.error refusal)
    | .ok journal =>
      let marked := { b with journal }
      marked.attempt failure (marked.finishSpan e.2.current)
  else b

/-- Leave every live slot, the last one first, and end the spans that the observer owns. -/
def close (o : Observer) (b : Backend) : Outcome :=
  match o.tree.drain with
  | ([], _) => o.idle b
  | (abandoned, tree) =>
    let noted := b.note .debug
      ("Closing " ++ toString abandoned.length ++ " abandoned tracing context(s)")
    idle { o with tree } (abandoned.foldl o.abandon noted)

end Observer

end QueryTelemetry.Trace
