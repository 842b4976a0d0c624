import QueryTelemetry.Log.Host
import QueryTelemetry.Propagation.Baggage
import QueryTelemetry.Request.Data

/-!
# Carrying contexts between services

A bridge writes a context into a carrier and reads one from it, through the propagators that its
settings name, in their order. Names that mean nothing are noted and passed over; so is the name of
a propagator whose optional package is missing. Every failure of a propagator becomes an error that
says which way the context went.
-/

namespace QueryTelemetry.Propagation

/-- One way to carry a part of a context. -/
inductive Propagator where
  | traceContext
  | baggage
  | zipkin
deriving DecidableEq, Repr

namespace Propagator

/-- The header of the propagator for Zipkin. -/
def zipkinHeader : String := "b3-fake"

/-- Write the span of a context. Only the identity that is zero throughout is left out. -/
def injectTraceContext (carrier : Value) (c : Trace.Context) : Except Fault Value :=
  if c.identity = .invalid then .ok carrier
  else do
    let carrier ← setHeader carrier TraceParent.headerName (TraceParent.write c.identity)
    if c.identity.state.isEmpty then .ok carrier
    else setHeader carrier TraceState.headerName (TraceState.write c.identity.state)

/-- Write the baggage of a context. -/
def injectBaggage (carrier : Value) (c : Trace.Context) : Except Fault Value := do
  match ← Baggage.write c.baggage with
  | none => .ok carrier
  | some header => setHeader carrier Baggage.headerName header

/-- Write the span of a context for Zipkin, if it is valid. -/
def injectZipkin (carrier : Value) (c : Trace.Context) : Except Fault Value :=
  if c.identity.isValid then
    setHeader carrier zipkinHeader (Text.hex 1 c.identity.traceId ++ "-" ++ Text.hex 1 c.identity.spanId)
  else .ok carrier

/-- Write a part of a context into a carrier. -/
def inject : Propagator → Value → Trace.Context → Except Fault Value
  | traceContext => injectTraceContext
  | baggage => injectBaggage
  | zipkin => injectZipkin

/-- The entries of the trace-state header. -/
def readState (headers : Headers) : Except Fault (List (String × String)) :=
  match headers.items TraceState.headerName with
  | none => .ok []
  | some items => TraceState.read items

/-- The remote identity that the headers give, if they give one. -/
def remoteIdentity (headers : Headers) : Except Fault (Option Trace.Identity) :=
  match headers.items TraceParent.headerName with
  | none | some [] => .ok none
  | some (header :: _) => do
    let length ← lengthOf header
    if TraceParent.longest < length then .ok none
    else do
      let text ← textOf header
      match TraceParent.read text with
      | none => .ok none
      | some p => do
        let state ← readState headers
        .ok (some (p.toIdentity state))

/-- Read the remote span into a context, the empty one when there is none yet. -/
def extractTraceContext (headers : Headers) (c : Option Trace.Context) :
    Except Fault Trace.Context := do
  let start := c.getD .empty
  match ← remoteIdentity headers with
  | none => .ok start
  | some identity => .ok (start.withSpan { identity, entry := none })

/-- A context with more baggage. -/
def withBaggage (c : Trace.Context) (more : List (String × String)) : Trace.Context :=
  { c with baggage := Assoc.overlay c.baggage (more.map fun e => (e.1, .text e.2)) }

/-- Read baggage into a context, the current one when there is none yet. -/
def extractBaggage (headers : Headers) (current : Trace.Context) (c : Option Trace.Context) :
    Except Fault Trace.Context :=
  let start := c.getD current
  match headers.items Baggage.headerName with
  | none | some [] => .ok start
  | some (.text s :: _) => .ok (withBaggage start (Baggage.read s))
  | some (v :: _) =>
    if v.isGiven then .error (.absent v.kind "encode")
    else .ok start

/-- Read the header for Zipkin into the baggage of a context, the empty one when there is none
yet. -/
def extractZipkin (headers : Headers) (c : Option Trace.Context) : Trace.Context :=
  let start := c.getD .empty
  match Assoc.get? headers zipkinHeader with
  | none => start
  | some v =>
    if v.isGiven then { start with baggage := Assoc.put start.baggage zipkinHeader v } else start

/-- Read a part of a context from the headers of a carrier. -/
def extract (p : Propagator) (headers : Headers) (current : Trace.Context)
    (c : Option Trace.Context) : Except Fault Trace.Context :=
  match p with
  | traceContext => extractTraceContext headers c
  | baggage => extractBaggage headers current c
  | zipkin => .ok (extractZipkin headers c)

/-- The propagator of a name, or the note that there is none. -/
def ofName (zipkinInstalled : Bool) (name : String) : Except Log.HostRecord Propagator :=
  let note := Log.HostRecord.plain "gqlext.opentelemetry.propagation"
  if name == "tracecontext" then .ok traceContext
  else if name == "baggage" then .ok baggage
  else if name == "b3" || name == "b3multi" then
    if zipkinInstalled then .ok zipkin else .error (note .debug "B3 propagator not installed")
  else .error (note .warning ("Unknown propagator: " ++ name))

end Propagator

/-- The propagators of settings that name none. -/
def defaultNames : List String := ["tracecontext", "baggage"]

/-- The propagators that carry contexts, and the names that they were given by. -/
structure Bridge where
  names : List String
  propagators : List Propagator

namespace Bridge

/-- The propagators of a list of names, and the notes about names that have none. -/
def resolve (zipkinInstalled : Bool) : List String → List Propagator × List Log.HostRecord
  | [] => ([], [])
  | name :: rest =>
    let (propagators, notes) := resolve zipkinInstalled rest
    match Propagator.ofName zipkinInstalled name with
    | .ok p => (p :: propagators, notes)
    | .error note => (propagators, note :: notes)

/-- The bridge of a list of names, with the notes that making it leaves. -/
def ofNames (zipkinInstalled : Bool) (names : List String) : Bridge × List Log.HostRecord :=
  let (propagators, notes) := resolve zipkinInstalled names
  ({ names, propagators }, notes)

/-- The names of a bridge as they are shown in errors. -/
def shownNames (b : Bridge) : String := encloseTuple (b.names.map Text.quote)

/-- The error of a failed transfer. -/
def failure (b : Bridge) (message operation : String) (cause : Fault) : Fault :=
  .propagation message operation b.shownNames cause

/-- Write a context into a carrier. -/
def inject (b : Bridge) (carrier : Value) (c : Trace.Context) : Except Fault Value :=
  (b.propagators.foldlM (fun carrier (p : Propagator) => p.inject carrier c) carrier).mapError
    (b.failure "Failed to inject context into carrier" "inject")

/-- Read a context from headers, while `current` is the current one. Without a propagator there is
none. -/
def extractHeaders (b : Bridge) (headers : Headers) (current : Trace.Context) :
    Except Fault (Option Trace.Context) :=
  b.propagators.foldlM (fun c (p : Propagator) => some <$> p.extract headers current c) none

/-- Read a context from a carrier. The names of its headers are looked at first; a failure there is
passed on as it is. -/
def extract (b : Bridge) (carrier : Value) (current : Trace.Context) :
    Except Fault (Option Trace.Context) := do
  let headers ← Headers.ofCarrier carrier
  (b.extractHeaders headers current).mapError
    (b.failure "Failed to extract context from carrier" "extract")

/-- What a carrier says about the tracing of a request: the request joins the trace that the
carrier brings, if it brings a valid one. -/
def joining (b : Bridge) (carrier : Value) (current : Trace.Context) :
    Except Fault Request.Joining := do
  let c ← b.extract carrier current
  if (c.getD current).identity.isValid then .ok { parent := c } else .ok { parent := none }

end Bridge

/-- The ids of a context as texts, and whether its trace is recorded; nothing without a valid
span. -/
def traceIds (c : Trace.Context) : Fields :=
  if c.identity.isValid then
    [("trace_id", .text c.identity.traceText), ("span_id", .text c.identity.spanText),
      ("sampled", .bool c.identity.isSampled)]
  else []

end QueryTelemetry.Propagation
