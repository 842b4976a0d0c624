import QueryTelemetry.Fault
import QueryTelemetry.Trace.Collected
import QueryTelemetry.Text.Hexadecimal
import QueryTelemetry.Value.Access

/-!
# Tracing as data

Slots, identities and contexts read from named data, and identities, contexts and spans shown as such.
-/

namespace QueryTelemetry.Trace

/-- The slot of a phase, given by its name or as it is. Other values are refused. -/
def Slot.phaseOf (v : Value) : Except Fault Slot :=
  let found : Option Slot := match v with
    | .text name => Slot.ofPhase? name
    | .slot (.field _) => none
    | .slot k => some k
    | _ => none
  match found with
  | some k => .ok k
  | none => do
    let shown ← v.describe
    .error (.ofValue (shown ++ " is not a valid Phase"))

/-- A slot: the number of a field resolution, or a phase. -/
def Slot.ofValue : Value → Except Fault Slot
  | .int n => .ok (.field n)
  | v => Slot.phaseOf v

/-- An identity, given by its ids in hexadecimal. -/
def Identity.ofValue (v : Value) : Identity :=
  { traceId := Text.ofHex (v.textAt "trace_id" "0")
    spanId := Text.ofHex (v.textAt "span_id" "0")
    flags := (v.intAt "flags" 1).toNat
    remote := v.boolAt "remote" false
    state := [] }

/-- A pair of data as a list of two. -/
def pairValue (k : String) (v : Value) : Value := .list [.text k, v]

/-- An identity as data. -/
def Identity.toValue (i : Identity) : Value :=
  Fields.toValue [("trace_id", .text i.traceText), ("span_id", .text i.spanText),
    ("flags", .ofNat i.flags), ("remote", .bool i.remote), ("valid", .bool i.isValid),
    ("state", .list (i.state.map fun e => pairValue e.1 (.text e.2)))]

/-- A context with the span and the baggage that data gives. -/
def Context.ofValue (v : Value) : Context :=
  { span := (v.given? "span").map fun i => { identity := .ofValue i, entry := none }
    baggage := v.fieldsAt "baggage" }

/-- A context as data. -/
def Context.toValue (c : Context) : Value :=
  Fields.toValue [("span", c.identity.toValue),
    ("baggage", .list (c.baggage.map fun e => pairValue e.1 e.2))]

/-- The name of a side. -/
def Kind.name : Kind → String
  | .internal => "INTERNAL"
  | .server => "SERVER"

/-- The name of a status. -/
def Status.name : Status → String
  | .unset => "UNSET"
  | .error _ => "ERROR"

/-- What a status says. -/
def Status.description? : Status → Option String
  | .unset => none
  | .error description => some description

/-- A span as data, with the id of the span that was current at its end. -/
def Span.toValue (s : Span) (current : Nat) : Value :=
  Fields.toValue [("provider", .text s.tracer.provider), ("name", .text s.name),
    ("trace_id", .text s.identity.traceText), ("span_id", .text s.identity.spanText),
    ("parent", .ofText? (s.parent.map Identity.spanText)),
    ("parent_remote", Value.ofOption (fun p => .bool p.remote) s.parent),
    ("kind", .text s.kind.name), ("status", .text s.status.name),
    ("description", .ofText? s.status.description?), ("scope", .text s.tracer.scope),
    ("attributes", Fields.toValue s.attributes),
    ("events", .list (s.events.map fun e => pairValue e.1 (Fields.toValue e.2))),
    ("current", .text (Text.hex 16 current))]

/-- The spans of some ends, as data. -/
def Journal.finishesToValue (j : Journal) (finishes : List Finish) : Value :=
  .list (finishes.filterMap fun f => (j.spans[f.entry]?).map (·.toValue f.current))

/-- Some collected spans as data: their names, how many have each, and their relations by name. -/
def Span.collectedToValue (spans : List Span) : Value :=
  Fields.toValue [
    ("counts", Fields.toValue ((Span.countsByName spans).map fun e => (e.1, .ofNat e.2))),
    ("names", .ofTexts (spans.map Span.name)),
    ("parents", .list (spans.map fun s => .ofText? ((s.parentAmong spans).map Span.name))),
    ("children", .list (spans.map fun s => .ofTexts ((s.childrenAmong spans).map Span.name)))]

/-- The operations that data refuses, each with the names of the spans; a star means all of them. -/
def refusalsOf (v : Value) (op : Operation) (span : String) : Bool :=
  let names := v.textsAt op.name
  names.contains "*" || names.contains span

end QueryTelemetry.Trace
