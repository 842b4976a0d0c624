import QueryTelemetry.Fault
import QueryTelemetry.Trace.Context

/-!
# Data of a request

The caller and the observers of a request share data. Data is stored by its kind, one of each kind,
so inserting replaces what was there of the same kind. One kind concerns tracing: it may bring the
context of an outer trace for the request to join.
-/

namespace QueryTelemetry.Request

/-- What a caller says about the tracing of a request: the context to join, if any. -/
structure Joining where
  parent : Option Trace.Context

/-- A request that joins the trace of a span, whatever else the current context carries. -/
def Joining.ofSpan (r : Trace.SpanRef) (current : Trace.Context) : Joining :=
  { parent := some (current.withSpan r) }

/-- The data of a request, by kind. -/
structure Data where
  values : List (String × Value)
  joining : Option Joining

namespace Data

/-- No data. -/
def empty : Data := { values := [], joining := none }

/-- The data with a value in the place of the one of its kind. -/
def insert (d : Data) (v : Value) : Data := { d with values := Assoc.put d.values v.kind v }

/-- The data with other words about tracing. -/
def join (d : Data) (j : Joining) : Data := { d with joining := some j }

/-- The value of a kind. -/
def get? (d : Data) (kind : String) : Option Value := Assoc.get? d.values kind

/-- The value of a kind that must be there. -/
def get (d : Data) (kind : String) : Except Fault Value :=
  match d.get? kind with
  | some v => .ok v
  | none => .error (.plain .key ("No data of type " ++ kind ++ " in extension context"))

/-- Whether there is a value of a kind. -/
def has (d : Data) (kind : String) : Bool := Assoc.has d.values kind

/-- The context that the request is to join. -/
def parent? (d : Data) : Option Trace.Context := d.joining.bind (·.parent)

end Data

end QueryTelemetry.Request
