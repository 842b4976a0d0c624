import QueryTelemetry.Value.Basic

/-!
# The context of log records

Every record carries the fields of the scopes that are open when it is logged: the request id, the
operation name and extra fields. Inner scopes win. A scope remembers the context that it replaced
and puts it back when it is left; entering it again replaces what it remembers.
-/

namespace QueryTelemetry.Log

/-- The fields that the open scopes give to every record. The request id and the operation name are
null where no scope gives them. -/
structure Context where
  requestId : Value
  operationName : Value
  extra : Fields

namespace Context

/-- The context outside every scope. -/
def empty : Context := { requestId := .null, operationName := .null, extra := [] }

/-- The first value when it is given and not empty, otherwise the second. -/
def prefer (a b : Value) : Value := if a.isGiven then a else b

/-- The context with the fields of an inner scope laid over it. -/
def merge (outer inner : Context) : Context :=
  { requestId := prefer inner.requestId outer.requestId
    operationName := prefer inner.operationName outer.operationName
    extra := Assoc.overlay outer.extra inner.extra }

theorem prefer_of_isGiven {a : Value} (h : a.isGiven = true) (b : Value) : prefer a b = a := by
  rw [prefer, if_pos h]

/-- A named value, when it is given and not empty. -/
def shown (name : String) (v : Value) : Fields := if v.isGiven then [(name, v)] else []

/-- The fields of a context as they appear in a record. -/
def toFields (c : Context) : Fields :=
  Assoc.overlay (shown "request_id" c.requestId ++ shown "operation_name" c.operationName) c.extra

end Context

/-- A scope: its own fields, and the context it replaced while it is open. -/
structure Scope where
  fields : Context
  saved : Option Context

namespace Scope

/-- A scope that is not open. -/
def ofFields (fields : Context) : Scope := { fields, saved := none }

/-- Open a scope in a context: the scope, and the context inside it. -/
def enter (s : Scope) (current : Context) : Scope × Context :=
  ({ s with saved := some current }, current.merge s.fields)

/-- Leave a scope: the scope, and the context after it. Leaving a scope that is not open changes
nothing. -/
def leave (s : Scope) (current : Context) : Scope × Context :=
  ({ s with saved := none }, s.saved.getD current)

end Scope

end QueryTelemetry.Log
