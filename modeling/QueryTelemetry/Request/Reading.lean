import QueryTelemetry.Request.Event
import QueryTelemetry.Value.Access

/-!
# Events read from data

What events carry, read from named data. Whatever the data leaves out has its default.
-/

namespace QueryTelemetry.Request

/-- The identity of a field resolution. -/
def ResolveId.ofValue (v : Value) : ResolveId :=
  { current := v.intAt "current" 0, parent := v.intAt? "parent" }

/-- A field resolution. Raw data is taken as it is; otherwise a path that is missing or empty is
made from the id. -/
def Resolution.ofValue (v : Value) : Resolution :=
  let id := ResolveId.ofValue v
  let parentType := v.textAt "parent_type" "Query"
  let returnType := v.textAt "return_type" "String"
  if v.boolAt "raw" false then { id, path := v.textAt "path" "", parentType, returnType }
  else .make id (v.textAt? "path") parentType returnType

/-- A query-level error. -/
def errorOfValue (v : Value) : Value :=
  .queryError (v.textAt "message" "boom") (v.itemsAt "path")
    ((v.itemsAt "locations").map fun l => .tuple l.asItems)
    ((v.given? "extensions").getD (.dict []))

/-- The event of a name. -/
def Event.ofValue (name : String) (v : Value) : Option Event :=
  match name with
  | "start" => some .start
  | "parse_start" =>
    let query := match v.member? "query" with
      | none => some "\x7b a \x7d"
      | some q => q.asText?
    some (.parseStart query ((v.member? "variables").getD (.dict [])))
  | "parse_end" => some (.parseEnd (v.entry "document"))
  | "validation_start" => some .validationStart
  | "validation_end" => some (.validationEnd (v.intAt "complexity" 0) (v.intAt "depth" 0))
  | "execution_start" => some .executionStart
  | "execution_end" => some .executionEnd
  | "resolve_start" => some (.resolveStart (.ofValue v))
  | "resolve_end" => some (.resolveEnd (.ofValue v))
  | "error" => some (.error ((v.member? "value").getD (errorOfValue v)))
  | "end" => some .finish
  | _ => none

end QueryTelemetry.Request
