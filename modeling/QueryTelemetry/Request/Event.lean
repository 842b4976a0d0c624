import QueryTelemetry.Value.Text

/-!
# The events of a request

A request is told as a sequence of events: it starts, its query is parsed and validated, its
operation is executed with a resolution for every field, errors may be reported on the way, and it
ends. Every event carries what is known at that point.
-/

namespace QueryTelemetry.Request

/-- The identity of a field resolution, and of the resolution that encloses it. -/
structure ResolveId where
  current : Int
  parent : Option Int
deriving DecidableEq, Repr

namespace ResolveId

/-- The enclosing resolution; zero stands for none. -/
def enclosing? (id : ResolveId) : Option Int :=
  match id.parent with
  | some p => if p = 0 then none else some p
  | none => none

/-- Whether no resolution encloses the field. -/
def isTopLevel (id : ResolveId) : Bool := id.enclosing?.isNone

/-- The full description of an identity. -/
def describe (id : ResolveId) : String :=
  let parent := match id.parent with
    | some p => toString p
    | none => "None"
  "ResolveId(current=" ++ toString id.current ++ ", parent=" ++ parent ++ ")"

end ResolveId

/-- One field resolution: the response path of the field, the type that declares it and the type
that it returns. -/
structure Resolution where
  id : ResolveId
  path : String
  parentType : String
  returnType : String
deriving DecidableEq, Repr

namespace Resolution

/-- A resolution that gives no path, or an empty one, is called after its id. -/
def make (id : ResolveId) (path : Option String) (parentType returnType : String) : Resolution :=
  let named := "field" ++ toString id.current
  { id, parentType, returnType
    path := match path with
      | some p => if p.isEmpty then named else p
      | none => named }

/-- The full description of a resolution. -/
def describe (r : Resolution) : String :=
  "ResolveInfo(resolve_id=" ++ r.id.describe ++ ", path=" ++ Text.quote r.path ++
    ", parent_type=" ++ Text.quote r.parentType ++ ", return_type=" ++ Text.quote r.returnType ++
    ")"

end Resolution

/-- The full description of the result of validation. -/
def describeValidation (complexity depth : Int) : String :=
  "ValidationResult(complexity=" ++ toString complexity ++ ", depth=" ++ toString depth ++ ")"

/-- What happens in a request. -/
inductive Event where
  | start
  | parseStart (query : Option String) (bindings : Value)
  | parseEnd (document : Value)
  | validationStart
  | validationEnd (complexity depth : Int)
  | executionStart
  | executionEnd
  | resolveStart (r : Resolution)
  | resolveEnd (r : Resolution)
  | error (err : Value)
  | finish

namespace Event

/-- The name of an event. -/
def name : Event → String
  | start => "start"
  | parseStart .. => "parse_start"
  | parseEnd _ => "parse_end"
  | validationStart => "validation_start"
  | validationEnd .. => "validation_end"
  | executionStart => "execution_start"
  | executionEnd => "execution_end"
  | resolveStart _ => "resolve_start"
  | resolveEnd _ => "resolve_end"
  | error _ => "error"
  | finish => "end"

/-- What an event carries, as data. -/
def payload : Event → List Value
  | parseStart query bindings => [.ofText? query, bindings]
  | parseEnd document => [document]
  | validationEnd complexity depth =>
    let shown := describeValidation complexity depth
    [.object "ValidationResult" shown shown]
  | resolveStart r | resolveEnd r => [.object "ResolveInfo" r.describe r.describe]
  | error err => [err]
  | _ => []

end Event

end QueryTelemetry.Request
