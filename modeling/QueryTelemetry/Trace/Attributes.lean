import QueryTelemetry.Json.Printer
import QueryTelemetry.Log.Host
import QueryTelemetry.Value.Mapping

/-!
# What spans say

The names of the spans of a request's phases, the attributes that each phase records, and the event
that an error leaves. The variables of a query are written as JSON sorted by key, so equal
variables give equal attributes; variables that JSON cannot hold are left out, with a note.
-/

namespace QueryTelemetry.Trace

/-- The name of the span of a request. -/
def requestName : String := "request"

/-- The name of the span of parsing. -/
def parseName : String := "parse"

/-- The name of the span of validation. -/
def validationName : String := "validation"

/-- The name of the span of execution. -/
def executeName : String := "execute"

/-- The name of the event that an error leaves. -/
def errorName : String := "error"

/-- Whether a kind of fault, or a kind that it belongs to, means a bad value or a value of the
wrong kind. -/
def isValueFault : FaultKind → Bool
  | .value | .type => true
  | .foreign name =>
    ["UnicodeError", "UnicodeDecodeError", "UnicodeEncodeError", "UnicodeTranslateError"].contains
      name
  | _ => false

/-- The variables of a query as text, or the reason why they are left out. -/
inductive Written where
  | text (s : String)
  | dropped (reason : String)
deriving DecidableEq, Repr

namespace Written

/-- The text of the attribute, if there is one. -/
def toOption : Written → Option String
  | .text s => some s
  | .dropped _ => none

/-- The notes that writing leaves. -/
def notes : Written → List Log.HostRecord
  | .text _ => []
  | .dropped reason =>
    [.plain "gqlext.opentelemetry.semantic.attributes" .debug
      ("Dropping unserializable variables attribute: " ++ reason)]

end Written

/-- Variables as sorted JSON. -/
def sortedJson (bindings : Value) : Except Fault String := do
  let entries ← bindings.toEntries
  Json.print .sortedLine (.dict entries)

/-- Variables written out. Values that cannot be written are left out; any other failure, such as
one of an object that refuses its text, is passed on. -/
def writeVariables (bindings : Value) : Except Fault Written :=
  match sortedJson bindings with
  | .ok s => .ok (.text s)
  | .error f =>
    match f with
    | .plain kind _ =>
      if isValueFault kind then do
        let reason ← f.text
        .ok (.dropped reason)
      else .error f
    | .reported .. => .error f

/-- A named text, when it is there. -/
def textAttribute (name : String) : Option String → Fields
  | some s => [(name, .text s)]
  | none => []

/-- The attributes of parsing: the source of the query and its variables, each when it is there. -/
def parseAttributes (source bindings : Option String) : Fields :=
  textAttribute "graphql.source" source ++ textAttribute "graphql.variables" bindings

/-- The attributes of validation. -/
def validationAttributes (complexity depth : Int) : Fields :=
  [("graphql.complexity", .int complexity), ("graphql.depth", .int depth)]

/-- The attributes of a field resolution. -/
def resolveAttributes (id : Int) (parentType returnType : String) : Fields :=
  [("graphql.resolveId", .int id), ("graphql.parentType", .text parentType),
    ("graphql.returnType", .text returnType)]

/-- The attributes of an error event. -/
def errorAttributes (shown : String) : Fields := [("graphql.error", .text shown)]

/-- The error event of an error, whose text must be defined. -/
def errorEvent (err : Value) : Except Fault Fields := errorAttributes <$> err.toText

end QueryTelemetry.Trace
