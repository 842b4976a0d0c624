import QueryTelemetry.Fault
import QueryTelemetry.Text.Case
import QueryTelemetry.Value.Mapping

/-!
# Headers

A carrier is a map of headers. On the way in, the names of headers are compared in small letters,
and a header that comes as a sequence counts by its items. On the way out, headers are written into
the carrier, which must be a map that can be written to.
-/

namespace QueryTelemetry.Propagation

/-- The headers of a carrier, their names in small letters. A later header takes the place of an
earlier one of the same name. -/
abbrev Headers := List (String × Value)

/-- The headers of the entries of a carrier; every name must have a text. -/
def headersOf : Headers → List (Value × Value) → Except Fault Headers
  | headers, [] => .ok headers
  | headers, (k, v) :: rest => do
    let name ← k.toText
    headersOf (Assoc.put headers (Text.lower name) v) rest

/-- The headers of a carrier. -/
def Headers.ofCarrier (carrier : Value) : Except Fault Headers :=
  match carrier with
  | .dict entries => headersOf [] entries
  | .cyclic => .ok [("self", .cyclic)]
  | v => .error (.absent v.kind "items")

/-- The items of a header: none for a header that is absent, those of a sequence, or the one value
that it is. -/
def Headers.items (headers : Headers) (name : String) : Option (List Value) :=
  match Assoc.get? headers name with
  | none | some .null => none
  | some (.text s) => some [.text s]
  | some v => some (v.items?.getD [v])

/-- The length of a header's value, when it has one. -/
def lengthOf (v : Value) : Except Fault Nat :=
  match v with
  | .text s => .ok s.length
  | v =>
    match v.items? with
    | some items => .ok items.length
    | none => .error (.ofType s!"object of type '{v.kind}' has no len()")

/-- The text of a header's value that is to be matched with a pattern. -/
def textOf : Value → Except Fault String
  | .text s => .ok s
  | .bytes _ => .error (.ofType "cannot use a string pattern on a bytes-like object")
  | v => .error (.ofType s!"expected string or bytes-like object, got '{v.kind}'")

/-- A carrier with one more header. -/
def setHeader (carrier : Value) (name value : String) : Except Fault Value :=
  carrier.withEntry name (.text value)

end QueryTelemetry.Propagation
