/-!
# Slots

A request owns one slot for each of its phases and one for each field resolution; the context of
a live span is kept in the slot of the work that the span covers.

Labels and descriptions write out the id of a field whatever its size. Where a slot is data, an id
of more than `Text.digitLimit` digits is refused (`Value.slotText`). Messages take ids to be within
that bound; there the two agree (`Value.slotText_of_short`).
-/

namespace QueryTelemetry.Trace

/-- What a live span covers: a phase of the request or one field resolution. -/
inductive Slot where
  | request
  | parse
  | validation
  | execution
  | field (id : Int)
deriving DecidableEq, Repr

namespace Slot

/-- The phase of a name. -/
def ofPhase? : String → Option Slot
  | "request" => some request
  | "parse" => some parse
  | "validation" => some validation
  | "execution" => some execution
  | _ => none

/-- The name of a slot in descriptions. -/
def constant : Slot → String
  | request => "REQUEST"
  | parse => "PARSE"
  | validation => "VALIDATION"
  | execution => "EXECUTION"
  | field _ => "FIELD"

/-- The name of a slot in messages. -/
def label : Slot → String
  | request => "request"
  | parse => "parse"
  | validation => "validation"
  | execution => "execution"
  | field id => "field:" ++ toString id

/-- The full description of a slot. -/
def describe : Slot → String
  | request => "<Phase.REQUEST: 'request'>"
  | parse => "<Phase.PARSE: 'parse'>"
  | validation => "<Phase.VALIDATION: 'validation'>"
  | execution => "<Phase.EXECUTION: 'execution'>"
  | field id => "FieldSlot(resolve_id=" ++ toString id ++ ")"

end Slot

end QueryTelemetry.Trace
