import QueryTelemetry.Value.Access
import QueryTelemetry.Value.Text

/-!
# Marked data

JSON lacks some kinds of data. In marked form each of these is a map with a single member, whose
name begins with a dollar sign and says what the content is.
-/

namespace QueryTelemetry.Marked

/-- A map with one member. -/
def marked (mark : String) (v : Value) : Value := .dict [(.text mark, v)]

/-- The text of something, or the name of the fault in its place. -/
def textOr (t : Except Fault String) : Value :=
  match t with
  | .ok s => .text s
  | .error f => .text f.name

/-- Whether every key of a map is a text. -/
def hasTextKeys (entries : Entries) : Bool := entries.all fun e => e.1.asText?.isSome

mutual

/-- Data as JSON with marks. -/
def write : Value → Value
  | .float x => marked "$float" (.text (Decimal.plain.render x))
  | .bytes b => marked "$bytes" (.text (String.join (b.map fun x => Text.hex 2 x.toNat)))
  | .list items => .list (writeAll items)
  | .tuple items => marked "$tuple" (.list (writeAll items))
  | .dict entries =>
    let written := writeEntries entries
    if hasTextKeys entries then .dict written
    else marked "$dict" (.list (written.map fun e => .list [e.1, e.2]))
  | .fault f => marked "$exc" (.list [.text f.name, textOr f.text])
  | .slot s => marked "$slot" (textOr (Value.slotText s))
  | .choice k n c => marked "$obj" (textOr (Value.choice k n c).describe)
  | .settings k p => marked "$obj" (textOr (Value.settings k p).describe)
  | .queryError m p l e => marked "$obj" (textOr (Value.queryError m p l e).describe)
  | .object _ _ description => marked "$obj" (.text description)
  | .textless _ description _ => marked "$obj" (.text description)
  | .cyclic => marked "$obj" (textOr Value.cyclic.describe)
  | v => v

/-- A list of data as JSON. -/
def writeAll : List Value → List Value
  | [] => []
  | v :: rest => write v :: writeAll rest

/-- The entries of a map as JSON. -/
def writeEntries : Entries → Entries
  | [] => []
  | (k, v) :: rest => (write k, write v) :: writeEntries rest

end

end QueryTelemetry.Marked
