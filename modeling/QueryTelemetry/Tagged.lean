import QueryTelemetry.Log.Data
import QueryTelemetry.Settings.Data
import QueryTelemetry.Settings.Environment
import QueryTelemetry.Text.Hexadecimal
import QueryTelemetry.Trace.Data
import QueryTelemetry.Value.Mapping

/-!
# Tagged data

JSON lacks some kinds of data. In tagged form a map with the member `$t` stands for data of the
kind that it names, and `read` puts that data in its place. Content that does not fit the kind is
refused.
-/

namespace QueryTelemetry.Tagged

open Settings (Environment Exporter Protocol Compression Service Collector Batch)

/-- The bytes that a text writes in hexadecimal. -/
def bytesOf (text : String) : Except Fault Value :=
  match Text.readBytes text with
  | .ok bytes => .ok (.bytes bytes)
  | .error place =>
    .error (.ofValue s!"non-hexadecimal number found in fromhex() arg at position {place}")

/-- The fraction that a text writes. -/
def floatOf (text : String) : Except Fault Value :=
  match Text.readFloat text with
  | some x => .ok (.float x)
  | none => .error (Environment.fractionFault text)

/-- The map of some pairs. -/
def mapOf (pairs : List (Value × Value)) : Except Fault Value :=
  match pairs.findSome? fun e => e.1.unusableKey? with
  | some kind => .error (Value.unusableKey kind)
  | none => .ok (.dict (Assoc.overlay [] pairs))

/-- The data that a map with a tag stands for. A map whose tag is unknown stands for itself. -/
def interpret (v : Value) (tag : String) : Except Fault Value :=
  let content := v.entry "v"
  let text := v.textAt "v" ""
  let faultName := v.textAt "type" "Exception"
  match tag with
  | "tuple" => .ok (.tuple content.asItems)
  | "bytes" => bytesOf text
  | "float" => floatOf text
  | "dict" => mapOf (content.asItems.filterMap Value.asPair?)
  | "exc" => .fault <$> Fault.plainOf faultName text
  | "gexc" => .fault <$> Fault.report .general content (v.entry "details") none
  | "server_error" => .ok (.queryError text (v.itemsAt "path") [] (.dict []))
  | "obj" => .ok (.object "Obj" text (v.textAt "repr" ("<Obj " ++ text ++ ">")))
  | "badstr" => .ok (.textless "BadStr" "<BadStr>" (.raised faultName text))
  | "cycle" => .ok .cyclic
  | "slot" => .slot <$> Trace.Slot.ofValue content
  | "exporter" => Exporter.choices.toValue <$> Exporter.choices.ofValue content
  | "protocol" => Protocol.choices.toValue <$> Protocol.choices.ofValue content
  | "compression" => Compression.choices.toValue <$> Compression.choices.ofValue content
  | "level" => Log.Level.choices.toValue <$> Log.Level.named text
  | "resource" => Service.valueOf content.asFields
  | "otlp" => Collector.valueOf content.asFields
  | "batch" => Batch.valueOf content.asFields
  | _ => .ok v

mutual

/-- Data with every tagged map replaced by what it stands for, the inner ones first. -/
def read : Value → Except Fault Value
  | .list items => .list <$> readAll items
  | .dict entries => do
    let v ← Value.dict <$> readEntries entries
    match v.textAt? "$t" with
    | some tag => interpret v tag
    | none => .ok v
  | v => .ok v

/-- A list of data read. -/
def readAll : List Value → Except Fault (List Value)
  | [] => .ok []
  | v :: rest => do
    let first ← read v
    let others ← readAll rest
    .ok (first :: others)

/-- The entries of a map read. -/
def readEntries : Entries → Except Fault Entries
  | [] => .ok []
  | (k, v) :: rest => do
    let item ← read v
    let others ← readEntries rest
    .ok ((k, item) :: others)

end

end QueryTelemetry.Tagged
