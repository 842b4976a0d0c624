import QueryTelemetry.Json.Printer
import QueryTelemetry.Log.Masker
import QueryTelemetry.Log.Record

/-!
# Record formats

A record is written either as a line of text, with its fields after a bar, or as a JSON map, which
is masked first. Writing fails where a part of the record has no text.
-/

namespace QueryTelemetry.Log

/-- Named data as pairs with an equals sign, separated by spaces. -/
def keyValues (fields : Fields) : Except Fault String := do
  let parts ← fields.mapM fun e => do
    let shown ← e.2.toText
    .ok (e.1 ++ "=" ++ shown)
  .ok (String.intercalate " " parts)

/-- How a record is written. -/
inductive Format where
  | text (withFields : Bool)
  | json (masker : Masker) (indent : Option Nat)

namespace Format

/-- The fields of a record after a bar, when it has any. -/
def fieldsPart (r : Record) : Except Fault String :=
  if r.fields.isEmpty then .ok ""
  else do
    let shown ← keyValues r.fields
    .ok (" | " ++ shown)

/-- The fault of a record after a bar, when it has one. -/
def excPart (r : Record) : Except Fault String :=
  match r.exc with
  | none => .ok ""
  | some v => do
    let shown ← v.describe
    .ok (" | exception=" ++ shown)

/-- A record as text. -/
def textLine (withFields : Bool) (r : Record) : Except Fault String := do
  let head := r.timestamp.render ++ " [" ++ r.level.name ++ "] " ++ r.logger ++ ": " ++ r.message
  let fields ← if withFields then fieldsPart r else .ok ""
  let exc ← excPart r
  .ok (head ++ fields ++ exc)

/-- A record as JSON. -/
def jsonLine (masker : Masker) (indent : Option Nat) (r : Record) : Except Fault String := do
  let fields ← r.toFields
  let masked ← masker.maskFields fields
  Json.print { indent, sorted := false } (Fields.toValue masked)

/-- A record in a format. -/
def render : Format → Record → Except Fault String
  | .text withFields, r => textLine withFields r
  | .json masker indent, r => jsonLine masker indent r

/-- The format of a name; every name but that of JSON means text. -/
def ofName (name : String) : Format :=
  if name == "json" then .json .standard none else .text true

end Format

end QueryTelemetry.Log
