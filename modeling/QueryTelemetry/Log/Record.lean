import QueryTelemetry.Log.Context
import QueryTelemetry.Log.Level
import QueryTelemetry.Value.Text

/-!
# Log records

A record is one structured log line. As a map it shows the time, the level, the logger and the
message first, then the fields of the context, then its own fields, and last the fault that it
reports. A later field takes the place of an earlier one of the same name.
-/

namespace QueryTelemetry.Log

/-- A point in time, in universal time. -/
structure Timestamp where
  year : Nat
  month : Nat
  day : Nat
  hour : Nat
  minute : Nat
  second : Nat
  microsecond : Nat
deriving DecidableEq, Repr

/-- A number with leading zeros. -/
def padded (width n : Nat) : String :=
  let digits := Nat.toDigits 10 n
  String.ofList (List.replicate (width - digits.length) '0' ++ digits)

/-- A point in time as text; a whole second has no fraction. -/
def Timestamp.render (t : Timestamp) : String :=
  let fraction := if t.microsecond = 0 then "" else "." ++ padded 6 t.microsecond
  padded 4 t.year ++ "-" ++ padded 2 t.month ++ "-" ++ padded 2 t.day ++ "T" ++
    padded 2 t.hour ++ ":" ++ padded 2 t.minute ++ ":" ++ padded 2 t.second ++ fraction ++ "+00:00"

/-- One structured log line. `exc` is the fault, or whatever else was given in its place. -/
structure Record where
  level : Level
  message : String
  logger : String
  timestamp : Timestamp
  context : Context
  extra : Fields
  exc : Option Value

namespace Record

/-- The fields of the context and of the record itself. -/
def fields (r : Record) : Fields := Assoc.overlay r.context.toFields r.extra

/-- The record as a map without the fault that it reports. -/
def headFields (r : Record) : Fields :=
  Assoc.overlay
    (Assoc.overlay
      [("timestamp", .text r.timestamp.render), ("level", .text r.level.name),
        ("logger", .text r.logger), ("message", .text r.message)]
      r.context.toFields)
    r.extra

/-- The record as a map. The fault that it reports must have a text. -/
def toFields (r : Record) : Except Fault Fields :=
  match r.exc with
  | none => .ok r.headFields
  | some v => do
    let shown ← v.toText
    .ok (Assoc.put (Assoc.put r.headFields "exception_type" (.text v.kind)) "exception" (.text shown))

end Record

end QueryTelemetry.Log
