import QueryTelemetry.Fault.Data
import QueryTelemetry.Log.Registry
import QueryTelemetry.Value.Choice

/-!
# Logging as data

Contexts, maskers, formats, handlers and records read from named data, and shown as such.
-/

namespace QueryTelemetry.Log

/-- The fields of a scope. -/
def Context.ofValue (v : Value) : Context :=
  { requestId := v.entry "request_id", operationName := v.entry "operation_name"
    extra := v.fieldsAt "extra" }

/-- A context as named data, whole and in its parts. -/
def Context.toFullFields (c : Context) : Fields :=
  [("dict", Fields.toValue c.toFields), ("request_id", c.requestId),
    ("operation_name", c.operationName), ("extra", Fields.toValue c.extra)]

/-- A pattern and a replacement, given as texts. -/
def ruleTexts? (v : Value) : Option (String × String) := do
  let (pattern, replacement) ← v.asPair?
  some (← pattern.asText?, ← replacement.asText?)

/-- A masker. -/
def Masker.ofValue (v : Value) : Except Fault Masker :=
  Masker.ofTexts (v.boolAt "enabled" true) ((v.itemsAt "patterns").filterMap ruleTexts?)
    (v.textsAt "keys")

/-- The masker that data describes, or the standard one when there is none. -/
def Masker.ofGiven (v : Value) (name : String) : Except Fault Masker :=
  match v.given? name with
  | some given => Masker.ofValue given
  | none => .ok .standard

/-- A format of records. -/
def Format.ofValue (v : Value) : Except Fault Format :=
  if v.textAt "kind" "text" == "json" then do
    let masker ← Masker.ofGiven v "masker"
    .ok (.json masker ((v.intAt? "indent").map Int.toNat))
  else .ok (.text (v.boolAt "include_fields" true))

/-- The number of days of a month. -/
def daysOf (year month : Int) : Int :=
  if month = 2 then if year % 4 = 0 ∧ (year % 100 ≠ 0 ∨ year % 400 = 0) then 29 else 28
  else if month = 4 ∨ month = 6 ∨ month = 9 ∨ month = 11 then 30
  else 31

/-- A point in time, given by its parts from the year down to the microsecond; the parts of the day
may be left out. -/
def Timestamp.ofParts (parts : List Int) : Except Fault Timestamp :=
  let part (i : Nat) : Int := (parts[i]?).getD 0
  let refuse (message : String) : Except Fault Timestamp := .error (.ofValue message)
  let lacking (name : String) : Except Fault Timestamp :=
    .error (.ofType s!"function missing required argument '{name}' (pos {parts.length + 1})")
  let year := part 0
  let month := part 1
  match parts.length with
  | 0 => lacking "year"
  | 1 => lacking "month"
  | 2 => lacking "day"
  | _ =>
    if year < 1 ∨ 9999 < year then refuse s!"year {year} is out of range"
    else if month < 1 ∨ 12 < month then refuse "month must be in 1..12"
    else if part 2 < 1 ∨ daysOf year month < part 2 then refuse "day is out of range for month"
    else if part 3 < 0 ∨ 23 < part 3 then refuse "hour must be in 0..23"
    else if part 4 < 0 ∨ 59 < part 4 then refuse "minute must be in 0..59"
    else if part 5 < 0 ∨ 59 < part 5 then refuse "second must be in 0..59"
    else if part 6 < 0 ∨ 999999 < part 6 then refuse "microsecond must be in 0..999999"
    else .ok {
      year := year.toNat, month := month.toNat, day := (part 2).toNat, hour := (part 3).toNat
      minute := (part 4).toNat, second := (part 5).toNat, microsecond := (part 6).toNat }

/-- The level of a name. -/
def Level.named (name : String) : Except Fault Level :=
  match ofName? name with
  | some level => .ok level
  | none => .error (.plain .key name)

/-- A record; without a time of its own it has the time `now`. -/
def Record.ofValue (now : Timestamp) (v : Value) : Except Fault Record := do
  let level ← Level.named (v.textAt "level" "INFO")
  let timestamp ← ((v.given? "timestamp").map fun t =>
    Timestamp.ofParts (t.asItems.filterMap Value.asInt?)).getD (.ok now)
  .ok {
    level, timestamp
    message := v.textAt "message" ""
    logger := v.textAt "logger" "t"
    context := .ofValue (v.entry "context")
    extra := v.fieldsAt "extra"
    exc := v.given? "exc" }

/-- The arguments of a scope that are not fields of their own. -/
def scopeArguments : List String := ["request_id", "operation_name"]

/-- A scope made of named arguments; all but the request id and the operation name are extra
fields. -/
def Scope.ofArguments (arguments : Fields) : Except Fault Scope :=
  if Assoc.has arguments "self" then
    .error (.ofType "LogContext.__init__() got multiple values for argument 'self'")
  else
    let given (name : String) : Value := (Assoc.get? arguments name).getD .null
    .ok (.ofFields
      { requestId := given "request_id", operationName := given "operation_name"
        extra := arguments.filter fun e => !scopeArguments.contains e.1 })

/-- The levels as a kind of choices. -/
def Level.choices : Choices Level :=
  { kind := "LogLevel", all, name, content := fun l => .ofNat l.number }

/-- A level, given as it is or as a text to be parsed. -/
def Level.ofValue? : Value → Option Level
  | .text s => some (.parse s)
  | v => choices.ofValue? v

/-- A handler of a kind. -/
def Handler.ofValue (v : Value) : Except Fault Handler :=
  match v.textAt "kind" "" with
  | "buffer" => bufferOf (v.intAt "capacity" 1000)
  | "stream" => do
    let sink := if v.boolAt "broken" false then Sink.failing else .memory ""
    let format ← Format.ofValue (v.entry "formatter")
    .ok (.stream sink format ((Level.ofValue? (v.entry "level")).getD .debug) false)
  | "stdlib" => do
    let masker ← Masker.ofGiven v "masker"
    .ok (.host (v.textAt? "logger") masker)
  | _ => .ok .failing

/-- What a record gives as its fault: a fault shown as such, other data as it is. -/
def excToValue : Option Value → Value
  | some (.fault f) => f.toValue
  | some v => v
  | none => .null

/-- A record as named data, in its parts. -/
def Record.toFullFields (r : Record) : Fields :=
  [("level", .text r.level.name), ("logger", .text r.logger), ("message", .text r.message),
    ("context", Fields.toValue r.context.toFields), ("extra", Fields.toValue r.extra),
    ("exc", excToValue r.exc)]

/-- A logger as named data. -/
def Logger.toFields (l : Logger) : Fields :=
  [("name", .text l.name), ("level", .text l.level.name), ("handlers", .ofNat l.handlers.length)]

/-- A message for the host as named data. -/
def HostRecord.toFields (r : HostRecord) : Fields :=
  [("via", .text "stdlib"), ("logger", .text r.logger), ("level", .ofNat r.level.number),
    ("message", .text r.message), ("exc", Fault.causeToValue r.exc)]

/-- What leaves through a log, as named data. -/
def Emission.toFields : Emission → Fields
  | .host r => r.toFields
  | .record r => ("via", .text "gqlext") :: r.toFullFields
  | .errorStream text => [("text", .text text)]

end QueryTelemetry.Log
