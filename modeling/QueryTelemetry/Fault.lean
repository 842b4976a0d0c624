import QueryTelemetry.Value.Keys
import QueryTelemetry.Value.Text

/-!
# The library's own errors

A reported error is made from what it reports, its message, the details that the caller gives and
the cause. Errors about configuration, extensions and slots add their facts to the details; the
others keep the details as they are. One function for each error that the library itself reports
makes it without further details. `withContext` makes a general error from any reported one, with
more details.
-/

namespace QueryTelemetry.Fault

/-- A value that is wrong for its use. -/
def ofValue (message : String) : Fault := .plain .value message

/-- A value of the wrong kind. -/
def ofType (message : String) : Fault := .plain .type message

/-- A failure at run time. -/
def ofRuntime (message : String) : Fault := .plain .runtime message

/-- A plain fault of a kind, given by its name, with a message. Faults of some kinds cannot be made
from a message alone. -/
def plainOf (name message : String) : Except Fault Fault :=
  let lacking (maker : String) (count : Nat) : Except Fault Fault :=
    .error (ofType s!"{maker} takes exactly {count} arguments (1 given)")
  match name with
  | "UnicodeDecodeError" | "UnicodeEncodeError" => lacking "function" 5
  | "UnicodeTranslateError" => lacking "function" 4
  | "ExceptionGroup" | "BaseExceptionGroup" => lacking "BaseExceptionGroup.__new__()" 2
  | _ => .ok (.plain (.ofName name) message)

/-- The fault that comes of raising one of a kind with a message. -/
def raised (name message : String) : Fault :=
  match plainOf name message with
  | .ok f | .error f => f

/-- Something that an object of some kind does not have. -/
def absent (kind name : String) : Fault :=
  .plain .attribute s!"'{kind}' object has no attribute '{name}'"

/-- The facts that a report adds to the details of its error. -/
def facts (report : Report Value) : Except Fault Fields :=
  let ofKey (key : Value) : Fields := if key.isGiven then [("config_key", key)] else []
  match report with
  | .configuration key | .missingSetting key => .ok (ofKey key)
  | .invalidSetting key value expected =>
    .ok ([("value", value)] ++ (if expected.isGiven then [("expected", expected)] else []) ++ ofKey key)
  | .extension extension event => .ok [("extension", extension), ("event", event)]
  | .contextSlot slot => do
    let shown ← slot.toText
    .ok [("slot", .text shown)]
  | _ => .ok []

/-- Details with facts written into them; details that are not given are an empty map. -/
def detailed (details : Value) (facts : Fields) : Except Fault Value :=
  facts.foldlM (fun details e => details.withEntry e.1 e.2)
    (if details.isGiven then details else .dict [])

/-- The error of a report with the details that the caller gives. -/
def report (r : Report Value) (message details : Value) (cause : Option Fault) :
    Except Fault Fault := do
  let added ← facts r
  let details ← detailed details added
  .ok (.reported r message details cause)

/-- An error without details. -/
def bare (r : Report Value) (message : String) (cause : Option Fault) : Fault :=
  .reported r (.text message) (.dict []) cause

/-- A setting whose value cannot be used. -/
def invalidSetting (message key : String) (value : Value) (expected : String)
    (cause : Option Fault) : Fault :=
  let details : Fields :=
    [("value", value), ("expected", .text expected), ("config_key", .text key)]
  .reported (.invalidSetting (.text key) value (.text expected)) (.text message) details.toValue cause

/-- A required setting that is missing. -/
def missingSetting (key : String) : Fault :=
  let details : Fields := if key.isEmpty then [] else [("config_key", .text key)]
  .reported (.missingSetting (.text key)) (.text ("Missing required configuration: " ++ key))
    details.toValue none

/-- A slot that was entered while it was live. -/
def contextSlot (message : String) (slot : Trace.Slot) : Fault :=
  let details : Fields := [("slot", .text slot.label)]
  .reported (.contextSlot (.slot slot)) (.text message) details.toValue none

/-- A tracer provider that cannot be set up or used. -/
def provider (message kind : String) (cause : Fault) : Fault :=
  bare (.provider (.text kind)) message (some cause)

/-- A failed transfer of a context to or from a carrier. -/
def propagation (message operation propagator : String) (cause : Fault) : Fault :=
  bare (.propagation (.text operation) (.text propagator)) message (some cause)

/-- What to do about a missing optional package. -/
def installAdvice : String :=
  "OpenTelemetry OTLP exporter is not installed. Install with: pip install gqlext[otlp]"

/-- The message about the missing package of a feature. -/
def notInstalledMessage (feature : Value) : Except Fault String :=
  if feature.isGiven then do
    let shown ← feature.toText
    .ok ("Feature '" ++ shown ++ "' requires an optional package. " ++ installAdvice)
  else .ok installAdvice

/-- A feature whose optional package is missing. -/
def notInstalled (feature : String) : Fault :=
  bare (.notInstalled (.text feature))
    ("Feature '" ++ feature ++ "' requires an optional package. " ++ installAdvice) none

/-- The message of a fault, without its details. -/
def message : Fault → Value
  | .plain _ m => .text m
  | .reported _ m _ _ => m

/-- The details of a reported fault. -/
def details : Fault → Value
  | .plain .. => .dict []
  | .reported _ _ d _ => d

/-- The failure that caused a reported fault. -/
def cause : Fault → Option Fault
  | .plain .. => none
  | .reported _ _ _ c => c

/-- A general error with the message and the cause of a fault and with more details; the fault
itself stays as it is. Its details must be a map. -/
def withContext (f : Fault) (more : Fields) : Except Fault Fault :=
  match f.details with
  | .dict entries =>
    .ok (.reported .general f.message (.dict (Assoc.overlay entries more.toEntries)) f.cause)
  | .cyclic =>
    let entries := [(.text "self", .cyclic)]
    .ok (.reported .general f.message (.dict (Assoc.overlay entries more.toEntries)) f.cause)
  | v => .error (ofType s!"'{v.kind}' object is not a mapping")

/-- What becomes of the details that a caller handed over: those that are given show what the fault
added, others are left alone. -/
def handedDetails (given : Value) (made : Fault) : Value :=
  if given.isGiven then made.details else given

/-- The names of the families of a fault, the narrowest first. -/
def lineage : Fault → List String
  | .plain kind _ => [kind.name, "Exception", "BaseException"]
  | .reported report .. => report.lineage

end QueryTelemetry.Fault
