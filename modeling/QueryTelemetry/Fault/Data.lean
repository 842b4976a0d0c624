import QueryTelemetry.Signature
import QueryTelemetry.Value.Marked

/-!
# Faults as data

A fault as named data shows its name, its text and, for the library's own errors, the message, the
details, the cause and the facts of the report. The errors can also be made by name.
-/

namespace QueryTelemetry

/-- The facts of a report. -/
def Report.toFields : Report Value → Fields
  | .general | .tracing => []
  | .configuration key | .missingSetting key => [("config_key", key)]
  | .invalidSetting key value expected =>
    [("config_key", key), ("value", value), ("expected", expected)]
  | .extension who event => [("extension", who), ("event", event)]
  | .contextSlot slot => [("slot", slot)]
  | .provider kind => [("provider_type", kind)]
  | .propagation operation propagator => [("operation", operation), ("propagator", propagator)]
  | .notInstalled feature => [("feature", feature)]

namespace Fault

mutual

/-- A fault as named data. -/
def toFields : Fault → Fields
  | .plain kind message =>
    [("error", .text kind.name), ("message", Marked.textOr (Fault.plain kind message).text)]
  | .reported report message details cause =>
    [("error", .text report.name),
      ("message", Marked.textOr (Fault.reported report message details cause).text),
      ("text", message), ("details", details), ("cause", causeToValue cause)] ++ report.toFields

/-- A cause that may be missing, as data. -/
def causeToValue : Option Fault → Value
  | none => .null
  | some f => Fields.toValue f.toFields

end

/-- A fault as data. -/
def toValue (f : Fault) : Value := Fields.toValue f.toFields

/-- A fault as named data, with its description and its families. -/
def toFullFields (f : Fault) : Fields :=
  f.toFields ++ [("repr", Marked.textOr f.describe), ("bases", .ofTexts f.lineage)]

open Parameter (must may)

/-- What the error of a name takes. Errors without facts of their own share the signature of the
general one. -/
def signature (name : String) : Signature :=
  let general := [may "details", may "cause"]
  let make (name : String) (places names : List Parameter) : Signature :=
    .of (name ++ ".__init__") places names
  match name with
  | "ConfigurationError" => make name [must "message"] (may "config_key" :: general)
  | "InvalidConfigValueError" =>
    make name [must "message"] ([must "config_key", may "value", may "expected"] ++ general)
  | "MissingConfigError" => make name [must "config_key"] [may "details"]
  | "ExtensionError" => make name [must "message"] ([must "extension", must "event"] ++ general)
  | "ContextSlotError" => make name [must "message"] [must "slot", may "details"]
  | "OTelProviderError" =>
    make name [must "message", may "provider_type", may "original_error", may "details"] []
  | "OTelContextError" =>
    make name [must "message", may "operation", may "propagator", may "original_error", may "details"] []
  | "OTelNotInstalledError" => make name [may "feature", may "details"] []
  | _ => make "GraphQLExtensionError" [must "message"] general

/-- The error of a name, made with some arguments by position and others by name. -/
def ofName (name : String) (args : List Value) (named : Fields) : Except Fault Fault := do
  let given ← (signature name).bind args named
  let arg := given.get
  let make (r : Report Value) : Except Fault Fault :=
    Fault.report r (arg "message") (arg "details") (arg "cause").asFault?
  match name with
  | "ConfigurationError" => make (.configuration (arg "config_key"))
  | "InvalidConfigValueError" =>
    make (.invalidSetting (arg "config_key") (arg "value") (arg "expected"))
  | "MissingConfigError" => do
    let key ← (arg "config_key").toText
    Fault.report (.missingSetting (arg "config_key"))
      (.text ("Missing required configuration: " ++ key)) (arg "details") none
  | "ExtensionError" => make (.extension (arg "extension") (arg "event"))
  | "ContextSlotError" => make (.contextSlot (arg "slot"))
  | "OTelError" => make .tracing
  | "OTelProviderError" =>
    Fault.report (.provider (arg "provider_type")) (arg "message") (arg "details")
      (arg "original_error").asFault?
  | "OTelContextError" =>
    Fault.report (.propagation (arg "operation") (arg "propagator")) (arg "message")
      (arg "details") (arg "original_error").asFault?
  | "OTelNotInstalledError" => do
    let message ← notInstalledMessage (arg "feature")
    Fault.report (.notInstalled (arg "feature")) (.text message) (arg "details") none
  | _ => make .general

/-- A general error made from a fault with more details, given by name. -/
def withNamed (f : Fault) (named : Fields) : Except Fault Fault := do
  let signature : Signature :=
    { callee := "GraphQLExtensionError.with_context", places := [], names := []
      morePlaces := false, moreNames := true }
  let given ← signature.bind [] named
  f.withContext given.named

end Fault

end QueryTelemetry
