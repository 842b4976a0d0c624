import QueryTelemetry.Assoc
import QueryTelemetry.Trace.Slot

/-!
# Data and faults

`Value` is the data that callers pass through the library: query variables, log fields, header
values, error details. It is JSON-like data with a few more kinds: bytes, fixed sequences, maps
with keys of any kind, settings and the choices among them, faults, query errors and opaque objects,
of which some have no text.

`Fault` is a failure. A plain fault has a kind and a message; a reported fault is one of the
library's own errors, with its details and the failure that caused it. Callers can make reported
faults of any data, so all their parts are values. A fault can be logged and stored like other data,
so the two types refer to each other.
-/

namespace QueryTelemetry

/-- The kind of a plain fault. `foreign` stands for kinds that only callers raise. -/
inductive FaultKind where
  | value
  | type
  | key
  | attribute
  | runtime
  | overflow
  | assertion
  | recursion
  | index
  | pattern
  | foreign (name : String)
deriving DecidableEq, Repr

/-- What one of the library's own errors reports, with the facts that callers may ask for. -/
inductive Report (α : Type) where
  | general
  | configuration (key : α)
  | invalidSetting (key value expected : α)
  | missingSetting (key : α)
  | extension (extension event : α)
  | contextSlot (slot : α)
  | tracing
  | provider (kind : α)
  | propagation (operation propagator : α)
  | notInstalled (feature : α)

mutual

/-- Data that passes through the library. -/
inductive Value where
  | null
  | bool (b : Bool)
  | int (n : Int)
  | float (x : Float)
  | text (s : String)
  | bytes (bytes : List UInt8)
  | list (items : List Value)
  | tuple (items : List Value)
  /-- A map in the order of its keys. -/
  | dict (entries : List (Value × Value))
  | slot (s : Trace.Slot)
  /-- One of the choices of a kind: the name of the kind, the name of the choice, and what it stands
  for. -/
  | choice (kind name : String) (content : Value)
  /-- Settings of a kind, by the names of their parts. -/
  | settings (kind : String) (parts : List (String × Value))
  | fault (f : Fault)
  /-- A query-level error: its message, the response path, the source positions and extra data. -/
  | queryError (message : String) (path locations : List Value) (extensions : Value)
  /-- An opaque object: the name of its kind, its text and its description. -/
  | object (kind shown description : String)
  /-- An opaque object whose text raises a fault. -/
  | textless (kind description : String) (f : Fault)
  /-- A map that holds itself. -/
  | cyclic

/-- A failure. -/
inductive Fault where
  | plain (kind : FaultKind) (message : String)
  | reported (report : Report Value) (message details : Value) (cause : Option Fault)

end

/-- Named data in order: log fields, span attributes, parts of settings. -/
abbrev Fields := List (String × Value)

/-- The entries of a map in order. -/
abbrev Entries := List (Value × Value)

instance : Inhabited Value := ⟨.null⟩

instance : Inhabited Fault := ⟨.plain .runtime ""⟩

/-- Named data as entries. -/
def Fields.toEntries (fields : Fields) : Entries := fields.map fun e => (.text e.1, e.2)

/-- Named data as a value. -/
def Fields.toValue (fields : Fields) : Value := .dict fields.toEntries

/-- The name of a kind of plain fault. -/
def FaultKind.name : FaultKind → String
  | .value => "ValueError"
  | .type => "TypeError"
  | .key => "KeyError"
  | .attribute => "AttributeError"
  | .runtime => "RuntimeError"
  | .overflow => "OverflowError"
  | .assertion => "AssertionError"
  | .recursion => "RecursionError"
  | .index => "IndexError"
  | .pattern => "error"
  | .foreign name => name

/-- The kind of plain fault of a name. Some kinds have further names. -/
def FaultKind.ofName (name : String) : FaultKind :=
  let name := if ["IOError", "EnvironmentError"].contains name then "OSError" else name
  let known : List FaultKind :=
    [.value, .type, .key, .attribute, .runtime, .overflow, .assertion, .recursion, .index]
  (known.find? (·.name == name)).getD (.foreign name)

/-- The name of a kind of report. -/
def Report.name {α : Type} : Report α → String
  | .general => "GraphQLExtensionError"
  | .configuration _ => "ConfigurationError"
  | .invalidSetting .. => "InvalidConfigValueError"
  | .missingSetting _ => "MissingConfigError"
  | .extension .. => "ExtensionError"
  | .contextSlot _ => "ContextSlotError"
  | .tracing => "OTelError"
  | .provider _ => "OTelProviderError"
  | .propagation .. => "OTelContextError"
  | .notInstalled _ => "OTelNotInstalledError"

/-- The names of the families that a report belongs to, the narrowest first. -/
def Report.lineage {α : Type} (r : Report α) : List String :=
  let family := match r with
    | .general => []
    | .invalidSetting .. | .missingSetting _ => [r.name, "ConfigurationError"]
    | .provider _ | .propagation .. | .notInstalled _ => [r.name, "OTelError"]
    | _ => [r.name]
  family ++ ["GraphQLExtensionError", "Exception", "BaseException"]

/-- The name of a fault. -/
def Fault.name : Fault → String
  | .plain kind _ => kind.name
  | .reported report .. => report.name

/-- The name of the kind of a value. -/
def Value.kind : Value → String
  | .null => "NoneType"
  | .bool _ => "bool"
  | .int _ => "int"
  | .float _ => "float"
  | .text _ => "str"
  | .bytes _ => "bytes"
  | .list _ => "list"
  | .tuple _ => "tuple"
  | .dict _ | .cyclic => "dict"
  | .slot (.field _) => "FieldSlot"
  | .slot _ => "Phase"
  | .choice kind .. => kind
  | .settings kind _ => kind
  | .fault f => f.name
  | .queryError .. => "ServerError"
  | .object kind .. => kind
  | .textless kind .. => kind

/-- Whether a value counts as given: it is not null, not false, not zero and not empty. -/
def Value.isGiven : Value → Bool
  | .null => false
  | .bool b => b
  | .int n => n != 0
  | .float x => x != 0.0
  | .text s => !s.isEmpty
  | .bytes b => !b.isEmpty
  | .list items => !items.isEmpty
  | .tuple items => !items.isEmpty
  | .dict entries => !entries.isEmpty
  | _ => true

/-- A text that may be missing, as a value. -/
def Value.ofText? : Option String → Value
  | some s => .text s
  | none => .null

end QueryTelemetry
