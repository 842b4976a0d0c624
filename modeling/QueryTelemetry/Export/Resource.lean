import QueryTelemetry.Settings.Tracing
import QueryTelemetry.Text.Case

/-!
# Resources

A resource says what produces telemetry: attributes of the service and of the host it runs on. All
attributes have names, and values of a few simple kinds; sequences become fixed ones, and whatever
is not simple becomes its text. A service is never without a name.
-/

namespace QueryTelemetry.Export

/-- Attributes of what produces telemetry. -/
structure Resource where
  attributes : Fields

/-- The host and the process that telemetry comes from. -/
structure Host where
  name : String
  machine : String
  system : String
  runtime : String
  runtimeVersion : String
  processId : Nat

/-- The attributes of a host. -/
def Host.toFields (h : Host) : Fields :=
  [("host.name", .text h.name), ("host.arch", .text h.machine),
    ("os.type", .text (Text.lower h.system)), ("process.runtime.name", .text h.runtime),
    ("process.runtime.version", .text h.runtimeVersion), ("process.pid", .int h.processId)]

namespace Resource

mutual

/-- The value of an attribute in simple kinds. -/
def simplify : Value → Except Fault Value
  | .list items => .tuple <$> simplifyAll items
  | .tuple items => .tuple <$> simplifyAll items
  | .dict entries => do
    let simple ← simplifyEntries entries
    .ok (Fields.toValue (Assoc.overlay [] simple))
  | .null => .ok .null
  | .bool b => .ok (.bool b)
  | .int n => .ok (.int n)
  | .float x => .ok (.float x)
  | .text s => .ok (.text s)
  | .bytes b => .ok (.bytes b)
  | v => .text <$> v.toText

/-- A list of values in simple kinds. -/
def simplifyAll : List Value → Except Fault (List Value)
  | [] => .ok []
  | v :: rest => do
    let first ← simplify v
    let others ← simplifyAll rest
    .ok (first :: others)

/-- The entries of a map in simple kinds, each under the text of its key. Those whose keys are
empty, or otherwise not given, are left out. -/
def simplifyEntries : Entries → Except Fault Fields
  | [] => .ok []
  | (k, v) :: rest =>
    if k.isGiven then do
      let name ← k.toText
      let item ← simplify v
      let others ← simplifyEntries rest
      .ok ((name, item) :: others)
    else simplifyEntries rest

end

/-- A resource of just these attributes. -/
def ofEntries (attributes : Entries) : Except Fault Resource := do
  let simple ← simplifyEntries attributes
  .ok { attributes := Assoc.overlay [] simple }

/-- The attribute with the name of a service. -/
def serviceName : String := "service.name"

/-- Whether a resource names its service. -/
def isNamed (r : Resource) : Bool :=
  ((Assoc.get? r.attributes serviceName).map Value.isGiven).getD false

/-- Two resources in one; the second wins. -/
def merge (r s : Resource) : Resource :=
  { attributes := Assoc.overlay r.attributes s.attributes }

/-- A resource whose service has a name; one without a name is an unknown one. -/
def named (r : Resource) : Resource :=
  if r.isNamed then r else r.merge { attributes := [(serviceName, .text "unknown_service")] }

/-- A resource of some attributes, with a name for the service. -/
def create (attributes : Entries) : Except Fault Resource := named <$> ofEntries attributes

/-- The resource of a service, on a host if that is to be described too. What is said about the
service wins. -/
def ofService (s : Settings.Service) (host : Option Host) : Except Fault Resource :=
  create (Assoc.overlay ((host.map Host.toFields).getD []).toEntries s.toAttributes)

/-- A resource without attributes of its own. -/
def empty : Resource := named { attributes := [] }

/-- Some resources in one; later ones win. -/
def mergeAll : List Resource → Resource
  | [] => empty
  | r :: rest => rest.foldl merge r

end Resource

end QueryTelemetry.Export
