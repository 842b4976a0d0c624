import QueryTelemetry.Log.Handler

/-!
# Loggers

A logger gives every record its name, the fields of the open scopes and its own masking, and offers
it to its handlers in turn. A handler that fails does not keep the record from the others.

The registry holds all loggers and handlers, each known by its place. There is one logger for each
name that was asked for; a configuration applies to those loggers and to the ones asked for later,
but not to loggers that were made on their own.
-/

namespace QueryTelemetry.Log

/-- What records are logged through. The handlers are places in the registry. -/
structure Logger where
  name : String
  level : Level
  handlers : List Nat
  masker : Masker

namespace Logger

/-- Whether records of a level are logged at all. -/
def isEnabled (l : Logger) (level : Level) : Bool := l.level.passes level

/-- The logger with one more handler, unless it has it already. -/
def addHandler (l : Logger) (h : Nat) : Logger :=
  if l.handlers.contains h then l else { l with handlers := l.handlers ++ [h] }

/-- The logger without the first mention of a handler. -/
def removeHandler (l : Logger) (h : Nat) : Logger := { l with handlers := l.handlers.erase h }

/-- The name of the argument for the fault of a record. -/
def faultArgument : String := "exc_info"

/-- The method of a level in the words of a fault. -/
def method (level : Level) : String := Text.lower level.name

/-- The fault of naming a field like an argument of a method. -/
def givenTwice (method argument : String) : Fault :=
  .ofType ("ExtensionLogger." ++ method ++ "() got multiple values for argument " ++
    Text.quote argument)

/-- The named arguments of a call, of which no name may be taken: the first clash with the method of
the level counts, then one with the level itself. -/
def checkArguments (level : Level) (arguments : Fields) : Except Fault Unit :=
  match arguments.find? fun e => e.1 == "self" || e.1 == "message" with
  | some (name, _) => .error (givenTwice (method level) name)
  | none =>
    if Assoc.has arguments "level" then .error (givenTwice "_log" "level") else .ok ()

/-- What a call gives as the fault of the record. -/
def faultOf (arguments : Fields) : Option Value :=
  match Assoc.get? arguments faultArgument with
  | some .null => none
  | found => found

/-- The record of a call; the message and the fields that are logged must be maskable. -/
def record (l : Logger) (level : Level) (message : String) (arguments : Fields)
    (context : Context) (now : Timestamp) : Except Fault Record := do
  let message ← l.masker.maskString message
  let extra ← l.masker.maskFields (Assoc.remove arguments faultArgument)
  .ok { level, message, logger := l.name, timestamp := now
        context, extra, exc := faultOf arguments }

end Logger

/-- All loggers and handlers, the loggers by name, and what later loggers start with. -/
structure Registry where
  handlers : List Handler
  loggers : List Logger
  named : List (String × Nat)
  level : Level
  defaults : List Nat

namespace Registry

/-- The registry at the beginning: records go to the host. -/
def initial : Registry :=
  { handlers := [.host none .standard], loggers := [], named := [], level := .debug
    defaults := [0] }

/-- Add a handler: its place, and the registry with it. -/
def addHandler (g : Registry) (h : Handler) : Nat × Registry :=
  (g.handlers.length, { g with handlers := g.handlers ++ [h] })

/-- Add a logger of its own: its place, and the registry with it. -/
def addLogger (g : Registry) (l : Logger) : Nat × Registry :=
  (g.loggers.length, { g with loggers := g.loggers ++ [l] })

/-- The logger of a name. It is made when it is first asked for, with the given level or else the
one last configured. -/
def getLogger (g : Registry) (name : String) (level : Option Level) : Nat × Registry :=
  match Assoc.get? g.named name with
  | some i => (i, g)
  | none =>
    let (i, g') := g.addLogger
      { name, level := level.getD g.level, handlers := g.defaults, masker := .standard }
    (i, { g' with named := g.named ++ [(name, i)] })

/-- Change the logger of a place. -/
def updateLogger (g : Registry) (i : Nat) (f : Logger → Logger) : Registry :=
  { g with loggers := g.loggers.modify i f }

/-- Change the handler of a place. -/
def updateHandler (g : Registry) (i : Nat) (f : Handler → Handler) : Registry :=
  { g with handlers := g.handlers.modify i f }

/-- Give every named logger, and those to come, a level and handlers. -/
def install (g : Registry) (level : Level) (handlers : List Nat) : Registry :=
  let configured := (g.named.map (·.2)).foldl
    (fun (loggers : List Logger) i => loggers.modify i fun l => { l with level, handlers })
    g.loggers
  { g with level, defaults := handlers, loggers := configured }

/-- Configure the loggers. Without handlers a new one writes to the error stream, in the given
format. -/
def configure (g : Registry) (level : Level) (handlers : Option (List Nat)) (format : Format) :
    Registry :=
  match handlers with
  | some handlers => g.install level handlers
  | none =>
    let (i, g') := g.addHandler (.stream .errorStream format level false)
    g'.install level [i]

/-- Offer a record to the handler of a place. Nothing comes of a failure. -/
def offer (handlers : List Handler) (r : Record) (i : Nat) : List Handler × List Emission :=
  match handlers[i]? with
  | none => (handlers, [])
  | some h =>
    match h.handle r with
    | .ok (h, out) => (handlers.set i h, out)
    | .error _ => (handlers, [])

/-- Offer a record to the handlers of some places in turn. -/
def offerAll (handlers : List Handler) (r : Record) : List Nat → List Handler × List Emission
  | [] => (handlers, [])
  | i :: rest =>
    let (offered, out) := offer handlers r i
    let (done, more) := offerAll offered r rest
    (done, out ++ more)

/-- Asking for a name that is known changes nothing. -/
theorem getLogger_of_named {g : Registry} {name : String} {i : Nat}
    (h : Assoc.get? g.named name = some i) (level : Option Level) :
    g.getLogger name level = (i, g) := by
  rw [getLogger, h]

/-- Log a message through the logger of a place, under the fields of a context: the registry
afterwards, and what leaves the library. -/
def log (g : Registry) (i : Nat) (level : Level) (message : String) (arguments : Fields)
    (context : Context) (now : Timestamp) : Except Fault (Registry × List Emission) := do
  Logger.checkArguments level arguments
  match g.loggers[i]? with
  | none => .ok (g, [])
  | some l =>
    if l.isEnabled level then do
      let r ← l.record level message arguments context now
      let (handlers, out) := offerAll g.handlers r l.handlers
      .ok ({ g with handlers }, out)
    else .ok (g, [])

end Registry

end QueryTelemetry.Log
