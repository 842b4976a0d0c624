import QueryTelemetry.Log.Level
import QueryTelemetry.Value.Basic

/-!
# The host's logging facility

The program that embeds the library has a logging facility of its own. The tracing layer writes to
it directly, and a handler can forward records to it. What reaches it is a plain message with a
level, the name of a logger and at most one fault.
-/

namespace QueryTelemetry.Log

/-- A message for the host's logging facility. -/
structure HostRecord where
  logger : String
  level : Level
  message : String
  exc : Option Fault

namespace HostRecord

/-- A message without a fault. -/
def plain (logger : String) (level : Level) (message : String) : HostRecord :=
  { logger, level, message, exc := none }

end HostRecord

end QueryTelemetry.Log
