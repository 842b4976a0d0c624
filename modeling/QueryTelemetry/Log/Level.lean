import QueryTelemetry.Text.Blank
import QueryTelemetry.Text.Case

/-!
# Severity levels

Five levels in rising order, each with the number that the host's logging facility gives it.
-/

namespace QueryTelemetry.Log

/-- How severe a record is. -/
inductive Level where
  | debug
  | info
  | warning
  | error
  | critical
deriving DecidableEq, Repr

namespace Level

/-- All levels in rising order. -/
def all : List Level := [debug, info, warning, error, critical]

/-- The number of a level. -/
def number : Level → Nat
  | debug => 10
  | info => 20
  | warning => 30
  | error => 40
  | critical => 50

/-- The name of a level. -/
def name : Level → String
  | debug => "DEBUG"
  | info => "INFO"
  | warning => "WARNING"
  | error => "ERROR"
  | critical => "CRITICAL"

/-- The level of a name. -/
def ofName? (s : String) : Option Level := all.find? (·.name == s)

/-- The level that a text names, whatever its case and the blanks around it; an unknown name means
`info`. -/
def parse (s : String) : Level :=
  (ofName? (String.ofList ((Text.trimChars s.toList).map Text.capital))).getD info

/-- Whether a record of level `l` passes the minimum `least`. -/
def passes (least l : Level) : Bool := decide (least.number ≤ l.number)

end Level

end QueryTelemetry.Log
