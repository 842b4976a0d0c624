import QueryTelemetry.Decimal.Rounding
import QueryTelemetry.Fault

/-!
# Lengths of time

A length of time is given in seconds, as a whole number or a fraction, and is used in whole
seconds or milliseconds, cut toward zero.
-/

namespace QueryTelemetry.Settings

/-- A length of time in seconds. -/
inductive Seconds where
  | whole (n : Int)
  | fraction (x : Float)

namespace Seconds

/-- A length of time as data. -/
def toValue : Seconds → Value
  | whole n => .int n
  | fraction x => .float x

/-- A length of time as a fraction. -/
def toFloat : Seconds → Float
  | whole n => Decimal.ofDecimal (decide (n < 0)) n.natAbs 0
  | fraction x => x

/-- The time from one reading of a clock to a later one. Whole readings give a whole number. -/
def since : Seconds → Seconds → Seconds
  | whole n, whole m => whole (n - m)
  | later, earlier => fraction (later.toFloat - earlier.toFloat)

/-- A length of time in milliseconds, rounded to a thousandth. -/
def milliseconds : Seconds → Value
  | whole n => .int (n * 1000)
  | fraction x => .float (Decimal.roundTo 3 (x * 1000.0))

/-- The fault of cutting what is not finite. -/
def notFinite : Decimal.NotFinite → Fault
  | .infinity => .plain .overflow "cannot convert float infinity to integer"
  | .nan => .ofValue "cannot convert float NaN to integer"

/-- A length of time in whole seconds. -/
def inSeconds : Seconds → Except Fault Int
  | whole n => .ok n
  | fraction x => (Decimal.truncate x).mapError notFinite

/-- A length of time in whole milliseconds. -/
def inMilliseconds : Seconds → Except Fault Int
  | whole n => .ok (n * 1000)
  | fraction x => (Decimal.truncate (x * 1000.0)).mapError notFinite

end Seconds

end QueryTelemetry.Settings
