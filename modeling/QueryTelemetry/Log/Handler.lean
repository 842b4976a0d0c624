import QueryTelemetry.Log.Format
import QueryTelemetry.Log.Host

/-!
# Handlers

A handler is a destination of records. A buffer keeps the latest ones, a stream handler writes them
as lines, a host handler forwards them to the host's logging facility, and a relay hands them over
as they are. Handling a record may fail; what a handler does with a failure of its stream is its
own affair, any other failure goes back to the logger.
-/

namespace QueryTelemetry.Log

/-- What leaves the library when something is logged. -/
inductive Emission where
  | host (r : HostRecord)
  | errorStream (text : String)
  | record (r : Record)

/-- The message for the host, if that is what leaves. -/
def Emission.host? : Emission → Option HostRecord
  | .host r => some r
  | _ => none

/-- The text for the error stream, if that is what leaves. -/
def Emission.errorText : Emission → String
  | .errorStream text => text
  | _ => ""

/-- Where a stream handler writes. -/
inductive Sink where
  | memory (text : String)
  | failing
  | errorStream

/-- Write a line. A failing sink loses it. -/
def Sink.write : Sink → String → Sink × List Emission
  | memory text, line => (memory (text ++ line), [])
  | failing, _ => (failing, [])
  | errorStream, line => (errorStream, [.errorStream line])

/-- A destination of records. -/
inductive Handler where
  | buffer (capacity : Nat) (records : List Record)
  | stream (sink : Sink) (format : Format) (least : Level) (closed : Bool)
  | host (logger : Option String) (masker : Masker)
  | relay
  | failing

namespace Handler

/-- The bound of what can be a number of records. -/
def capacityBound : Int := 9223372036854775808

/-- A buffer for a number of records, which must not be negative or beyond the bound. -/
def bufferOf (capacity : Int) : Except Fault Handler :=
  if capacity < -capacityBound ∨ capacityBound ≤ capacity then
    .error (.plain .overflow "Python int too large to convert to C ssize_t")
  else if capacity < 0 then .error (.ofValue "maxlen must be non-negative")
  else .ok (buffer capacity.toNat [])

/-- The last entries of a list, at most `n`. -/
def latest {α : Type} (n : Nat) (l : List α) : List α := l.drop (l.length - n)

theorem length_latest {α : Type} (n : Nat) (l : List α) : (latest n l).length = min n l.length := by
  rw [latest, List.length_drop]
  omega

theorem latest_of_length_le {α : Type} {n : Nat} {l : List α} (h : l.length ≤ n) :
    latest n l = l := by
  rw [latest, Nat.sub_eq_zero_of_le h, List.drop_zero]

/-- What a buffer forgot earlier makes no difference to what it keeps later. -/
theorem latest_latest_append {α : Type} (n : Nat) (l more : List α) :
    latest n (latest n l ++ more) = latest n (l ++ more) := by
  rcases Nat.le_total l.length n with h | h
  · rw [latest_of_length_le h]
  · have kept : (latest n l ++ more).length - n = more.length := by
      rw [List.length_append, length_latest]
      omega
    have all : (l ++ more).length - n = (l.length - n) + more.length := by
      rw [List.length_append]
      omega
    rw [latest.eq_def n (latest n l ++ more), kept, latest.eq_def n (l ++ more), all,
      ← List.drop_drop, List.drop_append_of_le_length (Nat.sub_le ..), latest]

/-- The name that the host gives to a logger; the one without a name is its root. -/
def hostName (name : String) : String := if name.isEmpty then "root" else name

/-- The fault that the host shows for what a record was given as one: a fault itself, or the second
part of a tuple. Anything else shows none. -/
def faultShown : Value → Option Fault
  | .fault f => some f
  | .tuple (_ :: .fault f :: _) => some f
  | _ => none

/-- A record as a message for the host, with its masked fields after a bar. -/
def toHost (logger : Option String) (masker : Masker) (r : Record) : Except Fault HostRecord := do
  let fields ← masker.maskFields r.fields
  let shown ← keyValues fields
  .ok { logger := hostName (logger.getD r.logger), level := r.level
        message := if fields.isEmpty then r.message else r.message ++ " | " ++ shown
        exc := r.exc.bind faultShown }

/-- Handle a record: the handler afterwards, and what leaves through it. -/
def handle : Handler → Record → Except Fault (Handler × List Emission)
  | buffer capacity records, r => .ok (buffer capacity (latest capacity (records ++ [r])), [])
  | stream sink format least closed, r =>
    if closed || !least.passes r.level then .ok (stream sink format least closed, [])
    else
      match format.render r with
      | .error _ => .ok (stream sink format least closed, [])
      | .ok line =>
        let (sink, out) := sink.write (line ++ "\n")
        .ok (stream sink format least closed, out)
  | host logger masker, r => do
    let shown ← toHost logger masker r
    .ok (host logger masker, [.host shown])
  | relay, r => .ok (relay, [.record r])
  | failing, _ => .error (.ofRuntime "broken handler")

/-- Close a handler: a buffer loses its records, a stream takes no more of them. -/
def close : Handler → Handler
  | buffer capacity _ => buffer capacity []
  | stream sink format least _ => stream sink format least true
  | h => h

/-- Drop the records of a buffer. -/
def clear : Handler → Handler
  | buffer capacity _ => buffer capacity []
  | h => h

/-- The records of a buffer. -/
def records : Handler → List Record
  | buffer _ records => records
  | _ => []

/-- The text that a stream handler has written to memory. -/
def output : Handler → String
  | stream (.memory text) .. => text
  | _ => ""

end Handler

end QueryTelemetry.Log
