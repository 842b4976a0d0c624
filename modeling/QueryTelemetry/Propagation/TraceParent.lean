import QueryTelemetry.Propagation.Header
import QueryTelemetry.Trace.Context

/-!
# The trace-parent header

The header has a version, a trace id, a span id and flags, all in hexadecimal with small letters
and joined by hyphens, with blanks allowed around it. Later versions may add parts behind another
hyphen. `TraceParent.write` writes version zero, and `TraceParent.read` reads any version but the
last, whose number stands for no version.
-/

namespace QueryTelemetry.Propagation

/-- The name of the header. -/
def TraceParent.headerName : String := "traceparent"

/-- A header of this length is read; a longer one is not. -/
def TraceParent.longest : Nat := 512

/-- The parts of the header. -/
structure TraceParent where
  version : Nat
  traceId : Nat
  spanId : Nat
  flags : Nat
  extended : Bool
deriving DecidableEq, Repr

namespace TraceParent

/-- Whether a character separates nothing but the header from what is around it. -/
def isSpace (c : Char) : Bool := c == ' ' || c == '\t'

/-- The value of a digit of the header. -/
def digit? (c : Char) : Option Nat :=
  if c.isDigit || (decide ('a' ≤ c) && decide (c ≤ 'f')) then Text.hexValue? c else none

/-- The number that the next `count` digits write, after the value `n` of those before, and the
rest. -/
def takeHex : Nat → Nat → List Char → Option (Nat × List Char)
  | 0, n, cs => some (n, cs)
  | _ + 1, _, [] => none
  | count + 1, n, c :: cs => do
    let d ← digit? c
    takeHex count (16 * n + d) cs

/-- The text after a hyphen. -/
def takeHyphen : List Char → Option (List Char)
  | '-' :: rest => some rest
  | _ => none

/-- The text without one line break at its end. -/
def dropLineBreak (cs : List Char) : List Char :=
  if cs.getLast? = some '\n' then cs.dropLast else cs

/-- What follows the flags: nothing but blanks, or further parts on the same line. -/
def extended? (cs : List Char) : Option Bool :=
  match dropLineBreak cs with
  | '-' :: rest => if rest.contains '\n' then none else some true
  | rest => if rest.all isSpace then some false else none

/-- The parts of a header. -/
def parts? (s : String) : Option TraceParent := do
  let (version, rest) ← takeHex 2 0 (s.toList.dropWhile isSpace)
  let rest ← takeHyphen rest
  let (traceId, rest) ← takeHex 32 0 rest
  let rest ← takeHyphen rest
  let (spanId, rest) ← takeHex 16 0 rest
  let rest ← takeHyphen rest
  let (flags, rest) ← takeHex 2 0 rest
  let extended ← extended? rest
  some { version, traceId, spanId, flags, extended }

/-- Whether the parts may be used: the version is one, version zero has no further parts, and
neither id is zero. -/
def isUsable (p : TraceParent) : Bool :=
  p.version != 255 && !(p.version == 0 && p.extended) && p.traceId != 0 && p.spanId != 0

/-- What a header says, if it can be used. -/
def read (s : String) : Option TraceParent := (parts? s).filter isUsable

/-- The identity that the parts give to a remote span. -/
def toIdentity (p : TraceParent) (state : List (String × String)) : Trace.Identity :=
  { traceId := p.traceId, spanId := p.spanId, flags := p.flags, remote := true, state }

/-- The header of an identity. -/
def write (i : Trace.Identity) : String :=
  "00-" ++ i.traceText ++ "-" ++ i.spanText ++ "-" ++ Text.hex 2 i.flags

end TraceParent

end QueryTelemetry.Propagation
