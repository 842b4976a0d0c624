import QueryTelemetry.Request.Event

/-!
# The lifecycle of a request

A request passes through stages in a fixed order, and may end in any of them. Most events move it
to a stage of their own; resolutions and errors leave it where it is. Each event fits some stages
only. An event that does not fit is reported, and moves the request all the same.
-/

namespace QueryTelemetry.Request

/-- How far a request has come. -/
inductive Stage where
  | idle
  | started
  | parsing
  | parsed
  | validating
  | validated
  | executing
  | executed
  | ended
deriving DecidableEq, Repr

namespace Stage

/-- All stages in their order. -/
def all : List Stage :=
  [idle, started, parsing, parsed, validating, validated, executing, executed, ended]

/-- The name of a stage. -/
def name : Stage → String
  | idle => "IDLE"
  | started => "STARTED"
  | parsing => "PARSING"
  | parsed => "PARSED"
  | validating => "VALIDATING"
  | validated => "VALIDATED"
  | executing => "EXECUTING"
  | executed => "EXECUTED"
  | ended => "ENDED"

/-- The place of a stage in their order, from one. -/
def number : Stage → Nat
  | idle => 1
  | started => 2
  | parsing => 3
  | parsed => 4
  | validating => 5
  | validated => 6
  | executing => 7
  | executed => 8
  | ended => 9

/-- Whether no further events are expected. -/
def isTerminal (s : Stage) : Bool := s == ended

end Stage

namespace Event

/-- The stages that an event fits. -/
def stages : Event → List Stage
  | start => [.idle]
  | parseStart .. => [.started]
  | parseEnd _ => [.parsing]
  | validationStart => [.parsed]
  | validationEnd .. => [.validating]
  | executionStart => [.validated]
  | executionEnd => [.executing]
  | resolveStart _ | resolveEnd _ => [.executing]
  | error _ => [.validating, .validated, .executing, .executed]
  | finish => Stage.all.filter (!·.isTerminal)

/-- The stage that an event moves a request to. -/
def target? : Event → Option Stage
  | start => some .started
  | parseStart .. => some .parsing
  | parseEnd _ => some .parsed
  | validationStart => some .validating
  | validationEnd .. => some .validated
  | executionStart => some .executing
  | executionEnd => some .executed
  | resolveStart _ | resolveEnd _ | error _ => none
  | finish => some .ended

/-- Whether an event fits a stage. -/
def fits (e : Event) (s : Stage) : Bool := e.stages.contains s

/-- The stage of a request after an event. -/
def next (e : Event) (s : Stage) : Stage := e.target?.getD s

theorem fits_finish_iff (s : Stage) : finish.fits s = true ↔ s ≠ .ended := by
  cases s <;> decide

end Event

end QueryTelemetry.Request
