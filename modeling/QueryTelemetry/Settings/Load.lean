import QueryTelemetry.Settings.Environment
import QueryTelemetry.Settings.Tracing

/-!
# Loading the settings of the tracing layer

Twelve variables may set a field each. One that is not set, and a text that is set to nothing,
leave the default in place. The exporter is looked at first, then the others in the order in which
they appear below; the first text of the wrong form is the error of the whole.
-/

namespace QueryTelemetry.Settings

/-- The lead of the variables of the tracing layer. -/
def tracingLead : String := "GQLEXT_OTEL"

/-- A text that is set and not empty, otherwise the default. -/
def textOr (default : String) : Option String → String
  | some s => if s.isEmpty then default else s
  | none => default

/-- The exporter that the environment names. Its variable is named with the lead and an underscore
even when the lead is empty. -/
def loadExporter (env : Environment) : Except Fault Exporter :=
  match env.get? "EXPORTER" with
  | none => .ok Tracing.standard.exporter
  | some text =>
    match Exporter.choices.ofValue (.text (Text.lower (Text.trim text))) with
    | .ok e => .ok e
    | .error cause =>
      let key := env.lead ++ "_EXPORTER"
      .error (.invalidSetting s!"Invalid exporter for {key}" key (.text text)
        (String.intercalate ", " (Exporter.all.map Exporter.label)) (some cause))

/-- A text that is given and not empty. -/
def filled (text : Option String) : Option String := text.filter (!·.isEmpty)

namespace Tracing

/-- The settings with a change, if a value for it is given. -/
def changedBy {α : Type} (change : Tracing → α → Tracing) (given : Option α) (s : Tracing) :
    Tracing :=
  match given with
  | some x => change s x
  | none => s

/-- The settings that the environment gives: the fields that stand at the top first, then one
change after the other to the parts. -/
def load (env : Environment) : Except Fault Tracing := do
  let base := standard
  let exporter ← loadExporter env
  let enabled ← env.bool? "ENABLED"
  let includeSource ← env.bool? "INCLUDE_SOURCE"
  let includeVariables ← env.bool? "INCLUDE_VARIABLES"
  let strictSlots ← env.bool? "STRICT_SLOTS"
  let s := { base with
    enabled := enabled.getD base.enabled
    tracerName := textOr base.tracerName (env.get? "TRACER_NAME")
    includeSource := includeSource.getD base.includeSource
    includeVariables := includeVariables.getD base.includeVariables
    strictSlots := strictSlots.getD base.strictSlots
    exporter }
  let s := s.changedBy withEndpoint (filled (env.get? "ENDPOINT"))
  let s := s.changedBy withServiceName (filled (env.get? "SERVICE_NAME"))
  let timeout ← env.float? "TIMEOUT"
  let s := s.changedBy withTimeout (timeout.map .fraction)
  let queueSize ← env.int? "BATCH_QUEUE_SIZE"
  let s := s.changedBy withQueueSize queueSize
  let batchSize ← env.int? "BATCH_SIZE"
  let s := s.changedBy withBatchSize batchSize
  let propagators ← env.list? "PROPAGATORS" ","
  .ok (s.changedBy withPropagators (propagators.filter (!·.isEmpty)))

end Tracing

end QueryTelemetry.Settings
