import QueryTelemetry.Proofs.Fault.Steps
import QueryTelemetry.Proofs.Json.Trees
import QueryTelemetry.Settings.Load

/-!
# The variables of the tracing layer

Each of the twelve variables has a name, a field of the settings that it governs, and texts
that it can be read from.  A variable that is not set reads as the default, a text of the right
form as what it stands for, and any other text is reported (`Variable.reading_of_unset`,
`Variable.reading_of_text`, `Variable.reading_of_refused`).

Settings are loaded by one change after the other, and each change writes the field of its own
variable and nothing else (`Tracing.Change.Writes`), so no change undoes another one
(`Tracing.Change.field_foldl`).  Settings that load therefore hold in each field what its own
variable reads as (`Tracing.reading_of_load`), and settings that do not load are refused by one
of the readings (`Tracing.exists_reading_of_load_error`).  A field that no variable governs stays
at its default (`Tracing.fields_of_loads`).
-/

namespace QueryTelemetry.Settings

/-- Whether a fault says that a setting has a text of the wrong form. -/
def Reports (f : Fault) (key text : String) : Prop :=
  ∃ message expected cause, f = .invalidSetting message key (.text text) expected cause

/-- The variables that settings are loaded from. -/
inductive Variable
  | enabled
  | tracerName
  | includeSource
  | includeVariables
  | strictSlots
  | exporter
  | endpoint
  | serviceName
  | timeout
  | queueSize
  | batchSize
  | propagators
deriving DecidableEq, Repr

/-- The items of a text between separators, without the blanks around them. -/
def Environment.items (separator text : String) : List String :=
  if Text.isBlankText text then [] else (Text.splitAt separator text).map Text.trim

namespace Variable

/-- The name of a variable behind the lead. -/
def name : Variable → String
  | enabled => "ENABLED"
  | tracerName => "TRACER_NAME"
  | includeSource => "INCLUDE_SOURCE"
  | includeVariables => "INCLUDE_VARIABLES"
  | strictSlots => "STRICT_SLOTS"
  | exporter => "EXPORTER"
  | endpoint => "ENDPOINT"
  | serviceName => "SERVICE_NAME"
  | timeout => "TIMEOUT"
  | queueSize => "BATCH_QUEUE_SIZE"
  | batchSize => "BATCH_SIZE"
  | propagators => "PROPAGATORS"

/-- What the field that a variable governs holds. -/
abbrev Field : Variable → Type
  | enabled | includeSource | includeVariables | strictSlots => Bool
  | tracerName | endpoint | serviceName => String
  | exporter => Exporter
  | timeout => Seconds
  | queueSize | batchSize => Int
  | propagators => List String

/-- The field that a variable governs. -/
def field : (v : Variable) → Tracing → v.Field
  | enabled, s => s.enabled
  | tracerName, s => s.tracerName
  | includeSource, s => s.includeSource
  | includeVariables, s => s.includeVariables
  | strictSlots, s => s.strictSlots
  | exporter, s => s.exporter
  | endpoint, s => s.collector.endpoint
  | serviceName, s => s.service.name
  | timeout, s => s.collector.timeout
  | queueSize, s => s.batch.queueSize
  | batchSize, s => s.batch.batchSize
  | propagators, s => s.propagators

/-- Names that are given and at least one, otherwise the default. -/
def namesOr (default : List String) : Option (List String) → List String
  | some (name :: names) => name :: names
  | _ => default

/-- What a text of a variable makes of its field, if it has the form that the variable asks
for.  An empty text and an empty list leave the default. -/
def read? : (v : Variable) → String → Option v.Field
  | enabled, text | includeSource, text | includeVariables, text | strictSlots, text =>
    Environment.truth? text
  | tracerName, text => some (textOr Tracing.standard.tracerName (some text))
  | endpoint, text => some (textOr Collector.standard.endpoint (some text))
  | serviceName, text => some (textOr Service.standard.name (some text))
  | exporter, text => Exporter.all.find? (·.label == Text.lower (Text.trim text))
  | timeout, text => (Text.readFloat text).map .fraction
  | queueSize, text | batchSize, text => (Text.readInt text).toOption
  | propagators, text =>
    some (namesOr Tracing.standard.propagators (some (Environment.items "," text)))

/-- What an environment makes of the field of a variable. -/
def reading : (v : Variable) → Environment → Except Fault v.Field
  | enabled, env => (·.getD Tracing.standard.enabled) <$> env.bool? enabled.name
  | tracerName, env => .ok (textOr Tracing.standard.tracerName (env.get? tracerName.name))
  | includeSource, env => (·.getD Tracing.standard.includeSource) <$> env.bool? includeSource.name
  | includeVariables, env =>
    (·.getD Tracing.standard.includeVariables) <$> env.bool? includeVariables.name
  | strictSlots, env => (·.getD Tracing.standard.strictSlots) <$> env.bool? strictSlots.name
  | exporter, env => loadExporter env
  | endpoint, env => .ok (textOr Collector.standard.endpoint (env.get? endpoint.name))
  | serviceName, env => .ok (textOr Service.standard.name (env.get? serviceName.name))
  | timeout, env =>
    (fun t => (t.map Seconds.fraction).getD Collector.standard.timeout) <$> env.float? timeout.name
  | queueSize, env => (·.getD Batch.standard.queueSize) <$> env.int? queueSize.name
  | batchSize, env => (·.getD Batch.standard.batchSize) <$> env.int? batchSize.name
  | propagators, env =>
    namesOr Tracing.standard.propagators <$> env.list? propagators.name ","

/-- The name under which a text of the wrong form is reported. -/
def shownName (v : Variable) (env : Environment) : String :=
  if v = exporter then env.lead ++ "_EXPORTER" else env.fullName v.name

end Variable

/-- The settings with every field that a variable governs back at its default. -/
def Tracing.withoutVariables (s : Tracing) : Tracing :=
  let base := Tracing.standard
  { s with
    enabled := base.enabled
    tracerName := base.tracerName
    includeSource := base.includeSource
    includeVariables := base.includeVariables
    strictSlots := base.strictSlots
    exporter := base.exporter
    service := { s.service with name := base.service.name }
    collector :=
      { s.collector with endpoint := base.collector.endpoint, timeout := base.collector.timeout }
    batch :=
      { s.batch with queueSize := base.batch.queueSize, batchSize := base.batch.batchSize }
    propagators := base.propagators }

variable {env env' : Environment} {s s' : Tracing} {text : String}

/-! ## What a variable reads as -/

namespace Environment

variable {name : String}

theorem bool?_unset (h : env.get? name = none) : env.bool? name = .ok none := by
  rw [bool?, h]

theorem bool?_text (h : env.get? name = some text) {b : Bool} (hb : truth? text = some b) :
    env.bool? name = .ok (some b) := by
  simp only [bool?, h, hb]

theorem bool?_refused (h : env.get? name = some text) (hb : truth? text = none) :
    env.bool? name = .error (env.invalidTruth name text) := by
  simp only [bool?, h, hb]

theorem int?_unset (h : env.get? name = none) : env.int? name = .ok none := by
  rw [int?, h]

theorem int?_text (h : env.get? name = some text) {n : Int}
    (hn : (Text.readInt text).toOption = some n) : env.int? name = .ok (some n) := by
  cases hread : Text.readInt text with
  | error e => rw [hread] at hn; cases hn
  | ok n' =>
    rw [hread] at hn
    obtain rfl := Option.some.inj hn
    simp only [int?, h, hread]

theorem int?_refused (h : env.get? name = some text)
    (hn : (Text.readInt text).toOption = none) : ∃ e, env.int? name =
      .error (env.invalid name text "integer" (some (wholeFault (Text.trim text) e))) := by
  cases hread : Text.readInt text with
  | ok n => rw [hread] at hn; cases hn
  | error e => exact ⟨e, by simp only [int?, h, hread]⟩

theorem float?_unset (h : env.get? name = none) : env.float? name = .ok none := by
  rw [float?, h]

theorem float?_text (h : env.get? name = some text) {x : Float}
    (hx : Text.readFloat text = some x) : env.float? name = .ok (some x) := by
  simp only [float?, h, hx]

theorem float?_refused (h : env.get? name = some text) (hx : Text.readFloat text = none) :
    env.float? name =
      .error (env.invalid name text "float" (some (fractionFault (Text.trim text)))) := by
  simp only [float?, h, hx]

theorem list?_unset (h : env.get? name = none) (separator : String) :
    env.list? name separator = .ok none := by
  rw [list?, h]

theorem list?_text (h : env.get? name = some text) {separator : String}
    (hseparator : separator.isEmpty = false) : env.list? name separator =
      .ok (some (items separator text)) := by
  simp only [list?, h, hseparator, items]
  split <;> rfl

end Environment

theorem loadExporter_unset (h : env.get? "EXPORTER" = none) :
    loadExporter env = .ok Tracing.standard.exporter := by
  rw [loadExporter, h]

theorem ofValue?_label (word : String) :
    Exporter.choices.ofValue? (.text word) = Exporter.all.find? (·.label == word) := by
  simp only [Choices.ofValue?, Exporter.choices, Fields.text_beq_text]

theorem loadExporter_text (h : env.get? "EXPORTER" = some text) {e : Exporter}
    (he : Exporter.all.find? (·.label == Text.lower (Text.trim text)) = some e) :
    loadExporter env = .ok e := by
  simp only [loadExporter, h, Choices.ofValue, ofValue?_label, he]

theorem loadExporter_refused (h : env.get? "EXPORTER" = some text)
    (he : Exporter.all.find? (·.label == Text.lower (Text.trim text)) = none) :
    ∃ f, loadExporter env = .error f ∧ Reports f (env.lead ++ "_EXPORTER") text := by
  obtain ⟨cause, hcause⟩ :
      ∃ cause, Exporter.choices.ofValue (.text (Text.lower (Text.trim text))) = .error cause := by
    simp only [Choices.ofValue, ofValue?_label, he]
    exact ⟨_, rfl⟩
  simp only [loadExporter, h, hcause]
  exact ⟨_, rfl, _, _, _, rfl⟩

namespace Variable

theorem reading_of_unset {v : Variable} (h : env.get? v.name = none) :
    v.reading env = .ok (v.field .standard) := by
  cases v with
  | enabled | includeSource | includeVariables | strictSlots =>
    rw [reading, Environment.bool?_unset h]
    rfl
  | tracerName | endpoint | serviceName =>
    rw [reading, h]
    rfl
  | exporter =>
    rw [reading, loadExporter_unset h]
    rfl
  | timeout =>
    rw [reading, Environment.float?_unset h]
    rfl
  | queueSize | batchSize =>
    rw [reading, Environment.int?_unset h]
    rfl
  | propagators =>
    rw [reading, Environment.list?_unset h]
    rfl

theorem reading_of_text {v : Variable} (h : env.get? v.name = some text) {x : v.Field}
    (hx : v.read? text = some x) : v.reading env = .ok x := by
  cases v with
  | enabled | includeSource | includeVariables | strictSlots =>
    rw [reading, Environment.bool?_text h hx]
    rfl
  | tracerName | endpoint | serviceName =>
    rw [reading, h, ← Option.some.inj hx]
  | exporter => rw [reading, loadExporter_text h hx]
  | timeout =>
    obtain ⟨y, hy, rfl⟩ := Option.map_eq_some_iff.1 hx
    rw [reading, Environment.float?_text h hy]
    rfl
  | queueSize | batchSize =>
    rw [reading, Environment.int?_text h hx]
    rfl
  | propagators =>
    rw [reading, Environment.list?_text h (by decide), ← Option.some.inj hx]
    rfl

theorem reading_of_refused {v : Variable} (h : env.get? v.name = some text)
    (hx : v.read? text = none) :
    ∃ f, v.reading env = .error f ∧ Reports f (v.shownName env) text := by
  cases v with
  | enabled | includeSource | includeVariables | strictSlots =>
    rw [reading, Environment.bool?_refused h hx]
    exact ⟨_, rfl, _, _, _, rfl⟩
  | tracerName | endpoint | serviceName | propagators => cases hx
  | exporter =>
    rw [reading]
    exact loadExporter_refused h hx
  | timeout =>
    rw [reading, Environment.float?_refused h (Option.map_eq_none_iff.1 hx)]
    exact ⟨_, rfl, _, _, _, rfl⟩
  | queueSize | batchSize =>
    obtain ⟨e, he⟩ := Environment.int?_refused h hx
    rw [reading, he]
    exact ⟨_, rfl, _, _, _, rfl⟩

/-- What a variable reads as depends on its text alone. -/
theorem reading_congr {v : Variable} (h : env.get? v.name = env'.get? v.name) {x x' : v.Field}
    (hx : v.reading env = .ok x) (hx' : v.reading env' = .ok x') : x = x' := by
  cases hget : env.get? v.name with
  | none =>
    rw [reading_of_unset hget] at hx
    rw [reading_of_unset (h ▸ hget)] at hx'
    exact Except.ok.inj (hx.symm.trans hx')
  | some text =>
    cases hread : v.read? text with
    | none =>
      obtain ⟨f, hf, -⟩ := reading_of_refused hget hread
      cases hf.symm.trans hx
    | some y =>
      rw [reading_of_text hget hread] at hx
      rw [reading_of_text (h ▸ hget) hread] at hx'
      exact Except.ok.inj (hx.symm.trans hx')

end Variable

/-! ## Settings that load -/

namespace Tracing

/-- A change of settings by what is given for a variable, if anything is. -/
structure Change where
  about : Variable
  write : Tracing → about.Field → Tracing
  given : Option about.Field

namespace Change

/-- The settings after a change. -/
def apply (c : Change) (s : Tracing) : Tracing := s.changedBy c.write c.given

/-- A change writes the field of its variable and leaves everything else as it was. -/
structure Writes (c : Change) : Prop where
  own : ∀ s x, c.about.field (c.write s x) = x
  others : ∀ s x, ∀ v ≠ c.about, v.field (c.write s x) = v.field s
  rest : ∀ s x, (c.write s x).withoutVariables = s.withoutVariables

variable {c : Change}

theorem Writes.field_own (h : c.Writes) (s : Tracing) :
    c.about.field (c.apply s) = c.given.getD (c.about.field s) := by
  rw [apply]
  cases c.given with
  | none => rfl
  | some x => exact h.own s x

theorem Writes.field_other (h : c.Writes) {v : Variable} (hv : v ≠ c.about) (s : Tracing) :
    v.field (c.apply s) = v.field s := by
  rw [apply]
  cases c.given with
  | none => rfl
  | some x => exact h.others s x v hv

theorem Writes.rest_apply (h : c.Writes) (s : Tracing) :
    (c.apply s).withoutVariables = s.withoutVariables := by
  rw [apply]
  cases c.given with
  | none => rfl
  | some x => exact h.rest s x

/-- Of changes about different variables, made one after the other, none undoes what another one
wrote. -/
theorem field_foldl {changes : List Change} (hwrites : ∀ c ∈ changes, c.Writes)
    (hdistinct : changes.Pairwise fun c c' => c'.about ≠ c.about) (s : Tracing) :
    (∀ c ∈ changes, c.about.field (changes.foldl (fun s c => c.apply s) s) =
      c.given.getD (c.about.field s)) ∧
    (∀ v : Variable, (∀ c ∈ changes, v ≠ c.about) →
      v.field (changes.foldl (fun s c => c.apply s) s) = v.field s) ∧
    (changes.foldl (fun s c => c.apply s) s).withoutVariables = s.withoutVariables := by
  induction changes generalizing s with
  | nil => exact ⟨fun _ hc => absurd hc List.not_mem_nil, fun _ _ => rfl, rfl⟩
  | cons c changes ih =>
    have hc : c.Writes := hwrites c List.mem_cons_self
    obtain ⟨hfirst, hrest⟩ := List.pairwise_cons.1 hdistinct
    obtain ⟨hown, hothers, hkept⟩ :=
      ih (fun c' hc' => hwrites c' (List.mem_cons_of_mem _ hc')) hrest (c.apply s)
    rw [List.foldl_cons]
    refine ⟨fun c' hc' => ?_, fun v hv => ?_, hkept.trans (hc.rest_apply s)⟩
    · rcases List.mem_cons.1 hc' with rfl | hc'
      · rw [hothers c'.about fun c'' hc'' => (hfirst c'' hc'').symm, hc.field_own]
      · rw [hown c' hc', hc.field_other (hfirst c' hc')]
    · rw [hothers v fun c' hc' => hv c' (List.mem_cons_of_mem _ hc'),
        hc.field_other (hv c List.mem_cons_self)]

end Change

/-- The changes that are made to the settings when they are loaded, in their order. -/
def changes (env : Environment) (timeout : Option Float) (queueSize batchSize : Option Int)
    (propagators : Option (List String)) : List Change :=
  [⟨.endpoint, withEndpoint, filled (env.get? "ENDPOINT")⟩,
    ⟨.serviceName, withServiceName, filled (env.get? "SERVICE_NAME")⟩,
    ⟨.timeout, withTimeout, timeout.map .fraction⟩,
    ⟨.queueSize, withQueueSize, queueSize⟩,
    ⟨.batchSize, withBatchSize, batchSize⟩,
    ⟨.propagators, withPropagators, propagators.filter (!·.isEmpty)⟩]

theorem writes_changes (env : Environment) (timeout : Option Float)
    (queueSize batchSize : Option Int) (propagators : Option (List String)) :
    ∀ c ∈ changes env timeout queueSize batchSize propagators, c.Writes := by
  simp only [changes, List.forall_mem_cons, List.not_mem_nil, false_imp_iff, implies_true,
    and_true]
  refine ⟨?_, ?_, ?_, ?_, ?_, ?_⟩ <;>
    refine ⟨fun _ _ => rfl, fun s x v hv => ?_, fun _ _ => rfl⟩ <;>
    cases v <;> first | exact absurd rfl hv | rfl

theorem getD_filled (default : String) (text : Option String) :
    (filled text).getD default = textOr default text := by
  cases text with
  | none => rfl
  | some text =>
    cases hempty : text.isEmpty <;> simp [filled, textOr, Option.filter, hempty]

theorem getD_filter_isEmpty (default : List String) (names : Option (List String)) :
    (names.filter (!·.isEmpty)).getD default = Variable.namesOr default names := by
  rcases names with _ | _ | _ <;> rfl

/-- Settings that load hold what their variables read as, and nothing else but defaults. -/
theorem reading_of_load (h : load env = .ok s) :
    (∀ v : Variable, v.reading env = .ok (v.field s)) ∧ s.withoutVariables = standard := by
  obtain ⟨exporter, hexporter, h⟩ := exists_of_bind_eq_ok h
  obtain ⟨enabled, henabled, h⟩ := exists_of_bind_eq_ok h
  obtain ⟨includeSource, hsource, h⟩ := exists_of_bind_eq_ok h
  obtain ⟨includeVariables, hvariables, h⟩ := exists_of_bind_eq_ok h
  obtain ⟨strictSlots, hstrict, h⟩ := exists_of_bind_eq_ok h
  obtain ⟨timeout, htimeout, h⟩ := exists_of_bind_eq_ok h
  obtain ⟨queueSize, hqueue, h⟩ := exists_of_bind_eq_ok h
  obtain ⟨batchSize, hbatch, h⟩ := exists_of_bind_eq_ok h
  obtain ⟨propagators, hpropagators, h⟩ := exists_of_bind_eq_ok h
  obtain rfl := Except.ok.inj h
  obtain ⟨hown, hothers, hrest⟩ := Change.field_foldl
    (writes_changes env timeout queueSize batchSize propagators) (by simp [changes])
    { standard with
      enabled := enabled.getD standard.enabled
      tracerName := textOr standard.tracerName (env.get? "TRACER_NAME")
      includeSource := includeSource.getD standard.includeSource
      includeVariables := includeVariables.getD standard.includeVariables
      strictSlots := strictSlots.getD standard.strictSlots
      exporter }
  simp only [changes, List.forall_mem_cons, List.not_mem_nil, false_imp_iff, implies_true,
    and_true] at hown hothers
  obtain ⟨hendpoint, hservice, hseconds, hqueued, hbatched, hnames⟩ := hown
  refine ⟨fun v => ?_, hrest⟩
  cases v with
  | enabled =>
    exact (congrArg (Except.map _) henabled).trans (congrArg _ (hothers .enabled (by decide)).symm)
  | includeSource =>
    exact (congrArg (Except.map _) hsource).trans
      (congrArg _ (hothers .includeSource (by decide)).symm)
  | includeVariables =>
    exact (congrArg (Except.map _) hvariables).trans
      (congrArg _ (hothers .includeVariables (by decide)).symm)
  | strictSlots =>
    exact (congrArg (Except.map _) hstrict).trans
      (congrArg _ (hothers .strictSlots (by decide)).symm)
  | exporter => exact hexporter.trans (congrArg _ (hothers .exporter (by decide)).symm)
  | tracerName => exact congrArg _ (hothers .tracerName (by decide)).symm
  | endpoint => exact congrArg _ ((getD_filled ..).symm.trans hendpoint.symm)
  | serviceName => exact congrArg _ ((getD_filled ..).symm.trans hservice.symm)
  | timeout => exact (congrArg (Except.map _) htimeout).trans (congrArg _ hseconds.symm)
  | queueSize => exact (congrArg (Except.map _) hqueue).trans (congrArg _ hqueued.symm)
  | batchSize => exact (congrArg (Except.map _) hbatch).trans (congrArg _ hbatched.symm)
  | propagators =>
    exact (congrArg (Except.map _) hpropagators).trans
      (congrArg _ ((getD_filter_isEmpty ..).symm.trans hnames.symm))

/-- Settings that do not load are refused by the reading of a variable. -/
theorem exists_reading_of_load_error {f : Fault} (h : load env = .error f) :
    ∃ v : Variable, v.reading env = .error f := by
  obtain hexporter | ⟨_, -, h⟩ := eq_error_of_bind_eq_error h
  · exact ⟨.exporter, hexporter⟩
  obtain henabled | ⟨_, -, h⟩ := eq_error_of_bind_eq_error h
  · exact ⟨.enabled, congrArg (Except.map _) henabled⟩
  obtain hsource | ⟨_, -, h⟩ := eq_error_of_bind_eq_error h
  · exact ⟨.includeSource, congrArg (Except.map _) hsource⟩
  obtain hvariables | ⟨_, -, h⟩ := eq_error_of_bind_eq_error h
  · exact ⟨.includeVariables, congrArg (Except.map _) hvariables⟩
  obtain hstrict | ⟨_, -, h⟩ := eq_error_of_bind_eq_error h
  · exact ⟨.strictSlots, congrArg (Except.map _) hstrict⟩
  obtain htimeout | ⟨_, -, h⟩ := eq_error_of_bind_eq_error h
  · exact ⟨.timeout, congrArg (Except.map _) htimeout⟩
  obtain hqueue | ⟨_, -, h⟩ := eq_error_of_bind_eq_error h
  · exact ⟨.queueSize, congrArg (Except.map _) hqueue⟩
  obtain hbatch | ⟨_, -, h⟩ := eq_error_of_bind_eq_error h
  · exact ⟨.batchSize, congrArg (Except.map _) hbatch⟩
  obtain hpropagators | ⟨_, -, h⟩ := eq_error_of_bind_eq_error h
  · exact ⟨.propagators, congrArg (Except.map _) hpropagators⟩
  cases h

/-! ## One variable, one field -/

/-- Under one lead, settings that load agree on a field if their environments agree on its
variable.  The field of a variable that is not set has its default, and that of a variable that
is set holds what its text reads as; every field that no variable governs has its default. -/
theorem fields_of_loads {lead : String} {entries entries' : List (String × String)}
    (h : load ⟨entries, lead⟩ = .ok s) (h' : load ⟨entries', lead⟩ = .ok s') :
    (∀ v : Variable,
      (⟨entries, lead⟩ : Environment).get? v.name = (⟨entries', lead⟩ : Environment).get? v.name →
        v.field s = v.field s') ∧
      (∀ v : Variable, (⟨entries, lead⟩ : Environment).get? v.name = none →
        v.field s = v.field standard) ∧
      (∀ v : Variable, ∀ text, (⟨entries, lead⟩ : Environment).get? v.name = some text →
        v.read? text = some (v.field s)) ∧
      s.withoutVariables = standard := by
  obtain ⟨hread, hrest⟩ := reading_of_load h
  obtain ⟨hread', -⟩ := reading_of_load h'
  refine ⟨fun v hv => Variable.reading_congr hv (hread v) (hread' v), fun v hv => ?_,
    fun v text hv => ?_, hrest⟩
  · exact Except.ok.inj ((hread v).symm.trans (Variable.reading_of_unset hv))
  · cases hx : v.read? text with
    | none =>
      obtain ⟨f, hf, -⟩ := Variable.reading_of_refused hv hx
      cases hf.symm.trans (hread v)
    | some x => rw [Except.ok.inj ((Variable.reading_of_text hv hx).symm.trans (hread v))]

/-- Settings with a small batch and an endpoint, and settings with the same batch that are
switched off. -/
theorem fields_of_small_batches :
    ∃ s s',
      load ⟨[("APP_BATCH_SIZE", "64"), ("APP_ENDPOINT", "http://collector:4317")], "APP"⟩ = .ok s ∧
      load ⟨[("APP_ENABLED", "Off"), ("APP_BATCH_SIZE", "64")], "APP"⟩ = .ok s' ∧
      s.batch.batchSize = s'.batch.batchSize ∧
      s.collector.endpoint = "http://collector:4317" ∧
      s'.collector.endpoint = standard.collector.endpoint ∧
      s.withoutVariables = s'.withoutVariables := by
  obtain ⟨s, hs⟩ : ∃ s, load ⟨[("APP_BATCH_SIZE", "64"),
      ("APP_ENDPOINT", "http://collector:4317")], "APP"⟩ = .ok s := ⟨_, rfl⟩
  obtain ⟨s', hs'⟩ : ∃ s, load ⟨[("APP_ENABLED", "Off"), ("APP_BATCH_SIZE", "64")], "APP"⟩ =
      .ok s := ⟨_, rfl⟩
  obtain ⟨hagree, -, hset, hrest⟩ := fields_of_loads hs hs'
  obtain ⟨-, hunset, -, hrest'⟩ := fields_of_loads hs' hs
  exact ⟨s, s', hs, hs', hagree .batchSize rfl, (Option.some.inj (hset .endpoint _ rfl)).symm,
    hunset .endpoint rfl, hrest.trans hrest'.symm⟩

end Tracing

end QueryTelemetry.Settings
