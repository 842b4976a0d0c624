import QueryTelemetry.Proofs.Settings.Variables
import QueryTelemetry.Proofs.Text.Numerals

/-!
# Variables set to texts of the wrong form

What the texts of each variable must look like (`Variable.Accepts`), and what becomes of
settings when a text does not (`Tracing.load_error_iff`): they fail to load exactly if some
variable is misset, and the error shows the text of a misset variable.  It shows the full name
of that variable too, unless the exporter is misset and there is no lead: the name of the
exporter is made with a lead even then.
-/

namespace QueryTelemetry.Settings

variable {env : Environment} {text : String} {f : Fault}

/-- The texts that a variable may have. -/
def Variable.Accepts : Variable → String → Prop
  | enabled, text | includeSource, text | includeVariables, text | strictSlots, text =>
    Text.lower (Text.trim text) ∈ Environment.trueWords ++ Environment.falseWords
  | exporter, text => Text.lower (Text.trim text) ∈ Exporter.all.map Exporter.label
  | timeout, text => Text.IsFraction text
  | queueSize, text | batchSize, text => Text.IsWhole text
  | tracerName, _ | endpoint, _ | serviceName, _ | propagators, _ => True

/-- A variable is set to a text that it may not have. -/
def Environment.Misset (env : Environment) (v : Variable) (text : String) : Prop :=
  env.get? v.name = some text ∧ ¬ v.Accepts text

/-! ## Which texts can be read -/

theorem exists_truth?_iff (text : String) :
    (∃ b, Environment.truth? text = some b) ↔
      Text.lower (Text.trim text) ∈ Environment.trueWords ++ Environment.falseWords := by
  simp only [Environment.truth?, List.contains_iff_mem, List.mem_append]
  split
  · next htrue => exact ⟨fun _ => .inl htrue, fun _ => ⟨_, rfl⟩⟩
  · next htrue =>
    split
    · next hfalse => exact ⟨fun _ => .inr hfalse, fun _ => ⟨_, rfl⟩⟩
    · next hfalse => simp [htrue, hfalse]

theorem exists_label_iff (word : String) :
    (∃ e, Exporter.all.find? (·.label == word) = some e) ↔
      word ∈ Exporter.all.map Exporter.label := by
  rw [← Option.isSome_iff_exists, List.find?_isSome]
  simp

theorem exists_toOption_iff {ε α : Type} (x : Except ε α) :
    (∃ a, x.toOption = some a) ↔ ∃ a, x = .ok a := by
  cases x <;> simp [Except.toOption]

namespace Variable

theorem exists_read?_iff (v : Variable) (text : String) :
    (∃ x, v.read? text = some x) ↔ v.Accepts text := by
  cases v with
  | enabled | includeSource | includeVariables | strictSlots => exact exists_truth?_iff text
  | exporter => simpa only [read?, Accepts] using exists_label_iff _
  | timeout => simpa [read?, Accepts] using Text.exists_readFloat_iff text
  | queueSize | batchSize =>
    exact (exists_toOption_iff _).trans (Text.exists_readInt_iff text)
  | tracerName | endpoint | serviceName | propagators => exact ⟨fun _ => trivial, fun _ => ⟨_, rfl⟩⟩

theorem reading_error_iff (v : Variable) :
    (∃ f, v.reading env = .error f) ↔ ∃ text, env.Misset v text := by
  constructor
  · rintro ⟨f, hf⟩
    cases hget : env.get? v.name with
    | none => cases (reading_of_unset hget).symm.trans hf
    | some text =>
      refine ⟨text, hget, fun haccepts => ?_⟩
      obtain ⟨x, hx⟩ := (v.exists_read?_iff text).2 haccepts
      cases (reading_of_text hget hx).symm.trans hf
  · rintro ⟨text, hget, hrefused⟩
    rw [← v.exists_read?_iff text, ← Option.isSome_iff_exists, Option.not_isSome_iff_eq_none]
      at hrefused
    obtain ⟨f, hf, -⟩ := reading_of_refused hget hrefused
    exact ⟨f, hf⟩

theorem reports_of_misset {v : Variable} (h : env.Misset v text) (hf : v.reading env = .error f) :
    Reports f (v.shownName env) text := by
  obtain ⟨hget, hrefused⟩ := h
  rw [← v.exists_read?_iff text, ← Option.isSome_iff_exists, Option.not_isSome_iff_eq_none]
    at hrefused
  obtain ⟨f', hf', hreports⟩ := reading_of_refused hget hrefused
  rwa [Except.error.inj (hf.symm.trans hf')]

end Variable

/-! ## What the error shows -/

theorem Reports.key_unique {key key' text' : String} (h : Reports f key text)
    (h' : Reports f key' text') : key = key' := by
  obtain ⟨message, expected, cause, rfl⟩ := h
  obtain ⟨message', expected', cause', heq⟩ := h'
  obtain ⟨hreport, -⟩ := Fault.reported.inj heq
  exact Value.text.inj (Report.invalidSetting.inj hreport).1

theorem Variable.name_ne_underscore (v : Variable) : v.name ≠ "_EXPORTER" := by
  cases v <;> decide

theorem Variable.shownName_eq_fullName {v : Variable} (h : v ≠ .exporter ∨ env.lead ≠ "") :
    v.shownName env = env.fullName v.name := by
  unfold shownName
  split
  · next hexporter =>
    have hlead : env.lead.isEmpty = false := by simpa using h.resolve_left (not_not_intro hexporter)
    subst hexporter
    simp only [Environment.fullName, hlead, name]
    simp [String.append_assoc]
  · rfl

namespace Tracing

theorem load_of_misset_exporter (h : env.Misset .exporter text) (hload : load env = .error f) :
    Reports f (env.lead ++ "_EXPORTER") text := by
  obtain ⟨f', hf'⟩ := (Variable.reading_error_iff .exporter).2 ⟨text, h⟩
  have hfirst : load env = .error f' := by
    have hexporter : loadExporter env = .error f' := hf'
    rw [load, hexporter]
    rfl
  obtain rfl := Except.error.inj (hload.symm.trans hfirst)
  exact Variable.reports_of_misset h hf'

/-- Without a lead, a misset exporter is reported under a name that no variable has. -/
theorem not_reports_fullName (h : env.Misset .exporter text) (hlead : env.lead = "")
    (hload : load env = .error f) (v : Variable) (text' : String) :
    ¬ Reports f (env.fullName v.name) text' := by
  intro hreports
  have hkey := hreports.key_unique (load_of_misset_exporter h hload)
  rw [Environment.fullName, hlead] at hkey
  exact v.name_ne_underscore hkey

/-- Settings fail to load exactly if a variable is set to a text that it may not have.  The
error shows the text of such a variable and the name under which it is reported.  That is the
full name of a misset variable, unless there is no lead and the exporter is misset. -/
theorem load_error_iff (env : Environment) :
    ((∃ f, load env = .error f) ↔ ∃ v text, env.Misset v text) ∧
      ∀ f, load env = .error f →
        (∃ v text, env.Misset v text ∧ Reports f (v.shownName env) text) ∧
          ((∃ v text, env.Misset v text ∧ Reports f (env.fullName v.name) text) ↔
            env.lead ≠ "" ∨ ¬ ∃ text, env.Misset .exporter text) := by
  have hshown : ∀ f, load env = .error f →
      ∃ v text, env.Misset v text ∧ Reports f (v.shownName env) text := by
    intro f hload
    obtain ⟨v, hv⟩ := exists_reading_of_load_error hload
    obtain ⟨text, htext⟩ := v.reading_error_iff.1 ⟨f, hv⟩
    exact ⟨v, text, htext, Variable.reports_of_misset htext hv⟩
  refine ⟨⟨fun ⟨f, hload⟩ => ?_, fun ⟨v, text, htext⟩ => ?_⟩, fun f hload => ⟨hshown f hload, ?_⟩⟩
  · obtain ⟨v, text, htext, -⟩ := hshown f hload
    exact ⟨v, text, htext⟩
  · obtain ⟨f, hf⟩ := v.reading_error_iff.2 ⟨text, htext⟩
    cases hload : load env with
    | error f => exact ⟨f, rfl⟩
    | ok s => cases ((reading_of_load hload).1 v).symm.trans hf
  · constructor
    · -- The exporter is looked at first, so its error is the one that is shown.
      rintro ⟨v, text, -, hreports⟩
      by_contra! hneither
      obtain ⟨hlead, text', hexporter⟩ := hneither
      exact not_reports_fullName hexporter hlead hload v text hreports
    · intro hnamed
      obtain ⟨v, text, htext, hreports⟩ := hshown f hload
      refine ⟨v, text, htext, ?_⟩
      rwa [Variable.shownName_eq_fullName] at hreports
      refine hnamed.symm.imp_left fun hexporter hv => hexporter ⟨text, ?_⟩
      rwa [hv] at htext

/-- Two variables with texts of the wrong form. -/
def twoMisset : Environment :=
  { entries := [("APP_BATCH_SIZE", "1_0_"), ("APP_TIMEOUT", "5s")], lead := "APP" }

/-- The error of two misset variables shows one of them with its full name. -/
theorem load_two_misset :
    ∃ f, load twoMisset = .error f ∧
      ∃ v text, twoMisset.Misset v text ∧ Reports f (twoMisset.fullName v.name) text := by
  obtain ⟨hload, hshown⟩ := load_error_iff twoMisset
  have hmisset : twoMisset.Misset .batchSize "1_0_" := by
    refine ⟨by decide, fun h => ?_⟩
    obtain ⟨n, hn⟩ := (Text.exists_readInt_iff _).2 h
    cases hn
  obtain ⟨f, hf⟩ := hload.2 ⟨.batchSize, "1_0_", hmisset⟩
  exact ⟨f, hf, (hshown f hf).2.2 (.inl (by decide))⟩

/-- An exporter that there is not, without a lead. -/
def bogusExporter : Environment := { entries := [("EXPORTER", "bogus")], lead := "" }

/-- The error of a misset exporter without a lead names a variable that nothing looks up. -/
theorem load_misset_exporter_without_lead :
    ∃ f, load bogusExporter = .error f ∧ (∃ v text, bogusExporter.Misset v text) ∧
      ∀ v text, ¬ Reports f (bogusExporter.fullName (Variable.name v)) text := by
  have hmisset : bogusExporter.Misset .exporter "bogus" :=
    ⟨by decide, by unfold Variable.Accepts; decide⟩
  exact ⟨_, rfl, ⟨_, _, hmisset⟩, not_reports_fullName hmisset rfl rfl⟩

end Tracing

end QueryTelemetry.Settings
