import Mathlib.Data.List.Induction
import QueryTelemetry.Proofs.Request.Remarks

/-!
# After the end of a request

The stage of a runner is that of the last event that has one (`stage_run`), late
events included: a request that has ended leaves its last stage again when an
event arrives late that has a stage of its own, and stays out of it until the
next end.

A request that is closed then is remarked on as if it had been left before its
end, in what the close hands over (`remarked_after_end`).
-/

namespace QueryTelemetry

open Request (Stage)

/-- The stage that a call moves a request to. -/
def Trace.Call.target? : Trace.Call → Option Stage
  | .event e => e.target?
  | .close => none

namespace Request.Runner

variable {ι : Type} [Observing ι] {p : Runner ι × Telemetry} {before after : List Trace.Call}

theorem stage_close (r : Runner ι) (t : Telemetry) : (r.close t).1.stage = r.stage := by
  simp only [close]
  split <;> rfl

theorem stage_next (p : Runner ι × Telemetry) (c : Trace.Call) :
    (next p c).1.stage = c.target?.getD p.1.stage := by
  cases c with
  | event e => exact stage_dispatch p.1 e p.2
  | close => exact stage_close p.1 p.2

/-- The stage is that of the last call that has one. -/
theorem stage_run (p : Runner ι × Telemetry) (calls : List Trace.Call) :
    (run p calls).1.stage = (calls.filterMap Trace.Call.target?).getLast?.getD p.1.stage := by
  induction calls using List.reverseRecOn with
  | nil => rfl
  | append_singleton calls c ih =>
    rw [run_concat, stage_next, ih, List.filterMap_append]
    cases htarget : c.target? with
    | none => rw [List.filterMap_cons_none htarget, List.filterMap_nil, List.append_nil]; rfl
    | some s =>
      rw [List.filterMap_cons_some htarget, List.filterMap_nil, List.getLast?_concat]
      rfl

theorem stage_run_end (p : Runner ι × Telemetry) (before after : List Trace.Call) :
    (run p (before ++ .event .finish :: after)).1.stage =
      (after.filterMap Trace.Call.target?).getLast?.getD .ended := by
  rw [run, List.foldl_append, List.foldl_cons]
  exact stage_run (next (run p before) (.event .finish)) after

theorem closed_next_iff (p : Runner ι × Telemetry) (c : Trace.Call) :
    (next p c).1.closed = true ↔ p.1.closed = true ∨ c = .close := by
  cases c with
  | event e => exact ⟨.inl, fun h => h.resolve_right (by simp)⟩
  | close => exact ⟨fun _ => .inr rfl, fun _ => closed_close p.1 p.2⟩

theorem closed_run_iff (p : Runner ι × Telemetry) (calls : List Trace.Call) :
    (run p calls).1.closed = true ↔ p.1.closed = true ∨ .close ∈ calls := by
  induction calls using List.reverseRecOn with
  | nil => exact ⟨.inl, fun h => h.resolve_right List.not_mem_nil⟩
  | append_singleton calls c ih =>
    rw [run_concat, closed_next_iff, ih, List.mem_append, List.mem_singleton, or_assoc,
      eq_comm (a := c)]

/-- After an end the stage is that of the last later event that has one, and the
last stage if none has.  A close that finds the runner open remarks that the
request was left before its end if and only if that stage is not the last one,
and the remark names it.  What the close hands over for debugging is this remark
and what the observers hand over themselves. -/
theorem remarked_after_end (p : Runner ι × Telemetry) (before after : List Trace.Call)
    (hcaptured : Captured (run p (before ++ .event .finish :: after)) .debug) :
    let last := (after.filterMap Trace.Call.target?).getLast?.getD .ended
    let left := run p (before ++ .event .finish :: after)
    left.1.stage = last ∧
      (farewell left ≠ [] ↔
        p.1.closed = false ∧ .close ∉ before ∧ .close ∉ after ∧ last ≠ .ended) ∧
      (∀ r ∈ farewell left, r.Says .debug "Request scope left before end"
        [("state", last.name)]) ∧
      (Lasting ι → handsOver .debug left .close = farewell left ++ asides .debug left .close) := by
  intro last left
  have hstage : left.1.stage = last := stage_run_end p before after
  have hclosed : left.1.closed = false ↔
      p.1.closed = false ∧ .close ∉ before ∧ .close ∉ after := by
    rw [← Bool.not_eq_true, closed_run_iff]
    simp
  have hcall : Lasting ι →
      handsOver .debug left .close = farewell left ++ asides .debug left .close :=
    fun hlasting => handsOver_close hlasting left
  by_cases hlast : last = .ended
  · have hsilent : farewell left = [] := farewell_of_ended (hstage.trans hlast)
    refine ⟨hstage, ⟨fun h => absurd hsilent h, fun h => absurd hlast h.2.2.2⟩, ?_, hcall⟩
    rw [hsilent]
    exact fun r hr => absurd hr List.not_mem_nil
  · by_cases hopen : left.1.closed = false
    · obtain ⟨hremarked, hsays⟩ := farewell_of_early hcaptured hopen (hstage.symm ▸ hlast)
      rw [hstage] at hsays
      obtain ⟨hfresh, hbefore, hafter⟩ := hclosed.1 hopen
      exact ⟨hstage, ⟨fun _ => ⟨hfresh, hbefore, hafter, hlast⟩, fun _ => hremarked⟩, hsays, hcall⟩
    · have hsilent : farewell left = [] := farewell_of_closed (Bool.not_eq_false _ ▸ hopen)
      refine ⟨hstage, ⟨fun h => absurd hsilent h, fun h => ?_⟩, ?_, hcall⟩
      · exact absurd (hclosed.2 ⟨h.1, h.2.1, h.2.2.1⟩) hopen
      · rw [hsilent]
        exact fun r hr => absurd hr List.not_mem_nil

/-- An end that comes after late events ends the request again. -/
theorem not_remarked_after_second_end :
    let left := run relayed
      [.event .start, .event .finish, .event (.parseEnd .null), .event .finish]
    left.1.stage = .ended ∧ farewell left = [] ∧ handsOver .debug left .close = [] := by
  intro left
  obtain ⟨hstage, hremarked, -, hcall⟩ := remarked_after_end relayed [.event .start]
    [.event (.parseEnd .null), .event .finish] ((captured_relayed .debug).run reticent_recorder _)
  have hsilent : farewell left = [] := by
    by_contra h
    exact (hremarked.1 h).2.2.2 rfl
  have hcall : handsOver .debug left .close = farewell left ++ asides .debug left .close :=
    hcall reticent_recorder.lasting
  refine ⟨hstage, hsilent, ?_⟩
  rw [hcall, hsilent]
  rfl

/-- The parsing of a request ends late: the request has ended, is being parsed,
and a close remarks that it was left before its end. -/
theorem remarked_after_late_parse_end :
    let ended := run relayed [.event .start, .event .finish]
    let left := run relayed [.event .start, .event .finish, .event (.parseEnd .null)]
    ended.1.stage = .ended ∧ left.1.stage = .parsed ∧ farewell left ≠ [] ∧
      ∀ r ∈ farewell left, r ∈ handsOver .debug left .close := by
  intro ended left
  have hstage : left.1.stage = .parsed := rfl
  have hcaptured : Captured left .debug := (captured_relayed .debug).run reticent_recorder _
  refine ⟨rfl, hstage, (farewell_of_early hcaptured rfl (by rw [hstage]; decide)).1, ?_⟩
  intro r hr
  rw [handsOver_close reticent_recorder.lasting]
  exact List.mem_append_left _ hr

end Request.Runner

end QueryTelemetry
