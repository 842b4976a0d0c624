import Mathlib.Computability.Language
import QueryTelemetry.Proofs.Request.Remarks

/-!
# The order of events

The documented order of the events of a request is a language
(`Event.lifecycle`).  The table of the stages says event by event what may come
next.  The two agree: what the table lets come after a stage is what is left of
a whole request there (`Stage.remaining`, `Stage.cons_mem_remaining`), and in
every stage but the last one the end may come early (`Stage.allFit_iff`).

A runner warns of exactly the events that do not fit the stage that the events
before them left (`warns_of_disorder`).
-/

namespace QueryTelemetry.Request

open scoped Computability

namespace Event

/-- The words of one event with one of some names. -/
def called (names : List String) : Language Event := {w | ∃ e, e.name ∈ names ∧ w = [e]}

/-- The events of a whole request in the documented order: a chain of phases, with
errors from the validation on, and resolutions while the operation is executed. -/
def lifecycle : Language Event :=
  called ["start"] * called ["parse_start"] * called ["parse_end"] *
    called ["validation_start"] * (called ["error"])∗ * called ["validation_end"] *
    (called ["error"])∗ * called ["execution_start"] *
    (called ["resolve_start", "resolve_end", "error"])∗ * called ["execution_end"] *
    (called ["error"])∗ * called ["end"]

variable {e : Event} {w : List Event} {names stay : List String} {go : String} {l : Language Event}

theorem nil_notMem_called_mul : [] ∉ called names * l := by
  rw [Language.mem_mul]
  rintro ⟨-, ⟨e, -, rfl⟩, v, -, h⟩
  cases h

theorem cons_mem_called_mul : e :: w ∈ called names * l ↔ e.name ∈ names ∧ w ∈ l := by
  rw [Language.mem_mul]
  constructor
  · rintro ⟨-, ⟨e', hname, rfl⟩, v, hv, h⟩
    obtain ⟨rfl, rfl⟩ := List.cons.inj h
    exact ⟨hname, hv⟩
  · rintro ⟨hname, hw⟩
    exact ⟨[e], ⟨e, hname, rfl⟩, w, hw, rfl⟩

theorem kstar_called_mul : (called stay)∗ * l = called stay * ((called stay)∗ * l) + l := by
  rw [← mul_assoc, ← add_one_mul, add_comm, Language.one_add_self_mul_kstar_eq_kstar]

theorem kstar_called_nil_mul : (called [])∗ * l = l := by
  have h : called [] = 0 := Language.ext fun w => by
    refine ⟨?_, fun h => absurd h (Language.notMem_zero w)⟩
    rintro ⟨e, hname, -⟩
    exact absurd hname List.not_mem_nil
  rw [h, kstar_zero, one_mul]

theorem cons_mem_kstar_mul :
    e :: w ∈ (called stay)∗ * (called [go] * l) ↔
      (e.name ∈ stay ∧ w ∈ (called stay)∗ * (called [go] * l)) ∨ (e.name = go ∧ w ∈ l) := by
  conv_lhs => rw [kstar_called_mul]
  rw [Language.mem_add, cons_mem_called_mul, cons_mem_called_mul, List.mem_singleton]

end Event

namespace Stage

open Event (called)

variable {s : Stage} {e : Event} {w : List Event}

/-- The names of the events that may come in a stage any number of times. -/
def staying : Stage → List String
  | validating | validated | executed => ["error"]
  | executing => ["resolve_start", "resolve_end", "error"]
  | _ => []

/-- The name of the event that leads from a stage to the one that follows it. -/
def leaving : Stage → String
  | idle => "start"
  | started => "parse_start"
  | parsing => "parse_end"
  | parsed => "validation_start"
  | validating => "validation_end"
  | validated => "execution_start"
  | executing => "execution_end"
  | executed | ended => "end"

/-- The stage that follows a stage. -/
def follower : Stage → Stage
  | idle => started
  | started => parsing
  | parsing => parsed
  | parsed => validating
  | validating => validated
  | validated => executing
  | executing => executed
  | executed | ended => ended

/-- What is left of a whole request in a stage. -/
def remaining (s : Stage) : Language Event :=
  (all.dropLast.drop (s.number - 1)).foldr
    (fun s l => (called s.staying)∗ * (called [s.leaving] * l)) 1

theorem remaining_ended : ended.remaining = 1 := rfl

theorem remaining_of_ne (h : s ≠ ended) :
    s.remaining = (called s.staying)∗ * (called [s.leaving] * s.follower.remaining) := by
  cases s with
  | ended => exact absurd rfl h
  | _ => rfl

theorem remaining_idle : idle.remaining = Event.lifecycle := by
  have h := remaining_ended
  simp (disch := decide) only [remaining_of_ne, staying, leaving, follower, h,
    Event.kstar_called_nil_mul, Event.lifecycle, mul_assoc, mul_one]

theorem fits_ended (e : Event) : e.fits ended = false := by
  cases e <;> rfl

theorem mem_staying_iff : e.name ∈ s.staying ↔ e.fits s = true ∧ e.next s = s := by
  cases s <;> cases e <;> simp [staying, Event.name, Event.fits, Event.stages, Event.next,
    Event.target?, all, isTerminal]

theorem name_eq_leaving_iff (h : s ≠ ended) :
    e.name = s.leaving ↔ e.fits s = true ∧ e.next s = s.follower := by
  cases s <;> cases e <;> simp [leaving, follower, Event.name, Event.fits, Event.stages,
    Event.next, Event.target?, all, isTerminal] at h ⊢

theorem next_of_fits (h : e.fits s = true) :
    e.next s = s ∨ e.next s = s.follower ∨ e = .finish := by
  cases s <;> cases e <;> simp [follower, Event.fits, Event.stages, Event.next,
    Event.target?, all, isTerminal] at h ⊢

theorem nil_mem_remaining_iff : [] ∈ s.remaining ↔ s = ended := by
  refine ⟨fun h => ?_, fun h => h ▸ Language.nil_mem_one⟩
  by_contra hs
  rw [remaining_of_ne hs, Event.kstar_called_mul, Language.mem_add] at h
  exact h.elim Event.nil_notMem_called_mul Event.nil_notMem_called_mul

/-- The first event of what is left fits the stage and leads no further than the following one. -/
theorem cons_mem_remaining :
    e :: w ∈ s.remaining ↔
      e.fits s = true ∧ (e.next s = s ∨ e.next s = s.follower) ∧ w ∈ (e.next s).remaining := by
  by_cases hs : s = ended
  · subst hs
    rw [remaining_ended, Language.mem_one, fits_ended]
    simp
  · rw [remaining_of_ne hs, Event.cons_mem_kstar_mul, ← remaining_of_ne hs, mem_staying_iff,
      name_eq_leaving_iff hs]
    constructor
    · rintro (⟨⟨hfits, hnext⟩, hw⟩ | ⟨⟨hfits, hnext⟩, hw⟩)
      · exact ⟨hfits, .inl hnext, hnext.symm ▸ hw⟩
      · exact ⟨hfits, .inr hnext, hnext.symm ▸ hw⟩
    · rintro ⟨hfits, hnext | hnext, hw⟩
      · exact .inl ⟨⟨hfits, hnext⟩, hnext ▸ hw⟩
      · exact .inr ⟨⟨hfits, hnext⟩, hnext ▸ hw⟩

/-- A request can be completed from every stage. -/
theorem exists_mem_remaining (s : Stage) : ∃ w, w ∈ s.remaining := by
  have hstep : ∀ {s : Stage} (e : Event), e.fits s = true → e.next s = s.follower →
      (∃ w, w ∈ s.follower.remaining) → ∃ w, w ∈ s.remaining := by
    rintro s e hfits hnext ⟨w, hw⟩
    exact ⟨e :: w, cons_mem_remaining.2 ⟨hfits, .inr hnext, hnext ▸ hw⟩⟩
  have hended : ∃ w, w ∈ ended.remaining := ⟨[], rfl⟩
  have hexecuted := hstep (s := executed) .finish rfl rfl hended
  have hexecuting := hstep (s := executing) .executionEnd rfl rfl hexecuted
  have hvalidated := hstep (s := validated) .executionStart rfl rfl hexecuting
  have hvalidating := hstep (s := validating) (.validationEnd 0 0) rfl rfl hvalidated
  have hparsed := hstep (s := parsed) .validationStart rfl rfl hvalidating
  have hparsing := hstep (s := parsing) (.parseEnd .null) rfl rfl hparsed
  have hstarted := hstep (s := started) (.parseStart none .null) rfl rfl hparsing
  have hidle := hstep (s := idle) .start rfl rfl hstarted
  cases s <;> assumption

/-- The stage that some events leave. -/
def after (s : Stage) (w : List Event) : Stage := w.foldl (fun s e => e.next s) s

/-- Every event fits the stage that the events before it leave. -/
def AllFit : Stage → List Event → Prop
  | _, [] => True
  | s, e :: w => e.fits s = true ∧ AllFit (e.next s) w

theorem allFit_iff_forall :
    AllFit s w ↔ ∀ before e after, w = before ++ e :: after → e.fits (s.after before) = true := by
  induction w generalizing s with
  | nil =>
    refine ⟨fun _ before e after h => ?_, fun _ => trivial⟩
    exact absurd h.symm (by simp)
  | cons e w ih =>
    constructor
    · rintro ⟨hfits, hw⟩ before e' after h
      cases before with
      | nil =>
        obtain ⟨rfl, -⟩ := List.cons.inj h
        exact hfits
      | cons e'' before =>
        obtain ⟨rfl, rfl⟩ := List.cons.inj h
        exact ih.1 hw before e' after rfl
    · intro h
      refine ⟨h [] e w rfl, ih.2 ?_⟩
      rintro before e' after rfl
      exact h (e :: before) e' after rfl

/-- Events in order are the beginning of what is left of a whole request, or a shorter beginning
and the end. -/
theorem allFit_iff : AllFit s w ↔
    (∃ rest, w ++ rest ∈ s.remaining) ∨
      ∃ before rest, w = before ++ [.finish] ∧ rest ≠ [] ∧ before ++ rest ∈ s.remaining := by
  induction w generalizing s with
  | nil => exact ⟨fun _ => .inl (exists_mem_remaining s), fun _ => trivial⟩
  | cons e w ih =>
    constructor
    · rintro ⟨hfits, hw⟩
      by_cases hregular : e.next s = s ∨ e.next s = s.follower
      · rcases ih.1 hw with ⟨rest, hrest⟩ | ⟨before, rest, rfl, hne, hrest⟩
        · exact .inl ⟨rest, cons_mem_remaining.2 ⟨hfits, hregular, hrest⟩⟩
        · exact .inr ⟨e :: before, rest, rfl, hne,
            cons_mem_remaining.2 ⟨hfits, hregular, hrest⟩⟩
      · -- The request ends early, and nothing fits after that.
        have hearly : e = .finish := by
          rcases next_of_fits hfits with h | h | h
          · exact absurd (.inl h) hregular
          · exact absurd (.inr h) hregular
          · exact h
        subst hearly
        cases w with
        | nil =>
          obtain ⟨rest, hrest⟩ := exists_mem_remaining s
          refine .inr ⟨[], rest, rfl, ?_, hrest⟩
          rintro rfl
          exact (Event.fits_finish_iff s).1 hfits (nil_mem_remaining_iff.1 hrest)
        | cons e' w => exact absurd (hw.1.symm.trans (fits_ended e')) (by decide)
    · rintro (⟨rest, hrest⟩ | ⟨before, rest, hw, hne, hrest⟩)
      · obtain ⟨hfits, -, hrest⟩ := cons_mem_remaining.1 hrest
        exact ⟨hfits, ih.2 (.inl ⟨rest, hrest⟩)⟩
      · cases before with
        | nil =>
          obtain ⟨rfl, rfl⟩ := List.cons.inj hw
          refine ⟨(Event.fits_finish_iff s).2 ?_, trivial⟩
          rintro rfl
          exact hne hrest
        | cons e' before =>
          obtain ⟨rfl, rfl⟩ := List.cons.inj hw
          obtain ⟨hfits, -, hrest⟩ := cons_mem_remaining.1 hrest
          exact ⟨hfits, ih.2 (.inr ⟨before, rest, rfl, hne, hrest⟩)⟩

end Stage

namespace Runner

variable {ι : Type} [Observing ι]

/-- The calls that tell some events. -/
def telling (events : List Event) : List Trace.Call := events.map .event

theorem stage_run_telling (p : Runner ι × Telemetry) (events : List Event) :
    (run p (telling events)).1.stage = p.1.stage.after events := by
  induction events generalizing p with
  | nil => rfl
  | cons e events ih => exact ih (next p (.event e))

/-- The warnings that a new runner hands over while it is told some events, beside those of
the observers: there are none exactly if the events are the beginning of a whole request in the
documented order, or a proper beginning and then the end.  A call hands over such warnings if
and only if its event does not fit the stage that the earlier events left, and they name the
event and that stage.  The logger of the runner is captured during the calls. -/
theorem warns_of_disorder (hlasting : Lasting ι) (observers : List ι) (data : Data)
    (id operationName : Option String) (t : Telemetry) (events : List Event)
    (hcaptured : ∀ before after, events = before ++ after → after ≠ [] →
      Captured (run (create observers data id operationName t) (telling before)) .warning) :
    ((∀ before e after, events = before ++ e :: after →
        let p := run (create observers data id operationName t) (telling before)
        handsOver .warning p (.event e) = asides .warning p (.event e)) ↔
      (∃ rest, events ++ rest ∈ Event.lifecycle) ∨
        ∃ before rest, events = before ++ [.finish] ∧ rest ≠ [] ∧
          before ++ rest ∈ Event.lifecycle) ∧
    ∀ before e after, events = before ++ e :: after →
      let p := run (create observers data id operationName t) (telling before)
      ∃ own, handsOver .warning p (.event e) = own ++ asides .warning p (.event e) ∧
        (own ≠ [] ↔ e.fits p.1.stage = false) ∧
        ∀ r ∈ own, r.Says .warning "Lifecycle event out of order"
          [("event", e.name), ("state", p.1.stage.name)] := by
  have hwarns : ∀ before e after, events = before ++ e :: after →
      let p := run (create observers data id operationName t) (telling before)
      (warnings p e ≠ [] ↔ e.fits p.1.stage = false) ∧
        ∀ r ∈ warnings p e, r.Says .warning "Lifecycle event out of order"
          [("event", e.name), ("state", p.1.stage.name)] := by
    intro before e after hsplit p
    cases hfits : e.fits p.1.stage with
    | true =>
      have hsilent : warnings p e = [] := warnings_of_fits hfits
      rw [hsilent]
      exact ⟨⟨fun h => absurd rfl h, fun h => absurd h (by decide)⟩,
        fun r hr => absurd hr List.not_mem_nil⟩
    | false =>
      have hheard := hcaptured before (e :: after) hsplit (List.cons_ne_nil _ _)
      obtain ⟨hwarned, hsays⟩ := warnings_of_not_fits hheard hfits
      exact ⟨⟨fun _ => rfl, fun _ => hwarned⟩, hsays⟩
  refine ⟨?_, fun before e after hsplit =>
    ⟨_, handsOver_event hlasting _ e, hwarns before e after hsplit⟩⟩
  rw [← Stage.remaining_idle, ← Stage.allFit_iff, Stage.allFit_iff_forall]
  -- The calls that are not warned of are those whose event fits.
  refine forall_congr' fun before => forall_congr' fun e => forall_congr' fun after =>
    forall_congr' fun hsplit => ?_
  have hstage : (run (create observers data id operationName t) (telling before)).1.stage =
      Stage.idle.after before := stage_run_telling _ before
  have hiff := (hwarns before e after hsplit).1
  rw [hstage] at hiff
  simp only [handsOver_event hlasting]
  rw [List.append_left_eq_self, ← Bool.not_eq_false, ← hiff, not_not]

/-- The parsing of a request ends before it began. -/
theorem warns_of_early_parse_end :
    handsOver .warning relayed (.event .start) = [] ∧
      let p := run relayed (telling [.start])
      handsOver .warning p (.event (.parseEnd .null)) ≠ [] ∧
        ∀ r ∈ handsOver .warning p (.event (.parseEnd .null)),
          r.Says .warning "Lifecycle event out of order"
            [("event", "parse_end"), ("state", "STARTED")] := by
  obtain ⟨-, hwarns⟩ := warns_of_disorder reticent_recorder.lasting [Recorder.create ["start"]]
    Data.empty (some "r-1") none (.create relaying [] ⟨2024, 1, 15, 10, 30, 45, 0⟩)
    [.start, .parseEnd .null, .finish]
    fun before _ _ _ => (captured_relayed .warning).run reticent_recorder (telling before)
  obtain ⟨own, hown, hfits, -⟩ := hwarns [] .start _ rfl
  obtain ⟨own', hown', hfits', hsays⟩ := hwarns [.start] (.parseEnd .null) _ rfl
  -- A recorder hands over nothing of its own.
  have hfirst : handsOver .warning relayed (.event .start) = own :=
    hown.trans (List.append_nil own)
  have hsecond : handsOver .warning (run relayed (telling [.start])) (.event (.parseEnd .null)) =
      own' := hown'.trans (List.append_nil own')
  refine ⟨?_, ?_⟩
  · rw [hfirst]
    by_contra h
    exact absurd (hfits.1 h) (by decide)
  · intro p
    rw [hsecond]
    exact ⟨hfits'.2 rfl, hsays⟩

end Runner

end QueryTelemetry.Request
