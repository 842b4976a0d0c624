import Mathlib.Data.List.Induction
import QueryTelemetry.Proofs.Fault.Steps
import QueryTelemetry.Proofs.Request.Runs
import QueryTelemetry.Proofs.Request.Report
import QueryTelemetry.Request.Recorder

/-!
# A failing observer keeps nothing from the others

A caller asks a runner to tell events and to close, in any order.  Observers are
of any type and may fail at any call.  As long as the faults that they raise have
texts, no call of the runner raises anything.  Every observer hears every event
and the first close, in the order of the calls, whatever the others do; within
one event the observers take turns in their order, and a failure leaves one
record (`Contained`).

The report of a failure shows its text, and a fault may have none: the text of an
error of this library is its message, which need not be a text.  Such a fault cuts
the event short (`Runner.CutShort`).  The fault of its text escapes to the caller, and the
observers that come later do not hear of the event.  So a run is contained exactly
if every fault that is raised in it has a text (`Runner.run_contains_failures_iff`).

What an observer hears is seen by watching it: `Watched` keeps an observer
together with the calls that it has heard.  Watching changes nothing
(`run_unwatched`).
-/

namespace QueryTelemetry.Request

variable {ι : Type}

section

variable [Observing ι]

/-- The calls that reach the observers: every close after the first is left
out. -/
def passed : Bool → List Trace.Call → List Trace.Call
  | _, [] => []
  | closed, .event e :: rest => .event e :: passed closed rest
  | false, .close :: rest => .close :: passed true rest
  | true, .close :: rest => passed true rest

/-! ## One turn -/

/-- A fault has a text. -/
def Speaks (f : Fault) : Prop := ∃ shown, f.text = .ok shown

/-- The state after the turn of an observer: as the observer left it, or with one
record of its failure, if the logger logs errors.  The record shows the kind of
the observer, which is the name of a program, and the name of the event. -/
structure Reported (logger : Nat) (e : Event) (done : Reaction ι) (t : Telemetry) : Prop where
  silent : done.fault = none → t = done.telemetry
  once : ∀ f l, done.fault = some f → done.telemetry.registry.loggers[logger]? = some l →
    l.masker.broken = none → ∃ shown, f.text = .ok shown ∧
      t = if l.isEnabled .error then
          done.telemetry.offered
            (Runner.failureRecord l (Observing.kind done.observer) e f shown done.telemetry)
            l.handlers
        else done.telemetry
  names : ∀ f l shown, l.masker = .standard →
    (∀ c ∈ (Observing.kind done.observer).toList, Log.Masker.isNamePart c = true) →
    (Runner.failureRecord l (Observing.kind done.observer) e f shown done.telemetry).extra =
      [("extension", .text (Observing.kind done.observer)), ("event", .text e.name)]

namespace Runner

variable {logger : Nat} {e : Event}

/-- What is raised in a turn that is settled has a text. -/
theorem speaks_of_settled {done : Reaction ι} {t' : Telemetry}
    (h : settled logger e done = .ok t') (f : Fault) (hfault : done.fault = some f) : Speaks f := by
  rw [settled, hfault] at h
  obtain ⟨shown, htext, -⟩ := reportFailure_eq_ok h
  exact ⟨shown, htext⟩

theorem exists_settled {done : Reaction ι} (h : ∀ f, done.fault = some f → Speaks f) :
    ∃ t', settled logger e done = .ok t' := by
  cases hfault : done.fault with
  | none => exact ⟨_, by rw [settled, hfault]⟩
  | some f =>
    obtain ⟨shown, htext⟩ := h f hfault
    simp only [settled, hfault, reportFailure, htext]
    exact ⟨_, rfl⟩

/-- A turn that cannot be settled has raised a fault without a text. -/
theorem textless_of_settled {done : Reaction ι} {f' : Fault}
    (h : settled logger e done = .error f') : ∃ f, done.fault = some f ∧ f.text = .error f' := by
  cases hfault : done.fault with
  | none =>
    rw [settled, hfault] at h
    cases h
  | some f =>
    simp only [settled, hfault, reportFailure] at h
    refine ⟨f, rfl, ?_⟩
    obtain htext | ⟨shown, -, h⟩ := eq_error_of_bind_eq_error h
    · exact htext
    · cases h

theorem reported_of_settled {done : Reaction ι} {t' : Telemetry}
    (h : settled logger e done = .ok t') : Reported logger e done t' := by
  refine ⟨fun hfault => ?_, ?_, ?_⟩
  · rw [settled, hfault] at h
    exact (Except.ok.inj h).symm
  · intro f l hfault hlogger hmasker
    obtain ⟨shown, htext⟩ := speaks_of_settled h f hfault
    refine ⟨shown, htext, ?_⟩
    simp only [settled, hfault, reportFailure_of_text htext hlogger hmasker] at h
    exact (Except.ok.inj h).symm
  · exact fun f l shown hmasker hkind => extra_failureRecord hmasker hkind

/-- If no failure escapes, the turn of the first observer is settled, and none
escapes from the turns of the others. -/
theorem fault_tell_cons {o : ι} {rest : List ι} {data : Data} {t : Telemetry}
    (h : (tell logger e (o :: rest) data t).fault = none) :
    ∃ t', settled logger e (Observing.react o e data t) = .ok t' ∧
      (tell logger e rest (Observing.react o e data t).data t').fault = none := by
  cases hturn : settled logger e (Observing.react o e data t) with
  | ok t' =>
    rw [tell_cons_of_ok hturn] at h
    exact ⟨t', rfl, h⟩
  | error f =>
    rw [tell_cons_of_error hturn] at h
    cases h

/-- The observers take turns in their order, if no failure escapes. -/
theorem tell_append {first : List ι} {data : Data} {t : Telemetry} (rest : List ι)
    (h : (tell logger e (first ++ rest) data t).fault = none) :
    tell logger e (first ++ rest) data t =
      let head := tell logger e first data t
      let told := tell logger e rest head.data head.telemetry
      { told with observers := head.observers ++ told.observers } := by
  induction first generalizing data t with
  | nil => rfl
  | cons o first ih =>
    obtain ⟨t', hturn, hothers⟩ := fault_tell_cons h
    rw [List.cons_append, tell_cons_of_ok hturn, tell_cons_of_ok hturn]
    simp only [ih hothers, List.cons_append]

/-- A failure that escapes is that of the text of a fault.  The observers before the
one that raised it have taken their turns, and those behind it are left as they
were. -/
theorem tell_of_escape {os : List ι} {data : Data} {t : Telemetry} {f' : Fault}
    (h : (tell logger e os data t).fault = some f') :
    ∃ first o rest f, os = first ++ o :: rest ∧
      let head := tell logger e first data t
      let done := Observing.react o e head.data head.telemetry
      head.fault = none ∧ done.fault = some f ∧ f.text = .error f' ∧
        tell logger e os data t =
          { observers := head.observers ++ done.observer :: rest, data := done.data
            telemetry := done.telemetry, fault := some f' } := by
  induction os generalizing data t with
  | nil => cases h
  | cons o os ih =>
    cases hturn : settled logger e (Observing.react o e data t) with
    | error g =>
      obtain ⟨f, hfault, htext⟩ := textless_of_settled hturn
      rw [tell_cons_of_error hturn] at h ⊢
      obtain rfl := Option.some.inj h
      exact ⟨[], o, os, f, rfl, rfl, hfault, htext, rfl⟩
    | ok t' =>
      rw [tell_cons_of_ok hturn] at h ⊢
      obtain ⟨first, o', rest, f, rfl, hhead, hfault, htext, htold⟩ := ih h
      refine ⟨o :: first, o', rest, f, rfl, ?_⟩
      simp only [tell_cons_of_ok hturn, htold, List.cons_append]
      exact ⟨hhead, hfault, htext, trivial⟩

end Runner

end

/-! ## Watching observers -/

/-- An observer together with the calls that it has heard and the faults that it
has raised at events. -/
structure Watched (ι : Type) where
  observer : ι
  heard : List Trace.Call
  raised : List Fault

instance [Observing ι] : Observing (Watched ι) where
  kind w := Observing.kind w.observer
  react w e data t :=
    let done := Observing.react w.observer e data t
    { done with observer :=
      { observer := done.observer, heard := w.heard ++ [.event e]
        raised := w.raised ++ done.fault.toList } }
  close w t :=
    let done := Observing.close w.observer t
    ({ w with observer := done.1, heard := w.heard ++ [.close] }, done.2)

theorem Watched.faithful [Observing ι] : Faithful fun w : Watched ι => w.observer :=
  ⟨fun _ => rfl, fun _ _ _ _ => rfl, fun _ _ => rfl⟩

/-- Every fault that some observers have raised has a text. -/
def Outspoken (ws : List (Watched ι)) : Prop := ∀ w ∈ ws, ∀ f ∈ w.raised, Speaks f

/-- What some observers have raised, others have raised too. -/
def Recalls (ws ws' : List (Watched ι)) : Prop :=
  ∀ w ∈ ws, ∃ w' ∈ ws', ∀ f ∈ w.raised, f ∈ w'.raised

namespace Recalls

variable {ws ws' ws'' : List (Watched ι)}

theorem refl (ws : List (Watched ι)) : Recalls ws ws := fun w hw => ⟨w, hw, fun _ hf => hf⟩

theorem trans (h : Recalls ws ws') (h' : Recalls ws' ws'') : Recalls ws ws'' := by
  intro w hw
  obtain ⟨w', hw', hf⟩ := h w hw
  obtain ⟨w'', hw'', hf'⟩ := h' w' hw'
  exact ⟨w'', hw'', fun f h => hf' f (hf f h)⟩

theorem cons {w w' : Watched ι} (hw : ∀ f ∈ w.raised, f ∈ w'.raised) (h : Recalls ws ws') :
    Recalls (w :: ws) (w' :: ws') := by
  intro v hv
  rcases List.mem_cons.1 hv with rfl | hv
  · exact ⟨w', List.mem_cons_self .., hw⟩
  · obtain ⟨v', hv', hf⟩ := h v hv
    exact ⟨v', List.mem_cons_of_mem _ hv', hf⟩

theorem outspoken (h : Recalls ws ws') (h' : Outspoken ws') : Outspoken ws := by
  intro w hw f hf
  obtain ⟨w', hw', hsub⟩ := h w hw
  exact h' w' hw' f (hsub f hf)

end Recalls

namespace Runner

variable {logger : Nat} {e : Event}

/-- The runner with its observers watched from now on. -/
def watched (r : Runner ι) : Runner (Watched ι) :=
  { r with observers := r.observers.map fun o => { observer := o, heard := [], raised := [] } }

/-- The runner without the watching. -/
def unwatched (r : Runner (Watched ι)) : Runner ι :=
  { r with observers := r.observers.map (·.observer) }

theorem unwatched_watched (r : Runner ι) : r.watched.unwatched = r := by
  simp [watched, unwatched, Function.comp_def]

variable [Observing ι]

/-! ### Watched events -/

theorem recalls_react (w : Watched ι) (data : Data) (t : Telemetry) :
    ∀ f ∈ w.raised, f ∈ (Observing.react w e data t).observer.raised :=
  fun _ hf => List.mem_append_left _ hf

theorem recalls_tell (logger : Nat) (e : Event) (ws : List (Watched ι)) (data : Data)
    (t : Telemetry) : Recalls ws (tell logger e ws data t).observers := by
  induction ws generalizing data t with
  | nil => exact .refl []
  | cons w rest ih =>
    simp only [tell]
    split
    · exact .cons (recalls_react w data t) (.refl rest)
    · exact .cons (recalls_react w data t) (ih _ _)

/-- No failure escapes if every fault that is raised has a text. -/
theorem fault_tell {ws : List (Watched ι)} {data : Data} {t : Telemetry}
    (h : Outspoken (tell logger e ws data t).observers) :
    (tell logger e ws data t).fault = none := by
  induction ws generalizing data t with
  | nil => rfl
  | cons w rest ih =>
    cases hturn : settled logger e (Observing.react w e data t) with
    | ok t' =>
      rw [tell_cons_of_ok hturn] at h ⊢
      exact ih fun w hw => h w (List.mem_cons_of_mem _ hw)
    | error f' =>
      obtain ⟨f, hfault, htext⟩ := textless_of_settled hturn
      rw [tell_cons_of_error hturn] at h
      have hraised : f ∈ (Observing.react w e data t).observer.raised := by
        refine List.mem_append_right _ ?_
        rw [show (Observing.react w.observer e data t).fault = some f from hfault]
        exact List.mem_singleton_self f
      obtain ⟨shown, hshown⟩ := h _ (List.mem_cons_self ..) f hraised
      cases htext.symm.trans hshown

/-- If no failure escapes, every fault that is raised has a text. -/
theorem outspoken_tell {ws : List (Watched ι)} {data : Data} {t : Telemetry}
    (hws : Outspoken ws) (h : (tell logger e ws data t).fault = none) :
    Outspoken (tell logger e ws data t).observers := by
  induction ws generalizing data t with
  | nil => exact hws
  | cons w rest ih =>
    obtain ⟨t', hturn, hothers⟩ := fault_tell_cons h
    rw [tell_cons_of_ok hturn]
    intro w' hw' f hf
    rcases List.mem_cons.1 hw' with rfl | hw'
    · rcases List.mem_append.1 hf with hf | hf
      · exact hws w (List.mem_cons_self ..) f hf
      · exact speaks_of_settled hturn f (Option.mem_toList.1 hf)
    · exact ih (fun w hw => hws w (List.mem_cons_of_mem _ hw)) hothers w' hw' f hf

/-- Everybody hears an event, if no failure escapes. -/
theorem heard_tell {ws : List (Watched ι)} {data : Data} {t : Telemetry}
    (h : (tell logger e ws data t).fault = none) :
    (tell logger e ws data t).observers.map (·.heard) = ws.map (·.heard ++ [.event e]) := by
  induction ws generalizing data t with
  | nil => rfl
  | cons w rest ih =>
    obtain ⟨t', hturn, hothers⟩ := fault_tell_cons h
    rw [tell_cons_of_ok hturn]
    simp only [List.map_cons, ih hothers]
    rfl

/-! ### Watched closes -/

theorem recalls_closeAll (logger : Nat) (ws : List (Watched ι)) (t : Telemetry) :
    Recalls ws (closeAll logger ws t).1 := by
  induction ws generalizing t with
  | nil => exact .refl []
  | cons w rest ih => exact .cons (fun _ hf => hf) (ih _)

/-- Nothing that is raised when an observer is closed counts. -/
theorem outspoken_closeAll (logger : Nat) {ws : List (Watched ι)} (t : Telemetry)
    (hws : Outspoken ws) : Outspoken (closeAll logger ws t).1 := by
  induction ws generalizing t with
  | nil => exact hws
  | cons w rest ih =>
    intro w' hw' f hf
    rcases List.mem_cons.1 hw' with rfl | hw'
    · exact hws w (List.mem_cons_self ..) f hf
    · exact ih _ (fun w hw => hws w (List.mem_cons_of_mem _ hw)) w' hw' f hf

/-- Everybody hears a close. -/
theorem heard_closeAll (logger : Nat) (ws : List (Watched ι)) (t : Telemetry) :
    (closeAll logger ws t).1.map (·.heard) = ws.map (·.heard ++ [.close]) := by
  induction ws generalizing t with
  | nil => rfl
  | cons w rest ih =>
    simp only [closeAll, List.map_cons, ih]
    rfl

/-! ## Runs -/

theorem answer_unwatched (p : Runner (Watched ι) × Telemetry) (c : Trace.Call) :
    answer (p.1.unwatched, p.2) c =
      ((answer p c).1.unwatched, (answer p c).2.1, (answer p c).2.2) :=
  answer_map Watched.faithful p c

/-- Watching the observers changes nothing. -/
theorem run_unwatched (p : Runner (Watched ι) × Telemetry) (calls : List Trace.Call) :
    run (p.1.unwatched, p.2) calls = ((run p calls).1.unwatched, (run p calls).2) :=
  run_map Watched.faithful p calls

theorem recalls_next (p : Runner (Watched ι) × Telemetry) (c : Trace.Call) :
    Recalls p.1.observers (next p c).1.observers := by
  cases c with
  | event e => exact recalls_tell p.1.logger e p.1.observers p.1.data _
  | close =>
    rw [next, answer, close]
    split
    · exact .refl _
    · exact recalls_closeAll p.1.logger p.1.observers _

theorem recalls_run (p : Runner (Watched ι) × Telemetry) (calls : List Trace.Call) :
    Recalls p.1.observers (run p calls).1.observers := by
  induction calls using List.reverseRecOn with
  | nil => exact .refl _
  | append_singleton calls c ih =>
    rw [run_concat]
    exact ih.trans (recalls_next _ c)

/-- A call raises nothing if every fault that is raised in it has a text. -/
theorem fault_answer {p : Runner (Watched ι) × Telemetry} {c : Trace.Call}
    (h : Outspoken (next p c).1.observers) : (answer p c).2.2 = none := by
  cases c with
  | event e => exact fault_tell h
  | close => rfl

/-- What has been raised has texts, if that was so before and the call raises
nothing. -/
theorem outspoken_next {p : Runner (Watched ι) × Telemetry} {c : Trace.Call}
    (hp : Outspoken p.1.observers) (h : (answer p c).2.2 = none) :
    Outspoken (next p c).1.observers := by
  cases c with
  | event e => exact outspoken_tell hp h
  | close =>
    rw [next, answer, close]
    split
    · exact hp
    · exact outspoken_closeAll _ _ hp

theorem passed_concat (closed : Bool) (calls : List Trace.Call) (c : Trace.Call) :
    passed closed (calls ++ [c]) =
      passed closed calls ++ passed (closed || calls.any (· matches .close)) [c] := by
  induction calls generalizing closed with
  | nil => simp [passed]
  | cons d rest ih =>
    cases d with
    | event e => simp [passed, ih]
    | close => cases closed <;> simp [passed, ih]

omit [Observing ι] in
theorem map_heard_concat (ws : List (Watched ι)) (c : Trace.Call) :
    ws.map (·.heard ++ [c]) = (ws.map (·.heard)).map (· ++ [c]) := by
  rw [List.map_map]
  rfl

/-- What every observer has heard at any point of a run, and whether the runner is
closed by then. -/
theorem heard_run {r : Runner ι} {t : Telemetry} {calls : List Trace.Call}
    (h : Outspoken (run (r.watched, t) calls).1.observers) :
    (run (r.watched, t) calls).1.closed = (r.closed || calls.any (· matches .close)) ∧
      (run (r.watched, t) calls).1.observers.map (·.heard) =
        r.observers.map fun _ => passed r.closed calls := by
  induction calls using List.reverseRecOn with
  | nil =>
    refine ⟨(Bool.or_false _).symm, ?_⟩
    simp [watched, passed, Function.comp_def]
  | append_singleton calls c ih =>
    rw [run_concat] at h ⊢
    obtain ⟨hclosed, hheard⟩ := ih ((recalls_next _ c).outspoken h)
    rw [passed_concat]
    generalize run (r.watched, t) calls = p at h hclosed hheard ⊢
    cases c with
    | event e =>
      refine ⟨?_, ?_⟩
      · rw [List.any_append, ← Bool.or_assoc, ← hclosed]
        exact (Bool.or_false _).symm
      · refine (heard_tell (fault_tell h)).trans ?_
        rw [map_heard_concat, hheard, List.map_map]
        rfl
    | close =>
      refine ⟨?_, ?_⟩
      · rw [List.any_append]
        refine (closed_close p.1 p.2).trans ?_
        simp
      · rw [← hclosed]
        by_cases hp : p.1.closed = true
        · rw [next, answer, close_of_closed hp, hp]
          simpa [passed] using hheard
        · rw [next, answer, close, if_neg hp, Bool.eq_false_iff.2 hp]
          refine (heard_closeAll p.1.logger p.1.observers _).trans ?_
          rw [map_heard_concat, hheard, List.map_map]
          rfl

/-- An event of a runner: every observer takes its turn once, in their order, and
a failure leaves one record before the next turn. -/
def InTurn (r : Runner ι) (e : Event) (t : Telemetry) : Prop :=
  ∀ first o rest, r.observers = first ++ o :: rest →
    let head := tell r.logger e first r.data (r.reportOrder e (r.entered t))
    let done := Observing.react o e head.data head.telemetry
    ∃ reported, Reported r.logger e done reported ∧
      let tail := tell r.logger e rest done.data reported
      (r.dispatch e t).1.observers = head.observers ++ done.observer :: tail.observers ∧
        (r.dispatch e t).1.data = tail.data ∧
        (r.dispatch e t).2.1 = tail.telemetry.withLogging t.ambient.logging

/-- An event that is cut short: the observers take turns until one raises a fault
without a text.  The fault of that text escapes, nothing is reported, and the
observers that follow are as they were. -/
def CutShort (r : Runner ι) (e : Event) (t : Telemetry) (escaped : Fault) : Prop :=
  ∃ first o rest f, r.observers = first ++ o :: rest ∧
    let head := tell r.logger e first r.data (r.reportOrder e (r.entered t))
    let done := Observing.react o e head.data head.telemetry
    head.fault = none ∧ done.fault = some f ∧ f.text = .error escaped ∧
      (r.dispatch e t).1.observers = head.observers ++ done.observer :: rest ∧
      (r.dispatch e t).1.data = done.data ∧
      (r.dispatch e t).2.1 = done.telemetry.withLogging t.ambient.logging

theorem inTurn_of_fault {r : Runner ι} {t : Telemetry} (h : (r.dispatch e t).2.2 = none) :
    r.InTurn e t := by
  intro first o rest hobservers head done
  have h : (tell r.logger e r.observers r.data (r.reportOrder e (r.entered t))).fault = none := h
  rw [hobservers] at h
  have happend := tell_append (o :: rest) h
  rw [happend] at h
  obtain ⟨t', hturn, -⟩ := fault_tell_cons h
  refine ⟨t', reported_of_settled hturn, ?_⟩
  intro tail
  have htold : tell r.logger e r.observers r.data (r.reportOrder e (r.entered t)) =
      { tail with observers := head.observers ++ done.observer :: tail.observers } := by
    rw [hobservers, happend]
    simp only [tell_cons_of_ok hturn]
    rfl
  refine ⟨?_, ?_, ?_⟩ <;> rw [dispatch, htold]

theorem cutShort_of_fault {r : Runner ι} {t : Telemetry} {f : Fault}
    (h : (r.dispatch e t).2.2 = some f) : r.CutShort e t f := by
  have hescaped : (tell r.logger e r.observers r.data (r.reportOrder e (r.entered t))).fault =
      some f := h
  obtain ⟨first, o, rest, g, hobservers, hhead, hfault, htext, htold⟩ := tell_of_escape hescaped
  refine ⟨first, o, rest, g, hobservers, hhead, hfault, htext, ?_, ?_, ?_⟩ <;>
    rw [dispatch, htold]

theorem length_next (p : Runner ι × Telemetry) (c : Trace.Call) :
    (next p c).1.observers.length = p.1.observers.length := by
  cases c with
  | event e => exact length_tell ..
  | close =>
    rw [next, answer, close]
    split
    · rfl
    · exact length_closeAll ..

theorem length_run (p : Runner ι × Telemetry) (calls : List Trace.Call) :
    (run p calls).1.observers.length = p.1.observers.length := by
  induction calls using List.reverseRecOn with
  | nil => rfl
  | append_singleton calls c ih => rw [run_concat, length_next, ih]

end Runner

/-! ## Containment -/

section

variable [Observing ι]

/-- The failures in a run are contained: no call raises anything, every event gives
every observer its turn, and what each observer hears are the calls, without the closes
after the first. -/
structure Contained (r : Runner ι) (t : Telemetry) (calls : List Trace.Call) : Prop where
  silent : ∀ before c after, calls = before ++ c :: after →
    (Runner.answer (Runner.run (r, t) before) c).2.2 = none
  inTurn : ∀ before e after, calls = before ++ .event e :: after →
    (Runner.run (r, t) before).1.InTurn e (Runner.run (r, t) before).2
  heard : ∀ w ∈ (Runner.run (r.watched, t) calls).1.observers, w.heard = passed r.closed calls

namespace Runner

theorem run_watched (r : Runner ι) (t : Telemetry) (calls : List Trace.Call) :
    run (r, t) calls = ((run (r.watched, t) calls).1.unwatched, (run (r.watched, t) calls).2) := by
  rw [← run_unwatched (r.watched, t) calls, unwatched_watched]

theorem fault_answer_watched (r : Runner ι) (t : Telemetry) (calls : List Trace.Call)
    (c : Trace.Call) :
    (answer (run (r, t) calls) c).2.2 = (answer (run (r.watched, t) calls) c).2.2 := by
  rw [run_watched, answer_unwatched]

omit [Observing ι] in
theorem outspoken_watched (r : Runner ι) : Outspoken r.watched.observers := by
  intro w hw f hf
  obtain ⟨o, -, rfl⟩ := List.mem_map.1 hw
  exact absurd hf List.not_mem_nil

/-- If no call raises anything, every fault that is raised in a run has a text. -/
theorem outspoken_run {r : Runner ι} {t : Telemetry} {calls : List Trace.Call}
    (h : ∀ before c after, calls = before ++ c :: after →
      (answer (run (r, t) before) c).2.2 = none) :
    Outspoken (run (r.watched, t) calls).1.observers := by
  induction calls using List.reverseRecOn with
  | nil => exact outspoken_watched r
  | append_singleton calls c ih =>
    have hbefore := ih fun before d after hcalls => h before d (after ++ [c]) (by simp [hcalls])
    have hlast := h calls c [] rfl
    rw [fault_answer_watched] at hlast
    rw [run_concat]
    exact outspoken_next hbefore hlast

theorem contained_of_outspoken {r : Runner ι} {t : Telemetry} {calls : List Trace.Call}
    (h : Outspoken (run (r.watched, t) calls).1.observers) : Contained r t calls := by
  have hquiet : ∀ before c after, calls = before ++ c :: after →
      (answer (run (r, t) before) c).2.2 = none := by
    rintro before c after rfl
    have hsplit : before ++ c :: after = (before ++ [c]) ++ after := by simp
    rw [hsplit, run, List.foldl_append] at h
    have hspeaks := (recalls_run _ after).outspoken h
    rw [fault_answer_watched]
    refine fault_answer ?_
    rw [← run_concat]
    exact hspeaks
  refine ⟨hquiet, fun before e after hcalls => ?_, fun w hw => ?_⟩
  · exact inTurn_of_fault (hquiet before (.event e) after hcalls)
  · have hmem := List.mem_map_of_mem (f := Watched.heard) hw
    rw [(heard_run h).2] at hmem
    obtain ⟨-, -, hw⟩ := List.mem_map.1 hmem
    exact hw.symm

/-- The failures in a run are contained exactly if every fault that an observer raises at
an event has a text.  An event in which nothing escapes gives every observer its turn; a
fault that escapes from a call cuts an event short.  Watching the observers changes
nothing. -/
theorem run_contains_failures_iff (r : Runner ι) (t : Telemetry) (calls : List Trace.Call) :
    (Contained r t calls ↔ Outspoken (run (r.watched, t) calls).1.observers) ∧
    (∀ before c after, calls = before ++ c :: after →
      let p := run (r, t) before
      (∀ e, c = .event e → (answer p c).2.2 = none → p.1.InTurn e p.2) ∧
        ∀ f, (answer p c).2.2 = some f → ∃ e, c = .event e ∧ p.1.CutShort e p.2 f) ∧
    (run (r.watched, t) calls).1.unwatched = (run (r, t) calls).1 ∧
    (run (r.watched, t) calls).2 = (run (r, t) calls).2 ∧
    (run (r.watched, t) calls).1.observers.length = r.observers.length := by
  refine ⟨⟨fun h => outspoken_run h.silent, contained_of_outspoken⟩, ?_, ?_, ?_, ?_⟩
  · intro before c after hcalls p
    refine ⟨?_, fun f hfault => ?_⟩
    · rintro e rfl hfault
      exact inTurn_of_fault hfault
    · cases c with
      | event e => exact ⟨e, rfl, cutShort_of_fault hfault⟩
      | close => cases hfault
  · exact (congrArg Prod.fst (run_watched r t calls)).symm
  · exact (congrArg Prod.snd (run_watched r t calls)).symm
  · rw [length_run, watched, List.length_map]

end Runner

end

/-! ## Observers whose faults have texts -/

theorem Recorder.speaks_of_react {r : Recorder} {e : Event} {data : Data} {t : Telemetry}
    {f : Fault} (h : (Observing.react r e data t).fault = some f) : Speaks f := by
  change r.failure e.name = some f at h
  rw [failure] at h
  split at h
  · obtain rfl := Option.some.inj h
    exact ⟨e.name ++ " failed", rfl⟩
  · cases h

/-- No failure of a recorder escapes. -/
theorem Recorder.fault_tell (logger : Nat) (e : Event) (os : List Recorder) (data : Data)
    (t : Telemetry) : (Runner.tell logger e os data t).fault = none := by
  induction os generalizing data t with
  | nil => rfl
  | cons o rest ih =>
    obtain ⟨t', hturn⟩ : ∃ t', Runner.settled logger e (Observing.react o e data t) = .ok t' :=
      Runner.exists_settled fun f => Recorder.speaks_of_react
    rw [Runner.tell_cons_of_ok hturn]
    exact ih _ t'

/-- Two recorders, of which the first fails at the start. -/
theorem run_contains_failure_at_start :
    let first := Recorder.create ["start"]
    let second := Recorder.create []
    let now : Log.Timestamp := ⟨2024, 1, 15, 10, 30, 45, 0⟩
    let t := Telemetry.create .initial [] now
    let made := Runner.create [first, second] Data.empty (some "r-1") none t
    let calls : List Trace.Call := [.event .start, .close, .event .finish, .close]
    (Runner.answer made (.event .start)).2.2 = none ∧
      (Runner.run (made.1.watched, made.2) calls).1.observers.length = 2 ∧
      ∀ w ∈ (Runner.run (made.1.watched, made.2) calls).1.observers,
        w.heard = [.event .start, .close, .event .finish] := by
  intro first second now t made calls
  obtain ⟨hiff, -, -, -, hlength⟩ := Runner.run_contains_failures_iff made.1 made.2 calls
  have hcontained : Contained made.1 made.2 calls := by
    refine hiff.2 (Runner.outspoken_run fun before c after _ => ?_)
    cases c with
    | event e => exact Recorder.fault_tell ..
    | close => rfl
  exact ⟨hcontained.silent [] (.event .start) _ rfl, hlength, hcontained.heard⟩

/-! ## A fault without a text -/

/-- An observer that raises the same fault at every event, if it has one. -/
structure Failing where
  fault : Option Fault

instance : Observing Failing where
  kind _ := "Failing"
  react o _ data t := { observer := o, data, telemetry := t, fault := o.fault }
  close o t := (o, t, none)

/-- The first of two observers raises an error of this library whose message is a number.
The start of the request escapes as another fault, and the second observer never hears of
it. -/
theorem textless_failure_escapes :
    let textless : Fault := .reported .general (.int 5) (.dict []) none
    let now : Log.Timestamp := ⟨2024, 1, 15, 10, 30, 45, 0⟩
    let made := Runner.create [Failing.mk (some textless), ⟨none⟩] Data.empty (some "r-1") none
      (.create .initial [] now)
    (Runner.answer made (.event .start)).2.2 =
        some (.ofType "__str__ returned non-string (type int)") ∧
      (Runner.run (made.1.watched, made.2) [.event .start]).1.observers.map (·.heard) =
        [[.event .start], []] ∧
      ¬ Contained made.1 made.2 [.event .start] := by
  intro textless now made
  have hescaped : (Runner.answer made (.event .start)).2.2 =
      some (.ofType "__str__ returned non-string (type int)") := rfl
  refine ⟨hescaped, rfl, fun h => ?_⟩
  cases hescaped.symm.trans (h.silent [] (.event .start) [] rfl)

end QueryTelemetry.Request
