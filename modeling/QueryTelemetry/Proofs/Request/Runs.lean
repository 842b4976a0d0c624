import QueryTelemetry.Proofs.Tracing.Session
import QueryTelemetry.Request.Runner

/-!
# Runs of a runner, and observers that only keep more

A caller tells a runner events and closes it, in any order: `answer` is one call,
`run` are some calls.

A proof about a run often needs observers that remember what the real ones
forget.  A map that drops what is remembered is `Faithful` when it commutes with
everything that a runner asks of an observer.  Then it commutes with everything
that the runner does (`run_map`), so remembering changes nothing.
-/

namespace QueryTelemetry.Request

variable {ι α β : Type}

/-! ## Calls of a runner -/

namespace Runner

variable [Observing ι]

/-- What a call leaves: the runner, the state of telemetry and the fault that the
caller sees, if any. -/
def answer (p : Runner ι × Telemetry) (c : Trace.Call) : Runner ι × Telemetry × Option Fault :=
  match c with
  | .event e => p.1.dispatch e p.2
  | .close => ((p.1.close p.2).1, (p.1.close p.2).2, none)

/-- The runner and the state after a call. -/
def next (p : Runner ι × Telemetry) (c : Trace.Call) : Runner ι × Telemetry :=
  ((answer p c).1, (answer p c).2.1)

/-- The runner and the state after some calls. -/
def run (p : Runner ι × Telemetry) (calls : List Trace.Call) : Runner ι × Telemetry :=
  calls.foldl next p

@[simp] theorem run_nil (p : Runner ι × Telemetry) : run p [] = p := rfl

@[simp] theorem run_concat (p : Runner ι × Telemetry) (calls : List Trace.Call) (c : Trace.Call) :
    run p (calls ++ [c]) = next (run p calls) c := by
  rw [run, List.foldl_append]
  rfl

/-! ### One turn -/

/-- The state in which an observer leaves its turn to the next one.  A failure is
reported first, which takes a text. -/
def settled (logger : Nat) (e : Event) (done : Reaction ι) : Except Fault Telemetry :=
  match done.fault with
  | none => .ok done.telemetry
  | some f => reportFailure logger (Observing.kind done.observer) e f done.telemetry

section

variable {logger : Nat} {e : Event} {o : ι} {data : Data} {t : Telemetry}

/-- An observer whose turn is settled takes it before the others. -/
theorem tell_cons_of_ok {t' : Telemetry}
    (h : settled logger e (Observing.react o e data t) = .ok t') (rest : List ι) :
    tell logger e (o :: rest) data t =
      let done := Observing.react o e data t
      let told := tell logger e rest done.data t'
      { told with observers := done.observer :: told.observers } := by
  cases hfault : (Observing.react o e data t).fault with
  | none =>
    simp only [settled, hfault] at h
    obtain rfl := Except.ok.inj h
    simp only [tell, hfault]
  | some f =>
    simp only [settled, hfault] at h
    simp only [tell, hfault, h]

/-- A turn that cannot be settled ends the event. -/
theorem tell_cons_of_error {f : Fault}
    (h : settled logger e (Observing.react o e data t) = .error f) (rest : List ι) :
    tell logger e (o :: rest) data t =
      let done := Observing.react o e data t
      { observers := done.observer :: rest, data := done.data, telemetry := done.telemetry
        fault := some f } := by
  cases hfault : (Observing.react o e data t).fault with
  | none =>
    simp only [settled, hfault] at h
    cases h
  | some g =>
    simp only [settled, hfault] at h
    simp only [tell, hfault, h]

/-- The state after an observer was closed and a failure reported. -/
def closedBy (logger : Nat) (done : ι × Telemetry × Option Fault) : Telemetry :=
  match done.2.2 with
  | none => done.2.1
  | some f =>
    done.2.1.say logger .error "Extension close failed" [("extension", Observing.kind done.1)] f

theorem closeAll_cons (logger : Nat) (o : ι) (rest : List ι) (t : Telemetry) :
    closeAll logger (o :: rest) t =
      let done := Observing.close o t
      let others := closeAll logger rest (closedBy logger done)
      (done.1 :: others.1, others.2) := by
  cases hfault : (Observing.close o t).2.2 <;> simp only [closeAll, closedBy, hfault]

end

end Runner

/-! ## Maps of observers -/

/-- A reaction with the observer seen through a map. -/
def Reaction.map (f : α → β) (r : Reaction α) : Reaction β :=
  { observer := f r.observer, data := r.data, telemetry := r.telemetry, fault := r.fault }

/-- What telling an event leaves, with the observers seen through a map. -/
def Told.map (f : α → β) (told : Told α) : Told β :=
  { observers := told.observers.map f, data := told.data, telemetry := told.telemetry
    fault := told.fault }

/-- A runner with the observers seen through a map. -/
def Runner.map (f : α → β) (r : Runner α) : Runner β := { r with observers := r.observers.map f }

/-- A map of observers that commutes with everything that a runner asks of them. -/
structure Faithful [Observing α] [Observing β] (f : α → β) : Prop where
  kind : ∀ o, Observing.kind (f o) = Observing.kind o
  react : ∀ o e data t, Observing.react (f o) e data t = (Observing.react o e data t).map f
  close : ∀ o t, Observing.close (f o) t = (f (Observing.close o t).1, (Observing.close o t).2)

namespace Runner

variable [Observing α] [Observing β] {f : α → β}

theorem tell_map (hf : Faithful f) (logger : Nat) (e : Event) (os : List α) (data : Data)
    (t : Telemetry) : tell logger e (os.map f) data t = (tell logger e os data t).map f := by
  induction os generalizing data t with
  | nil => rfl
  | cons o rest ih =>
    simp only [List.map_cons, tell, hf.react, Reaction.map, hf.kind]
    split
    · simp only [Told.map, List.map_cons]
    · simp only [ih, Told.map, List.map_cons]

theorem closeAll_map (hf : Faithful f) (logger : Nat) (os : List α) (t : Telemetry) :
    closeAll logger (os.map f) t =
      ((closeAll logger os t).1.map f, (closeAll logger os t).2) := by
  induction os generalizing t with
  | nil => rfl
  | cons o rest ih =>
    simp only [List.map_cons, closeAll, hf.close, hf.kind]
    rw [ih]

theorem dispatch_map (hf : Faithful f) (r : Runner α) (e : Event) (t : Telemetry) :
    (r.map f).dispatch e t =
      ((r.dispatch e t).1.map f, (r.dispatch e t).2.1, (r.dispatch e t).2.2) := by
  have htold : tell (r.map f).logger e (r.map f).observers (r.map f).data
      ((r.map f).reportOrder e ((r.map f).entered t)) = _ :=
    tell_map hf r.logger e r.observers r.data (r.reportOrder e (r.entered t))
  simp only [dispatch, htold]
  rfl

theorem close_map (hf : Faithful f) (r : Runner α) (t : Telemetry) :
    (r.map f).close t = ((r.close t).1.map f, (r.close t).2) := by
  by_cases hclosed : r.closed = true
  · rw [close_of_closed (r := r) hclosed, close_of_closed (r := r.map f) hclosed]
  · have hclosed' : ¬ (r.map f).closed = true := hclosed
    have hall : closeAll (r.map f).logger (r.map f).observers
        ((r.map f).reportEarly ((r.map f).entered t)) = _ :=
      closeAll_map hf r.logger r.observers (r.reportEarly (r.entered t))
    rw [close, close, if_neg hclosed, if_neg hclosed']
    simp only [hall]
    rfl

theorem answer_map (hf : Faithful f) (p : Runner α × Telemetry) (c : Trace.Call) :
    answer (p.1.map f, p.2) c =
      ((answer p c).1.map f, (answer p c).2.1, (answer p c).2.2) := by
  cases c with
  | event e => exact dispatch_map hf p.1 e p.2
  | close =>
    rw [answer, close_map hf]
    rfl

theorem next_map (hf : Faithful f) (p : Runner α × Telemetry) (c : Trace.Call) :
    next (p.1.map f, p.2) c = ((next p c).1.map f, (next p c).2) := by
  rw [next, answer_map hf]
  rfl

/-- What observers remember besides changes nothing in a run. -/
theorem run_map (hf : Faithful f) (p : Runner α × Telemetry) (calls : List Trace.Call) :
    run (p.1.map f, p.2) calls = ((run p calls).1.map f, (run p calls).2) := by
  induction calls generalizing p with
  | nil => rfl
  | cons c calls ih =>
    rw [run, List.foldl_cons, next_map hf]
    exact ih (next p c)

end Runner

end QueryTelemetry.Request
