import QueryTelemetry.Proofs.Request.Runs
import QueryTelemetry.Proofs.Tracing.Twin
import QueryTelemetry.Request.Participant

/-!
# A service and its requests

A service has many requests on their way at a time.  Every request has a runner
and data of its own.  The state of telemetry is shared, and so are the factories
that make the observers of a request.  A caller creates requests, calls the runners
in any order and from anywhere, and changes the data of a request between calls.

`Attended` keeps an observer together with its history: what it was when it was
made, the visits that it has received, and the entries of the spans that were
started in its turns.  Keeping the history changes nothing (`run_unattended`).

A turn of an observer is a visit to a session if the observer traces, and leaves
the journal alone if it does not (`turn_react`, `turn_close`).
-/

namespace QueryTelemetry

/-! ## Who leaves the journal alone -/

namespace Telemetry

variable {t t' : Telemetry} {logger : Nat} {level : Log.Level} {message : String}

theorem journal_log {fields : Fields} (h : t.log logger level message fields = .ok t') :
    t'.journal = t.journal := by
  rw [log] at h
  cases hlog : t.registry.log logger level message fields t.ambient.logging t.now with
  | error f =>
    rw [hlog] at h
    exact absurd h (by simp [bind, Except.bind])
  | ok done =>
    rw [hlog] at h
    obtain rfl := Except.ok.inj h
    rfl

theorem journal_say (t : Telemetry) (logger : Nat) (level : Log.Level) (message : String)
    (fields : List (String × String)) (exc : Option Fault) :
    (t.say logger level message fields exc).journal = t.journal := by
  simp only [say]
  split
  · next h => exact journal_log h
  · rfl

end Telemetry

namespace Request

open Trace (Journal Visit Session)

namespace Runner

variable {ι : Type}

theorem journal_reportOrder (r : Runner ι) (e : Event) (t : Telemetry) :
    (r.reportOrder e t).journal = t.journal := by
  rw [reportOrder]
  split
  · rfl
  · exact t.journal_say ..

theorem journal_reportEarly (r : Runner ι) (t : Telemetry) :
    (r.reportEarly t).journal = t.journal := by
  rw [reportEarly]
  split
  · rfl
  · exact t.journal_say ..

theorem journal_reportFailure {logger : Nat} {kind : String} {e : Event} {f : Fault}
    {t t' : Telemetry} (h : reportFailure logger kind e f t = .ok t') :
    t'.journal = t.journal := by
  rw [reportFailure] at h
  cases htext : f.text with
  | error f' =>
    rw [htext] at h
    exact absurd h (by simp [bind, Except.bind])
  | ok shown =>
    rw [htext] at h
    obtain rfl := Except.ok.inj h
    exact t.journal_say ..

theorem journal_create (observers : List ι) (data : Data) (id operationName : Option String)
    (t : Telemetry) : (create observers data id operationName t).2.journal = t.journal := by
  simp only [create, chooseId]
  split
  · split <;> rfl
  · rfl

end Runner

namespace Reporter

theorem journal_logFields (r : Reporter) (level : Log.Level) (message : String)
    (fields : Except Fault Fields) (t : Telemetry) :
    (r.logFields level message fields t).1.journal = t.journal := by
  simp only [logFields]
  split
  · rfl
  · split
    · next h => exact Telemetry.journal_log h
    · rfl

theorem journal_readClock (t : Telemetry) : t.readClock.2.journal = t.journal := by
  rw [Telemetry.readClock]
  split <;> rfl

theorem journal_handle (r : Reporter) (e : Event) (t : Telemetry) :
    (r.handle e t).2.1.journal = t.journal := by
  cases e with
  | start => exact journal_readClock t
  | parseStart | validationEnd | error => exact r.journal_logFields ..
  | finish =>
    refine (r.journal_logFields ..).trans ?_
    split
    · exact journal_readClock t
    · rfl
  | parseEnd | validationStart | executionStart | executionEnd | resolveStart | resolveEnd => rfl

end Reporter

/-! ## Factories -/

/-- What makes an observer for every request. -/
inductive Factory where
  | bystanding
  | recording (failOn : List String)
  | logging (name : Option String) (showsQuery showsVariables : Bool)
  | tracing (tracer : Trace.Tracer) (settings : Settings.Tracing)

namespace Factory

/-- A new observer, and the state of telemetry with the logger that it may need. -/
def make (f : Factory) (t : Telemetry) : Participant × Telemetry :=
  match f with
  | bystanding => (.bystander, t)
  | recording failOn => (.recorder (.create failOn), t)
  | logging name showsQuery showsVariables =>
    let (r, t) := Reporter.create name showsQuery showsVariables t
    (.reporter r, t)
  | tracing tracer settings => (.ofSettings tracer settings, t)

/-- A new observer of every factory, in their order. -/
def makeAll : List Factory → Telemetry → List Participant × Telemetry
  | [], t => ([], t)
  | f :: rest, t =>
    let (p, t) := f.make t
    let (ps, t) := makeAll rest t
    (p :: ps, t)

theorem journal_make (f : Factory) (t : Telemetry) : (f.make t).2.journal = t.journal := by
  cases f <;> rfl

theorem journal_makeAll (fs : List Factory) (t : Telemetry) :
    (makeAll fs t).2.journal = t.journal := by
  induction fs generalizing t with
  | nil => rfl
  | cons f rest ih => exact (ih (f.make t).2).trans (f.journal_make t)

/-- No slot of a new observer is live. -/
theorem slots_make {f : Factory} {t : Telemetry} {o : Trace.Observer}
    (h : (f.make t).1 = .tracing o) : o.tree.slots = [] := by
  cases f with
  | bystanding | recording | logging => exact absurd h (by simp [make])
  | tracing tracer settings =>
    simp only [make, Participant.ofSettings] at h
    split at h
    · obtain rfl := Participant.tracing.inj h
      rfl
    · exact absurd h (by simp)

theorem slots_makeAll {fs : List Factory} {t : Telemetry} {o : Trace.Observer}
    (h : .tracing o ∈ (makeAll fs t).1) : o.tree.slots = [] := by
  induction fs generalizing t with
  | nil => exact absurd h List.not_mem_nil
  | cons f rest ih =>
    rcases List.mem_cons.1 h with h | h
    · exact slots_make h.symm
    · exact ih h

end Factory

/-! ## What a service does -/

/-- What a caller does: create a request, call the runner of a request from where
something is current, or change the data of a request. -/
inductive Deed where
  | create (factories : List Factory) (data : Data) (id operationName : Option String)
  | call (request : Nat) (c : Trace.Call) (ambient : Ambient)
  | amend (request : Nat) (data : Data)

/-- The requests that were created, and the state that they share. -/
structure Service (ι : Type) where
  runners : List (Runner ι)
  telemetry : Telemetry

namespace Service

variable {ι α β : Type}

/-- A service without requests. -/
def idle (t : Telemetry) : Service ι := { runners := [], telemetry := t }

/-- The observers of all requests. -/
def observers (s : Service ι) : List ι := s.runners.flatMap (·.observers)

/-- A service with the observers seen through a map. -/
def map (f : α → β) (s : Service α) : Service β :=
  { runners := s.runners.map (·.map f), telemetry := s.telemetry }

variable [Observing ι] [Observing α] [Observing β]

/-- The service after a deed.  Observers are enlisted as they are made. -/
def next (enlist : Participant → ι) (s : Service ι) (d : Deed) : Service ι :=
  match d with
  | .create factories data id operationName =>
    let (made, t) := Factory.makeAll factories s.telemetry
    let (runner, t) := Runner.create (made.map enlist) data id operationName t
    { runners := s.runners ++ [runner], telemetry := t }
  | .call k c ambient =>
    match s.runners[k]? with
    | none => s
    | some r =>
      let (r, t) := Runner.next (r, { s.telemetry with ambient }) c
      { runners := s.runners.set k r, telemetry := t }
  | .amend k data =>
    match s.runners[k]? with
    | none => s
    | some r => { s with runners := s.runners.set k { r with data } }

/-- The service after some deeds. -/
def run (enlist : Participant → ι) (s : Service ι) (ds : List Deed) : Service ι :=
  ds.foldl (next enlist) s

theorem next_map {f : α → β} (hf : Faithful f) (enlist : Participant → α) (s : Service α)
    (d : Deed) : (s.map f).next (f ∘ enlist) d = (s.next enlist d).map f := by
  cases d with
  | create factories data id operationName =>
    simp only [next, map, Runner.create, Runner.map, List.map_append, List.map_map, List.map_cons,
      List.map_nil]
  | call k c ambient =>
    simp only [next, map, List.getElem?_map]
    cases s.runners[k]? with
    | none => rfl
    | some r =>
      have hnext := Runner.next_map hf (r, { s.telemetry with ambient }) c
      simp only [Option.map_some, hnext, List.map_set]
  | amend k data =>
    simp only [next, map, List.getElem?_map]
    cases s.runners[k]? with
    | none => rfl
    | some r =>
      simp only [Option.map_some, List.map_set]
      rfl

/-- What observers remember besides changes nothing in a service. -/
theorem run_map {f : α → β} (hf : Faithful f) (enlist : Participant → α) (s : Service α)
    (ds : List Deed) : (s.map f).run (f ∘ enlist) ds = (s.run enlist ds).map f := by
  induction ds generalizing s with
  | nil => rfl
  | cons d ds ih =>
    rw [run, List.foldl_cons, next_map hf]
    exact ih (s.next enlist d)

end Service

/-! ## One turn -/

/-- What the turn of an observer leaves of it and of the journal.  Tracing does
what a visit to its session does. -/
inductive Turn (v : Visit) (p p' : Participant) (j j' : Journal) : Prop where
  | tracing {s : Session} (hp : p = .tracing s.observer) (hj : j = s.journal)
      (hp' : p' = .tracing (s.next v).observer) (hj' : j' = (s.next v).journal)
  | other (hp : ∀ o, p ≠ .tracing o) (hp' : ∀ o, p' ≠ .tracing o) (hj' : j' = j)

/-- The visit that an event is to an observer. -/
def Event.visit (e : Event) (data : Data) (t : Telemetry) : Visit :=
  { call := .event e, outer := data.parent?, current := t.ambient.tracing }

/-- The visit that a close is to an observer. -/
def closing (t : Telemetry) : Visit :=
  { call := .close, outer := none, current := t.ambient.tracing }

theorem turn_react (p : Participant) (e : Event) (data : Data) (t : Telemetry) :
    Turn (e.visit data t) p (Observing.react p e data t).observer t.journal
      (Observing.react p e data t).telemetry.journal := by
  cases p with
  | bystander => exact .other (by simp) (by simp [Observing.react, Participant.react]) rfl
  | recorder r =>
    exact .other (by simp) (by simp [Observing.react, Participant.react, Participant.lift]) rfl
  | reporter r =>
    exact .other (by simp) (by simp [Observing.react, Participant.react, Participant.lift])
      (r.journal_handle e t)
  | tracing o => exact .tracing (s := ⟨o, t.backend⟩) rfl rfl rfl rfl

theorem turn_close (p : Participant) (t : Telemetry) :
    Turn (closing t) p (Observing.close p t).1 t.journal (Observing.close p t).2.1.journal := by
  cases p with
  | bystander => exact .other (by simp) (by simp [Observing.close, Participant.close]) rfl
  | recorder r | reporter r =>
    exact .other (by simp)
      (by simp [Observing.close, Participant.close, Participant.liftClosed]) rfl
  | tracing o => exact .tracing (s := ⟨o, t.backend⟩) rfl rfl rfl rfl

/-! ## Observers with their history -/

/-- An observer with its history. -/
structure Attended where
  /-- The observer as it was made. -/
  fresh : Participant
  observer : Participant
  /-- The visits that the observer has received, the oldest first. -/
  visits : List Visit
  /-- The entries of the spans that were started in its turns. -/
  started : List Nat

namespace Attended

/-- A new observer, without a history. -/
def enlist (p : Participant) : Attended :=
  { fresh := p, observer := p, visits := [], started := [] }

/-- The history with one more turn. -/
def after (w : Attended) (v : Visit) (p : Participant) (j j' : Journal) : Attended :=
  { w with observer := p, visits := w.visits ++ [v], started := w.started ++ j.since j' }

instance : Observing Attended where
  kind w := Observing.kind w.observer
  react w e data t :=
    let done := Observing.react w.observer e data t
    { observer := w.after (e.visit data t) done.observer t.journal done.telemetry.journal
      data := done.data, telemetry := done.telemetry, fault := done.fault }
  close w t :=
    let done := Observing.close w.observer t
    (w.after (closing t) done.1 t.journal done.2.1.journal, done.2)

theorem faithful : Faithful Attended.observer :=
  ⟨fun _ => rfl, fun _ _ _ _ => rfl, fun _ _ => rfl⟩

/-- Keeping the history changes nothing. -/
theorem run_unattended (t : Telemetry) (ds : List Deed) :
    (((Service.idle t).run enlist ds).map observer) = (Service.idle t).run id ds :=
  (Service.run_map faithful enlist (.idle t) ds).symm

end Attended

end Request

end QueryTelemetry
