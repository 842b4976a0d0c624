import QueryTelemetry.Trace.Observer

/-!
# Sessions

A session is an observer at work on its backend.  Calls visit it: the events
of a request, and closes.  A visit also says what stands around the call: the
context that the data of the request brings then, and the context that is
current where the call is made.  Both may differ from visit to visit, so that
a run covers data that is replaced between calls and calls from many threads.
A session goes on after a call that raised a fault.

`Move` lists everything that one visit can do to the slots, to the mark of an
outer trace and to the journal.  `move_answer` says that every visit does one
of these things.  Invariants of runs are proved from `Move` and never unfold
a hook.
-/

namespace QueryTelemetry.Trace

open Request (Event)

/-! ## Visits and runs -/

/-- A call on an observer. -/
inductive Call where
  | event (e : Event)
  | close

/-- A call with what stands around it: the context that the request data
brings, and the current context. -/
structure Visit where
  call : Call
  outer : Option Context
  current : Context

/-- An observer and its backend. -/
structure Session where
  observer : Observer
  backend : Backend

namespace Session

/-- The slots of a session. -/
abbrev tree (s : Session) : SlotTree := s.observer.tree

/-- The journal of a session. -/
abbrev journal (s : Session) : Journal := s.backend.journal

/-- What a visit leaves. -/
def answer (s : Session) (v : Visit) : Outcome :=
  let b := { s.backend with current := v.current }
  match v.call with
  | .event e => s.observer.hook v.outer e b
  | .close => s.observer.close b

/-- The session after a visit, whether or not it raised a fault. -/
def next (s : Session) (v : Visit) : Session :=
  { observer := (s.answer v).observer, backend := (s.answer v).backend }

/-- The session after some visits. -/
def run (s : Session) (vs : List Visit) : Session := vs.foldl next s

@[simp] theorem run_nil (s : Session) : s.run [] = s := rfl

theorem run_append (s : Session) (vs ws : List Visit) :
    s.run (vs ++ ws) = (s.run vs).run ws := List.foldl_append

@[simp] theorem run_concat (s : Session) (vs : List Visit) (v : Visit) :
    s.run (vs ++ [v]) = (s.run vs).next v := run_append s vs [v]

end Session

/-! ## What an operation leaves of the journal -/

namespace Journal

/-- The journal after an operation, as it was when the operation was
refused. -/
def settled (j : Journal) (r : Except Refusal Journal) : Journal :=
  match r with
  | .ok j' => j'
  | .error _ => j

/-- The journal after the span of a reference was ended as a failure: first it
gets an error status, and if that is not refused it is ended. -/
def failed (j : Journal) (r : SpanRef) (description : String) (current : Nat) : Journal :=
  match j.setError r description with
  | .ok marked => marked.settled (marked.finish r current)
  | .error _ => j

/-- The journal after the last attributes that a visit brings were written to
the span of a context. -/
def annotated (j : Journal) (v : Visit) (c : Context) : Journal :=
  match v.call with
  | .event (.validationEnd complexity depth) =>
    j.settled (j.setAttributes c.current (validationAttributes complexity depth))
  | _ => j

/-- The journal after the span of a slot was ended by its end event. -/
def released (j : Journal) (c : Context) : Journal :=
  j.settled (j.finish c.current c.identity.spanId)

end Journal

theorem journal_attempt (b : Backend) (failure : String) (r : Except Refusal Journal) :
    (b.attempt failure r).journal = b.journal.settled r := by
  cases r <;> rfl

namespace Observer

/-- What closing leaves of the journal, for the slots that were live. -/
def abandonAll (o : Observer) (current : Nat) (j : Journal) (left : List (Slot × Context)) :
    Journal :=
  left.foldl
    (fun j e =>
      if o.owns e.1 then j.failed e.2.current "request scope left before span ended" current
      else j)
    j

theorem current_attempt (b : Backend) (failure : String) (r : Except Refusal Journal) :
    (b.attempt failure r).current = b.current := by
  cases r <;> rfl

theorem current_abandon (o : Observer) (b : Backend) (e : Slot × Context) :
    (o.abandon b e).current = b.current := by
  simp only [abandon]
  split
  · split <;> simp only [current_attempt]
  · rfl

theorem journal_abandon (o : Observer) (b : Backend) (e : Slot × Context) :
    (o.abandon b e).journal =
      if o.owns e.1 then
        b.journal.failed e.2.current "request scope left before span ended"
          b.current.identity.spanId
      else b.journal := by
  simp only [abandon, Journal.failed]
  split
  · split
    · next h => simp only [h, journal_attempt, Journal.settled]
    · next h => simp only [h, journal_attempt]; rfl
  · rfl

theorem journal_foldl_abandon (o : Observer) (b : Backend) (left : List (Slot × Context)) :
    (left.foldl o.abandon b).journal =
      o.abandonAll b.current.identity.spanId b.journal left := by
  induction left generalizing b with
  | nil => rfl
  | cons e left ih =>
    rw [List.foldl_cons, ih, current_abandon, journal_abandon]
    rfl

end Observer

end QueryTelemetry.Trace
