import Mathlib.Data.List.Basic
import QueryTelemetry.Proofs.Tracing.Ownership
import QueryTelemetry.Proofs.Tracing.Writes

/-!
# What is written to spans after their start

Two kinds of visits write to a span that was started before.  An error is an
event of the span of execution, and the end of validation brings the attributes
of the span of validation (`Session.Annotates`).  Every other visit leaves the
attributes and the events of all spans as they are, and does not even ask for
something to be written (`spares_next`).

A slot that is live never holds a span that has ended.  `Fitted` adds what the
span of execution and that of validation are like, so that what the two kinds of
visits leave can be said exactly (`run_annotates`).
-/

namespace QueryTelemetry.Trace

open Request (Event)

/-- Something that asks for data to be written to a span. -/
def Act.isWriting (a : Act) : Bool := a.operation == .setAttributes || a.operation == .addEvent

namespace Journal

/-- What was asked to be written to spans, the oldest first. -/
def writings (j : Journal) : List Act := j.acts.filter Act.isWriting

/-- Nothing was written to a span that had been started, nor asked to be written,
and nothing at all has happened to one that had ended. -/
structure Spares (j j' : Journal) : Prop where
  data : ∀ (i : Nat) (span : Span), j.spans[i]? = some span →
    ∃ status ended, j'.spans[i]? = some { span with status, ended }
  ended : ∀ (i : Nat) (span : Span), j.spans[i]? = some span → span.ended = true →
    j'.spans[i]? = some span
  writings : j'.writings = j.writings

variable {j j' j'' : Journal} {r : SpanRef} {i : Nat} {span : Span}

theorem Spares.refl (j : Journal) : Spares j j :=
  ⟨fun _ span hspan => ⟨span.status, span.ended, hspan⟩, fun _ _ hspan _ => hspan, rfl⟩

theorem Spares.trans (h : Spares j j') (h' : Spares j' j'') : Spares j j'' := by
  refine ⟨?_, ?_, h'.writings.trans h.writings⟩
  · intro i span hspan
    obtain ⟨status, ended, hspan'⟩ := h.data i span hspan
    obtain ⟨status', ended', hspan''⟩ := h'.data i _ hspan'
    exact ⟨status', ended', hspan''⟩
  · intro i span hspan hended
    exact h'.ended i span (h.ended i span hspan hended) hended

theorem spares_opened (j : Journal) (t : Tracer) (name : String) (parent : Context)
    (kind : Kind) (attributes : Fields) :
    Spares j (j.opened t name parent kind attributes).2 := by
  have hold : ∀ (i : Nat) (span : Span), j.spans[i]? = some span →
      (j.opened t name parent kind attributes).2.spans[i]? = some span := by
    intro i span hspan
    have hlt := (List.getElem?_eq_some_iff.1 hspan).1
    rw [getElem?_opened, if_neg (by omega), hspan]
  exact ⟨fun i span hspan => ⟨span.status, span.ended, hold i span hspan⟩,
    fun i span hspan _ => hold i span hspan, rfl⟩

theorem spares_noted (j : Journal) {op : Operation} (r : SpanRef)
    (hop : Act.isWriting { operation := op, span := r } = false) : Spares j (j.noted op r) := by
  refine ⟨(Spares.refl j).data, (Spares.refl j).ended, ?_⟩
  unfold Journal.writings noted
  rw [List.filter_append, List.filter_cons_of_neg (by simpa using hop), List.filter_nil,
    List.append_nil]

/-- A change of what is not data, of a span that has not ended. -/
theorem spares_update (hspan : j.spans[i]? = some span) (hopen : span.ended = false)
    {f : Span → Span} (hf : ∃ status ended, f span = { span with status, ended }) :
    Spares j (j.update i f) := by
  have hget : ∀ k, (j.update i f).spans[k]? = if i = k then (j.spans[k]?).map f else j.spans[k]? := by
    intro k
    show (j.spans.modify i f)[k]? = _
    rw [List.getElem?_modify]
    by_cases hk : i = k <;> simp [hk]
  refine ⟨?_, ?_, rfl⟩
  · intro k other hother
    rw [hget]
    by_cases hk : i = k
    · subst hk
      obtain rfl := Option.some.inj (hspan.symm.trans hother)
      obtain ⟨status, ended, hf⟩ := hf
      exact ⟨status, ended, by rw [if_pos rfl, hspan, Option.map_some, hf]⟩
    · exact ⟨other.status, other.ended, by rw [if_neg hk, hother]⟩
  · intro k other hother hended
    rw [hget, if_neg, hother]
    rintro rfl
    obtain rfl := Option.some.inj (hspan.symm.trans hother)
    exact absurd (hopen.symm.trans hended) (by decide)

theorem spares_setError (j : Journal) (r : SpanRef) (description : String) :
    Spares j (j.settled (j.setError r description)) := by
  unfold setError record
  cases hfound : j.find? r with
  | none => exact spares_noted j r rfl
  | some e =>
    obtain ⟨i, span⟩ := e
    dsimp only
    split
    · exact .refl j
    · show Spares j (if span.isRecording then _ else _)
      split
      · next hrecording =>
        have hopen : span.ended = false := by
          simpa using (Bool.and_eq_true_iff.1 hrecording).2
        have hspan : (j.noted .setStatus r).spans[i]? = some span := (find?_eq_some hfound).2
        have hnoted : Spares j (j.noted .setStatus r) := spares_noted j r rfl
        exact hnoted.trans (spares_update hspan hopen ⟨_, span.ended, rfl⟩)
      · exact spares_noted j r rfl

theorem spares_finish (j : Journal) (r : SpanRef) (current : Nat) :
    Spares j (j.settled (j.finish r current)) := by
  unfold finish
  cases hfound : j.find? r with
  | none => exact spares_noted j r rfl
  | some e =>
    obtain ⟨i, span⟩ := e
    dsimp only
    split
    · exact .refl j
    · show Spares j ((j.noted .finish r).closed i span current)
      unfold closed
      split
      · exact spares_noted j r rfl
      · next hopen =>
        have hspan : (j.noted .finish r).spans[i]? = some span := (find?_eq_some hfound).2
        have hnoted : Spares j (j.noted .finish r) := spares_noted j r rfl
        have hupdated := hnoted.trans
          (spares_update (f := Span.finished) hspan (by simpa using hopen) ⟨_, true, rfl⟩)
        exact ⟨hupdated.data, hupdated.ended, hupdated.writings⟩

theorem spares_failed (j : Journal) (r : SpanRef) (description : String) (current : Nat) :
    Spares j (j.failed r description current) := by
  have hmarked := spares_setError j r description
  unfold failed
  cases hstatus : j.setError r description with
  | error refusal => exact .refl j
  | ok marked =>
    rw [hstatus] at hmarked
    exact hmarked.trans (spares_finish marked r current)

/-! ## What is written -/

theorem set_of_getElem? (hspan : j.spans[i]? = some span) : j.spans.set i span = j.spans := by
  obtain ⟨hlt, hspan⟩ := List.getElem?_eq_some_iff.1 hspan
  rw [← hspan, List.set_getElem_self]

theorem spans_update (hspan : j.spans[i]? = some span) (f : Span → Span) :
    (j.update i f).spans = j.spans.set i (f span) := by
  show j.spans.modify i f = _
  rw [List.modify_eq_set_getElem?, hspan]
  rfl

/-- What asking for data on an open span leaves. -/
theorem settled_record (hentry : r.entry = some i) (hspan : j.spans[i]? = some span)
    (hopen : span.ended = false) (op : Operation) (f : Span → Span) :
    (j.settled (j.record r op f)).spans =
        j.spans.set i (if span.identity.isSampled && !span.refuses op then f span else span) ∧
      (j.settled (j.record r op f)).acts =
        j.acts ++ if span.refuses op then [] else [{ operation := op, span := r }] := by
  have hrecording : span.isRecording = span.identity.isSampled := by
    rw [Span.isRecording, hopen, Bool.not_false, Bool.and_true]
  have hfound := find?_of_entry hentry hspan
  have hset := set_of_getElem? hspan
  by_cases hop : span.refuses op = true
  · simp [record, hfound, hop, settled, hset]
  · have hallowed : span.refuses op = false := by simpa using hop
    rw [record_of_found f hfound hallowed, hrecording, hallowed]
    by_cases hsampled : span.identity.isSampled = true
    · simp only [hsampled, settled, if_true, Bool.not_false, Bool.and_self]
      exact ⟨spans_update (j := j.noted op r) hspan f, rfl⟩
    · rw [Bool.not_eq_true] at hsampled
      rw [hsampled]
      exact ⟨hset.symm, rfl⟩

/-- What asking for the end of an open span leaves. -/
theorem settled_finish (hentry : r.entry = some i) (hspan : j.spans[i]? = some span)
    (hopen : span.ended = false) (current : Nat) :
    (j.settled (j.finish r current)).spans =
        j.spans.set i { span with ended := !span.refuses .finish } ∧
      (j.settled (j.finish r current)).acts =
        j.acts ++ if span.refuses .finish then [] else [{ operation := .finish, span := r }] := by
  have hfound := find?_of_entry hentry hspan
  by_cases hop : span.refuses .finish = true
  · have hset : j.spans.set i { span with ended := false } = j.spans := by
      rw [← hopen]
      exact set_of_getElem? hspan
    simp [finish, hfound, hop, settled, hset]
  · have hallowed : span.refuses .finish = false := by simpa using hop
    rw [finish_of_found current hfound hallowed, hallowed]
    show ((j.noted .finish r).closed i span current).spans = _ ∧
      ((j.noted .finish r).closed i span current).acts = _
    rw [acts_closed]
    refine ⟨?_, rfl⟩
    unfold closed
    rw [if_neg (by simp [hopen])]
    exact spans_update (j := j.noted .finish r) hspan Span.finished

end Journal

theorem Observer.spares_abandonAll (o : Observer) (current : Nat) (j : Journal)
    (left : List (Slot × Context)) : j.Spares (o.abandonAll current j left) := by
  induction left generalizing j with
  | nil => exact .refl j
  | cons e left ih =>
    rw [abandonAll, List.foldl_cons]
    refine Journal.Spares.trans ?_ (ih _)
    split
    · exact j.spares_failed ..
    · exact .refl j

namespace Session

/-! ## Visits that write nothing -/

/-- A visit brings data for a span that was started before: it tells an error with a
text while the slot of execution is live, or it ends validation while that slot is
live. -/
def Annotates (s : Session) (v : Visit) : Prop :=
  (∃ err text c, v.call = .event (.error err) ∧ err.toText = .ok text ∧
    s.tree.get? .execution = some c) ∨
  ∃ complexity depth c, v.call = .event (.validationEnd complexity depth) ∧
    s.tree.get? .validation = some c

variable {s : Session} {v : Visit} {n i : Nat} {o : Option Origin} {k : Slot} {c : Context}

theorem errorEvent_eq_ok {err : Value} {attributes : Fields}
    (h : errorEvent err = .ok attributes) :
    ∃ text, err.toText = .ok text ∧ attributes = errorAttributes text := by
  unfold errorEvent at h
  cases htext : err.toText with
  | error f =>
    rw [htext] at h
    cases h
  | ok text =>
    rw [htext] at h
    exact ⟨text, rfl, (Except.ok.inj h).symm⟩

/-- Only the end of validation brings attributes. -/
theorem annotated_of_not_annotates (h : ¬ s.Annotates v) (hleft : v.call.left? = some k)
    (hget : s.tree.get? k = some c) : s.journal.annotated v c = s.journal := by
  apply Journal.annotated_of_left hleft
  rintro rfl
  apply h
  unfold Call.left? at hleft
  split at hleft
  · cases hleft
  · next hcall => exact .inr ⟨_, _, c, hcall, hget⟩
  all_goals cases hleft

/-- A visit that brings no data leaves what is written to spans alone. -/
theorem spares_next (h : ¬ s.Annotates v) : s.journal.Spares (s.next v).journal := by
  show s.journal.Spares (s.answer v).backend.journal
  cases move_answer s v with
  | rest _ _ _ _ hjournal | joined _ _ _ _ hjournal | barred _ _ _ _ _ hjournal =>
    rw [hjournal]
    exact .refl _
  | opened _ _ _ _ hjournal =>
    rw [hjournal]
    exact Journal.spares_opened ..
  | rejected _ _ _ _ _ hjournal =>
    rw [hjournal]
    exact (Journal.spares_opened ..).trans (Journal.spares_failed ..)
  | left hleft hget _ hjournal =>
    rw [annotated_of_not_annotates h hleft hget] at hjournal
    rw [hjournal]
    split
    · exact Journal.spares_finish ..
    · exact .refl _
  | recorded hcall hget hevent =>
    obtain ⟨text, htext, -⟩ := errorEvent_eq_ok hevent
    exact absurd (.inl ⟨_, text, _, hcall, htext, hget⟩) h
  | closed _ _ hjournal =>
    rw [hjournal]
    exact Observer.spares_abandonAll ..

/-! ## Visits that bring data -/

/-- The slots that are not that of the request are for spans of the session. -/
theorem native_of_ne (hk : k ≠ .request) : Native o k := fun hrequest => absurd hrequest hk

/-- The span of a live slot that is not that of the request. -/
theorem Attributed.exists_span (h : Attributed n o s) (hk : k ≠ .request)
    (hget : s.tree.get? k = some c) :
    ∃ i span, c.current.entry = some i ∧ n ≤ i ∧ s.journal.spans[i]? = some span ∧
      span.tracer = s.observer.tracer ∧ span.ended = false := by
  obtain ⟨i, hentry, hi, span, hspan, htracer, hopen⟩ := h.own k c hget (native_of_ne hk)
  exact ⟨i, span, hentry, hi, hspan, htracer, hopen⟩

variable {span : Span}

/-- What an error with a text leaves of the open span of execution. -/
theorem next_of_told {err : Value} {text : String} (hcall : v.call = .event (.error err))
    (htext : err.toText = .ok text) (hget : s.tree.get? .execution = some c)
    (hentry : c.current.entry = some i) (hspan : s.journal.spans[i]? = some span)
    (hopen : span.ended = false) :
    (s.next v).journal.spans = s.journal.spans.set i
        (if span.identity.isSampled && !span.refuses .addEvent then
          span.withEvent errorName (errorAttributes text)
        else span) ∧
      (s.next v).journal.acts = s.journal.acts ++
        if span.refuses .addEvent then []
        else [{ operation := .addEvent, span := c.current }] := by
  have hevent : errorEvent err = .ok (errorAttributes text) := by
    unfold errorEvent
    rw [htext]
    rfl
  obtain ⟨-, hjournal⟩ := next_of_recorded hcall hget hevent
  rw [hjournal]
  exact Journal.settled_record hentry hspan hopen .addEvent _

/-- What the end of validation leaves of the open span of its slot. -/
theorem next_of_validated {complexity depth : Int}
    (hcall : v.call = .event (.validationEnd complexity depth))
    (hget : s.tree.get? .validation = some c) (hentry : c.current.entry = some i)
    (hspan : s.journal.spans[i]? = some span) (hopen : span.ended = false) :
    (s.next v).journal.spans = s.journal.spans.set i
        { span with
          attributes := if span.identity.isSampled && !span.refuses .setAttributes then
              Assoc.overlay span.attributes (validationAttributes complexity depth)
            else span.attributes
          ended := !span.refuses .finish } ∧
      (s.next v).journal.acts = s.journal.acts ++
        (if span.refuses .setAttributes then []
          else [{ operation := .setAttributes, span := c.current }]) ++
        if span.refuses .finish then [] else [{ operation := .finish, span := c.current }] := by
  obtain ⟨-, hjournal⟩ := next_of_left (by rw [hcall]; rfl) hget
  rw [if_pos (Observer.owns_of_ne (by decide))] at hjournal
  have hannotated : s.journal.annotated v c = s.journal.settled (s.journal.record c.current
      .setAttributes (·.withAttributes (validationAttributes complexity depth))) := by
    simp only [Journal.annotated, hcall]
    rfl
  obtain ⟨hspans, hacts⟩ := Journal.settled_record hentry hspan hopen .setAttributes
    (·.withAttributes (validationAttributes complexity depth))
  rw [← hannotated] at hspans hacts
  -- The span between the two operations: it has its attributes, and it is still open.
  generalize hwritten : (if span.identity.isSampled && !span.refuses .setAttributes then
    span.withAttributes (validationAttributes complexity depth) else span) = written at hspans
  have hkept : written = { span with
      attributes := if span.identity.isSampled && !span.refuses .setAttributes then
          Assoc.overlay span.attributes (validationAttributes complexity depth)
        else span.attributes } := by
    rw [← hwritten]
    split <;> rfl
  have hlt := (List.getElem?_eq_some_iff.1 hspan).1
  have hspan' : (s.journal.annotated v c).spans[i]? = some written := by
    rw [hspans, List.getElem?_set_self hlt]
  obtain ⟨hspans', hacts'⟩ := Journal.settled_finish hentry hspan' (by rw [hkept]; exact hopen)
    c.identity.spanId
  have hrefuses : written.refuses .finish = span.refuses .finish := by
    rw [hkept]
    rfl
  rw [hjournal]
  constructor
  · refine hspans'.trans ?_
    rw [hspans, List.set_set, hrefuses, hkept]
  · refine hacts'.trans ?_
    rw [hacts, hrefuses]

/-- A visit that keeps a slot live leaves the attributes of its span alone. -/
theorem Attributed.attributes_next (h : Attributed n o s) (hk : k ≠ .request)
    (hget : s.tree.get? k = some c) (hentry : c.current.entry = some i)
    (hspan : s.journal.spans[i]? = some span) (hlive : (s.next v).tree.get? k ≠ none) :
    ∃ events status ended,
      (s.next v).journal.spans[i]? = some { span with events, status, ended } := by
  by_cases hannotates : s.Annotates v
  · rcases hannotates with ⟨err, text, c', hcall, htext, hget'⟩ |
      ⟨complexity, depth, c', hcall, hget'⟩
    · obtain ⟨i', span', hentry', -, hspan', -, hopen'⟩ := h.exists_span (by decide) hget'
      obtain ⟨hspans, -⟩ := next_of_told hcall htext hget' hentry' hspan' hopen'
      rw [hspans]
      by_cases hi : i' = i
      · -- The span of the slot gets an event at most.
        subst hi
        obtain rfl := Option.some.inj (hspan.symm.trans hspan')
        rw [List.getElem?_set_self (List.getElem?_eq_some_iff.1 hspan).1]
        split
        · exact ⟨_, span.status, span.ended, rfl⟩
        · exact ⟨span.events, span.status, span.ended, rfl⟩
      · rw [List.getElem?_set_ne hi]
        exact ⟨span.events, span.status, span.ended, hspan⟩
    · obtain ⟨i', span', hentry', -, hspan', -, hopen'⟩ := h.exists_span (by decide) hget'
      obtain ⟨hspans, -⟩ := next_of_validated hcall hget' hentry' hspan' hopen'
      have hi : i' ≠ i := by
        rintro rfl
        -- The slot of validation is left, and no other slot holds the span.
        obtain rfl : k = .validation := h.one k .validation c c' hget hget' (native_of_ne hk)
          (native_of_ne (by decide)) (hentry.trans hentry'.symm)
        exact hlive (get?_next_of_leaves (.inl (by rw [hcall]; rfl)))
      rw [hspans, List.getElem?_set_ne hi]
      exact ⟨span.events, span.status, span.ended, hspan⟩
  · obtain ⟨status, ended, hspan'⟩ := (spares_next hannotates).data i span hspan
    exact ⟨span.events, status, ended, hspan'⟩

/-! ## The spans of execution and of validation -/

/-- What the span of a slot is like while the slot is live: the spans of the two
phases that data is written to have their names, and that of validation has no
attributes yet. -/
def Fits (k : Slot) (span : Span) : Prop :=
  (k = .execution → span.name = executeName) ∧
    (k = .validation → span.name = validationName ∧ span.attributes = [])

/-- The spans of live slots are like their slots. -/
def Fitted (s : Session) : Prop :=
  ∀ k c i span, k ≠ .request → s.tree.get? k = some c → c.current.entry = some i →
    s.journal.spans[i]? = some span → Fits k span

/-- A span is like its slot when it is started. -/
theorem fits_newSpan {name : String} {parent : Context} {attributes : Fields}
    (hopens : Opens s v k name parent attributes) (hk : k ≠ .request) :
    Fits k (s.journal.newSpan s.observer.tracer name parent .server attributes) := by
  cases hopens with
  | request => exact absurd rfl hk
  | execution => exact ⟨fun _ => rfl, nofun⟩
  | validation => exact ⟨nofun, fun _ => ⟨rfl, ite_self _⟩⟩
  | parse | field => exact ⟨nofun, nofun⟩

theorem Fitted.next (h : s.Fitted) (hattributed : Attributed n o s) (v : Visit) :
    (s.next v).Fitted := by
  intro k c i span' hk hget hentry hspan'
  rcases native_next (o := o) hget (native_of_ne hk) with ⟨hold, -⟩ |
    ⟨name, parent, attributes, hopens, rfl, hjournal⟩
  · obtain ⟨i', span, hentry', -, hspan, -⟩ := hattributed.exists_span hk hold
    obtain rfl := Option.some.inj (hentry.symm.trans hentry')
    obtain ⟨events, status, ended, hkept⟩ := hattributed.attributes_next hk hold hentry hspan
      (hget ▸ Option.some_ne_none c)
    obtain rfl := Option.some.inj (hkept.symm.trans hspan')
    exact h k c i span hk hold hentry hspan
  · obtain rfl := Option.some.inj ((entry_started ..).symm.trans hentry)
    rw [hjournal, getElem?_started] at hspan'
    obtain rfl := Option.some.inj hspan'
    exact fits_newSpan hopens hk

/-- An operation on a span of the session is refused by its name. -/
theorem refuses_of_own {op : Operation} {name : String}
    (hown : span.tracer = s.observer.tracer) (hname : span.name = name) :
    span.refuses op = s.observer.tracer.refuses op name := by
  unfold Span.refuses
  rw [hown, hname]

/-- An error with a text is told while the slot of execution is live. -/
theorem Attributed.told (h : Attributed n o s) (hfitted : s.Fitted) {err : Value} {text : String}
    (hcall : v.call = .event (.error err)) (htext : err.toText = .ok text)
    (hget : s.tree.get? .execution = some c) :
    ∃ i span, c.current.entry = some i ∧ n ≤ i ∧ s.journal.spans[i]? = some span ∧
      span.tracer = s.observer.tracer ∧ span.name = executeName ∧ span.ended = false ∧
      (s.next v).journal.spans = s.journal.spans.set i
        (if span.identity.isSampled && !s.observer.tracer.refuses .addEvent executeName then
          span.withEvent errorName (errorAttributes text)
        else span) ∧
      (s.next v).journal.acts = s.journal.acts ++
        if s.observer.tracer.refuses .addEvent executeName then []
        else [{ operation := .addEvent, span := c.current }] := by
  obtain ⟨i, span, hentry, hi, hspan, hown, hopen⟩ := h.exists_span (by decide) hget
  have hname := (hfitted .execution c i span (by decide) hget hentry hspan).1 rfl
  have htold := next_of_told hcall htext hget hentry hspan hopen
  rw [refuses_of_own hown hname] at htold
  exact ⟨i, span, hentry, hi, hspan, hown, hname, hopen, htold⟩

/-- Validation ends while its slot is live. -/
theorem Attributed.validated (h : Attributed n o s) (hfitted : s.Fitted) {complexity depth : Int}
    (hcall : v.call = .event (.validationEnd complexity depth))
    (hget : s.tree.get? .validation = some c) :
    ∃ i span, c.current.entry = some i ∧ n ≤ i ∧ s.journal.spans[i]? = some span ∧
      span.tracer = s.observer.tracer ∧ span.name = validationName ∧
      span.attributes = [] ∧ span.ended = false ∧
      (s.next v).journal.spans = s.journal.spans.set i
        { span with
          attributes :=
            if span.identity.isSampled && !s.observer.tracer.refuses .setAttributes validationName
            then validationAttributes complexity depth else []
          ended := !s.observer.tracer.refuses .finish validationName } ∧
      (s.next v).journal.acts = s.journal.acts ++
        (if s.observer.tracer.refuses .setAttributes validationName then []
          else [{ operation := .setAttributes, span := c.current }]) ++
        if s.observer.tracer.refuses .finish validationName then []
        else [{ operation := .finish, span := c.current }] := by
  obtain ⟨i, span, hentry, hi, hspan, hown, hopen⟩ := h.exists_span (by decide) hget
  obtain ⟨hname, hbare⟩ := (hfitted .validation c i span (by decide) hget hentry hspan).2 rfl
  have hvalidated := next_of_validated hcall hget hentry hspan hopen
  rw [refuses_of_own hown hname, refuses_of_own hown hname, hbare] at hvalidated
  exact ⟨i, span, hentry, hi, hspan, hown, hname, hbare, hopen, hvalidated⟩

/-- A strict session that begins, over a backend that refuses nothing. -/
def beginning : Session :=
  { observer := .create { provider := "provider", scope := "graphql", refuses := fun _ _ => false }
      false false true
    backend := { journal := .empty, current := .empty, notes := [] } }

/-- An event outside any context. -/
def bare (e : Event) : Visit := { call := .event e, outer := none, current := .empty }

end Session

end QueryTelemetry.Trace
