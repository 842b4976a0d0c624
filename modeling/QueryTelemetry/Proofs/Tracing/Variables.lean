import Mathlib
import QueryTelemetry.Proofs.Tracing.Move
import QueryTelemetry.Proofs.Value.Refusals

/-!
# The start of parsing

The span of parsing carries the source of the query and its variables, written as
JSON.  Variables that JSON cannot hold are left out, and the span is started
without them.  That covers every fault of the data, but an object may raise any
fault in place of its text, and one that does not mean a bad value is passed on:
then no span is started at all.  `Session.parse_start_enters` says exactly when
that happens, and what the span is otherwise.
-/

namespace QueryTelemetry

/-! ## Faults of the variables -/

namespace Trace

open Request (Event)

/-- Whether variables are left out because of a fault.  Any other fault is passed
on. -/
def leavesOut : Fault → Bool
  | .plain kind _ => isValueFault kind
  | .reported .. => false

theorem leavesOut_of_isOfData {f : Fault} (h : f.IsOfData) : leavesOut f = true := by
  obtain ⟨message, rfl | rfl⟩ := h <;> rfl

variable {bindings : Value} {f : Fault}

/-- A fault that is passed on is raised by an object among the variables in place
of its text. -/
theorem refuses_of_sortedJson (h : sortedJson bindings = .error f) (hpassed : leavesOut f = false) :
    ∃ entries, bindings.toEntries = .ok entries ∧ (Value.dict entries).Refuses f := by
  have hdata : ¬ f.IsOfData := fun hdata => by simp [leavesOut_of_isOfData hdata] at hpassed
  rcases eq_error_of_bind_eq_error h with h | ⟨entries, hentries, h⟩
  · exact absurd (Value.isOfData_of_toEntries h) hdata
  · exact ⟨entries, hentries, (Json.refuses_of_print h).resolve_left hdata⟩

theorem writeVariables_eq_error_iff :
    writeVariables bindings = .error f ↔ sortedJson bindings = .error f ∧ leavesOut f = false := by
  unfold writeVariables
  cases sortedJson bindings with
  | ok s => simp
  | error g =>
    cases g with
    | plain kind message =>
      by_cases hkind : isValueFault kind = true
      · -- The text of a plain fault is always there, so the reason can be noted.
        have htext : ∃ shown, (Fault.plain kind message).text = .ok shown := by
          cases kind <;> exact ⟨_, rfl⟩
        obtain ⟨shown, htext⟩ := htext
        simp only [hkind, if_true, htext, Except.error.injEq]
        constructor
        · rintro ⟨⟩
        · rintro ⟨rfl, hpassed⟩
          exact absurd (hkind.symm.trans hpassed) (by decide)
      · simp only [hkind, Bool.false_eq_true, if_false, Except.error.injEq]
        exact ⟨fun h => ⟨h, h ▸ by simpa [leavesOut] using hkind⟩, And.left⟩
    | reported report message details cause =>
      simp only [Except.error.injEq]
      exact ⟨fun h => ⟨h, h ▸ rfl⟩, And.left⟩

/-- The attribute is there exactly if JSON can hold the variables. -/
theorem toOption_of_writeVariables {written : Written} (h : writeVariables bindings = .ok written) :
    written.toOption = (sortedJson bindings).toOption := by
  unfold writeVariables at h
  split at h
  · next s hs =>
    obtain rfl := Except.ok.inj h
    rw [hs]
    rfl
  · next g hg =>
    rw [hg]
    split at h
    · split at h
      · obtain ⟨reason, -, h⟩ := exists_of_bind_eq_ok h
        obtain rfl := Except.ok.inj h
        rfl
      · cases h
    · cases h

namespace Observer

variable {o : Observer}

theorem shownVariables_eq_error_iff :
    o.shownVariables bindings = .error f ↔
      o.includeVariables = true ∧ sortedJson bindings = .error f ∧ leavesOut f = false := by
  rw [← writeVariables_eq_error_iff, shownVariables]
  split
  · next hinclude =>
    rw [hinclude]
    cases writeVariables bindings with
    | ok written => simp [Bind.bind, Except.bind]
    | error g => simp [Bind.bind, Except.bind]
  · next hinclude => simp [hinclude]

/-- The text of the variables in the attributes of parsing. -/
theorem fst_of_shownVariables {shown : Option String} {notes : List Log.HostRecord}
    (h : o.shownVariables bindings = .ok (shown, notes)) :
    shown = if o.includeVariables then (sortedJson bindings).toOption else none := by
  rw [shownVariables] at h
  split at h
  · next hinclude =>
    obtain ⟨written, hwritten, h⟩ := exists_of_bind_eq_ok h
    obtain ⟨rfl, -⟩ := Prod.mk.inj (Except.ok.inj h)
    rw [if_pos hinclude]
    exact toOption_of_writeVariables hwritten
  · next hinclude =>
    obtain ⟨rfl, -⟩ := Prod.mk.inj (Except.ok.inj h)
    rw [if_neg hinclude]

end Observer

/-! ## Entering a slot -/

/-- A visit has started a span under a context and keeps it in a slot. -/
structure Enters (s s' : Session) (k : Slot) (name : String) (parent : Context)
    (attributes : Fields) (span : Span) : Prop where
  spans : s'.journal.spans = s.journal.spans ++ [span]
  slot : s'.tree.get? k =
    some (parent.withSpan { identity := span.identity, entry := some s.journal.spans.length })
  others : ∀ k', k' ≠ k → s'.tree.get? k' = s.tree.get? k'
  name : span.name = name
  child : span.parent = if parent.identity.isValid then some parent.identity else none
  trace : parent.identity.isValid = true → span.identity.traceId = parent.identity.traceId
  /-- A span that is not recorded takes no attributes. -/
  attributes : span.attributes = if span.identity.isSampled then attributes else []
  isOpen : span.ended = false

namespace Session

variable {s : Session} {v : Visit}

/-- A span that may be started is kept in its slot, unless the tree is strict. -/
theorem enters_of_opens {k : Slot} {name : String} {parent : Context} {attributes : Fields}
    (hopens : Opens s v k name parent attributes)
    (hstart : s.observer.tracer.refuses .start name = false) (hstrict : s.tree.strict = false) :
    (s.answer v).fault = none ∧
      ∃ span, Enters s (s.next v) k name parent attributes span := by
  rcases next_of_opens hopens hstart with ⟨-, hobserver, hjournal, hfault⟩ | ⟨hrejected, -⟩
  · have hget : ∀ k', (s.next v).tree.get? k' = if k' = k then
        some (parent.withSpan (s.started name parent attributes).1) else s.tree.get? k' := by
      intro k'
      rw [tree, hobserver, SlotTree.get?, SlotTree.put, Assoc.get?_put]
      simp [SlotTree.get?]
    refine ⟨hfault, s.journal.newSpan s.observer.tracer name parent .server attributes, ?_⟩
    exact {
      spans := by rw [hjournal]; rfl
      slot := by rw [hget, if_pos rfl]; rfl
      others := fun k' hk => by rw [hget, if_neg hk]
      name := rfl
      child := rfl
      trace := fun hvalid => by
        show (s.journal.nextIdentity parent.identity).traceId = _
        rw [Journal.nextIdentity, if_pos hvalid]
      attributes := rfl
      isOpen := rfl }
  · rw [hstrict, Bool.and_false] at hrejected
    cases hrejected

/-- The backend that refuses a span is not heard of. -/
theorem fault_of_refused {k : Slot} {name : String} {parent : Context} {attributes : Fields}
    (hopens : Opens s v k name parent attributes)
    (hstart : s.observer.tracer.refuses .start name = true) : (s.answer v).fault = none := by
  obtain ⟨b, -, hanswer⟩ := answer_of_opens hopens
  rw [hanswer]
  simp only [Observer.begin, Observer.startSpan, Journal.start, hstart, if_true]
  rfl

theorem includes_next (s : Session) (v : Visit) :
    (s.next v).observer.includeSource = s.observer.includeSource ∧
      (s.next v).observer.includeVariables = s.observer.includeVariables := by
  show (s.answer v).observer.includeSource = _ ∧ (s.answer v).observer.includeVariables = _
  cases move_answer s v <;> simp only [*, and_self]

theorem includes_run (s₀ : Session) (vs : List Visit) :
    (s₀.run vs).observer.includeSource = s₀.observer.includeSource ∧
      (s₀.run vs).observer.includeVariables = s₀.observer.includeVariables := by
  induction vs using List.reverseRecOn with
  | nil => exact ⟨rfl, rfl⟩
  | append_singleton vs v ih =>
    obtain ⟨hsource, hvariables⟩ := includes_next (s₀.run vs) v
    rw [run_concat, hsource, hvariables]
    exact ih

/-- The start of parsing raises what keeps the variables from being written, and
has then done nothing else. -/
theorem answer_of_unwritten {source : Option String} {bindings : Value} {parent : Context}
    {f : Fault} (hcall : v.call = .event (.parseStart source bindings))
    (hlive : s.tree.get? .request = some parent)
    (hshown : s.observer.shownVariables bindings = .error f) :
    (s.answer v).fault = some f ∧ (s.next v).observer = s.observer ∧
      (s.next v).journal = s.journal := by
  have hanswer : s.answer v =
      s.observer.raise { s.backend with current := v.current } f := by
    have hlive : s.observer.tree.get? .request = some parent := hlive
    simp only [answer, hcall, Observer.hook, Observer.onParseStart, hlive, hshown]
  rw [next, journal, hanswer]
  exact ⟨rfl, rfl, rfl⟩

/-- While the slot of the request is live and slots are not strict, the start of
parsing raises a fault exactly if the variables are shown and an object among them
raises one that does not mean a bad value.  Then nothing has been started.
Otherwise the span of parsing stands in its slot, under the context of the request.
It has the source, if that is shown, and only what JSON cannot hold is missing from
it. -/
theorem parse_start_enters (t : Tracer) (includeSource includeVariables : Bool) (s₀ : Session)
    (vs : List Visit) (v : Visit) (source : String) (bindings : Value) {parent : Context}
    (hfresh : s₀.observer = .create t includeSource includeVariables false)
    (hcall : v.call = .event (.parseStart (some source) bindings))
    (hlive : (s₀.run vs).tree.get? .request = some parent) :
    (∀ f, ((s₀.run vs).answer v).fault = some f ↔
      includeVariables = true ∧ sortedJson bindings = .error f ∧ leavesOut f = false) ∧
    (∀ f, ((s₀.run vs).answer v).fault = some f →
      (∃ entries, bindings.toEntries = .ok entries ∧ (Value.dict entries).Refuses f) ∧
      ((s₀.run vs).next v).observer = (s₀.run vs).observer ∧
      ((s₀.run vs).next v).journal = (s₀.run vs).journal) ∧
    (((s₀.run vs).answer v).fault = none → t.refuses .start parseName = false →
      ∃ span, Enters (s₀.run vs) ((s₀.run vs).next v) .parse parseName parent
        (parseAttributes (if includeSource then some source else none)
          (if includeVariables then (sortedJson bindings).toOption else none)) span) := by
  have hsource : (s₀.run vs).observer.includeSource = includeSource := by
    rw [(includes_run s₀ vs).1, hfresh]
    rfl
  have hvariables : (s₀.run vs).observer.includeVariables = includeVariables := by
    rw [(includes_run s₀ vs).2, hfresh]
    rfl
  have htracer : (s₀.run vs).observer.tracer = t := by
    rw [tracer_run, hfresh]
    rfl
  have hstrict : (s₀.run vs).tree.strict = false := by
    rw [strict_run, tree, hfresh]
    rfl
  have hfault : ∀ f, (s₀.run vs).observer.shownVariables bindings = .error f ↔
      includeVariables = true ∧ sortedJson bindings = .error f ∧ leavesOut f = false := fun f => by
    rw [Observer.shownVariables_eq_error_iff, hvariables]
  cases hshown : (s₀.run vs).observer.shownVariables bindings with
  | error g =>
    obtain ⟨hraised, hobserver, hjournal⟩ := answer_of_unwritten hcall hlive hshown
    obtain ⟨-, hwriting, hpassed⟩ := (hfault g).1 hshown
    refine ⟨fun f => ?_, fun f hf => ?_, fun hnone => ?_⟩
    · rw [← hfault, hshown, hraised, Option.some.injEq, Except.error.injEq]
    · obtain rfl := Option.some.inj (hraised.symm.trans hf)
      exact ⟨refuses_of_sortedJson hwriting hpassed, hobserver, hjournal⟩
    · cases hraised.symm.trans hnone
  | ok shown =>
    have hopens : Opens (s₀.run vs) v .parse parseName parent
        (parseAttributes (if includeSource then some source else none)
          (if includeVariables then (sortedJson bindings).toOption else none)) := by
      have hopens := Opens.parse hcall hlive hshown
      rwa [Observer.fst_of_shownVariables hshown, hsource, hvariables] at hopens
    have hnone : ((s₀.run vs).answer v).fault = none := by
      by_cases hstart : t.refuses .start parseName = true
      · exact fault_of_refused hopens (htracer ▸ hstart)
      · exact (enters_of_opens hopens (htracer ▸ by simpa using hstart) hstrict).1
    refine ⟨fun f => ?_, fun f hf => ?_, fun _ hstart => ?_⟩
    · rw [← hfault, hshown, hnone]
      simp
    · cases hnone.symm.trans hf
    · exact (enters_of_opens hopens (htracer ▸ hstart) hstrict).2

/-- An object without a text among the variables.  Its fault means a bad value, so
the span of parsing is started without the variables. -/
theorem parse_start_enters_without_variables :
    let t : Tracer := { provider := "provider", scope := "graphql", refuses := fun _ _ => false }
    let b : Backend := { journal := .empty, current := .empty, notes := [] }
    let s₀ : Session := ⟨.create t true true false, b⟩
    let visit (e : Event) : Visit := { call := .event e, outer := none, current := .empty }
    let bindings : Value := .dict [(.text "v", .textless "Key" "<Key>" (.ofValue "no text"))]
    let s := s₀.run [visit .start]
    let v := visit (.parseStart (some "{ a }") bindings)
    ∃ parent, s.tree.get? .request = some parent ∧ (s.answer v).fault = none ∧
      ∃ span, Enters s (s.next v) .parse "parse" parent
        [("graphql.source", .text "{ a }")] span := by
  intro t b s₀ visit bindings s v
  have hbad : sortedJson bindings = .error (.ofValue "no text") := by cbv
  obtain ⟨hraises, -, henters⟩ :=
    parse_start_enters t true true s₀ [visit .start] v "{ a }" bindings rfl rfl
      (show s.tree.get? .request = some _ from rfl)
  have hnone : (s.answer v).fault = none := by
    refine Option.eq_none_iff_forall_ne_some.2 fun f hf => ?_
    obtain ⟨-, hwriting, hpassed⟩ := (hraises f).1 hf
    obtain rfl := Except.error.inj (hbad.symm.trans hwriting)
    cases hpassed
  obtain ⟨span, hspan⟩ := henters hnone rfl
  rw [hbad] at hspan
  exact ⟨_, rfl, hnone, span, hspan⟩

/-- An object among the variables that raises a fault at run time in place of its
text.  The start of parsing raises that fault, and there is no span of parsing. -/
theorem parse_start_raises :
    let t : Tracer := { provider := "provider", scope := "graphql", refuses := fun _ _ => false }
    let b : Backend := { journal := .empty, current := .empty, notes := [] }
    let s₀ : Session := ⟨.create t true true false, b⟩
    let visit (e : Event) : Visit := { call := .event e, outer := none, current := .empty }
    let bindings : Value := .dict [(.text "v", .textless "Key" "<Key>" (.ofRuntime "no text"))]
    let s := s₀.run [visit .start]
    let v := visit (.parseStart (some "{ a }") bindings)
    s.tree.isLive .request = true ∧ (s.answer v).fault = some (.ofRuntime "no text") ∧
      (s.next v).tree.get? .parse = none ∧ (s.next v).journal.spans.length = 1 := by
  intro t b s₀ visit bindings s v
  have hbad : sortedJson bindings = .error (.ofRuntime "no text") := by cbv
  obtain ⟨hfault, hobserver, hjournal⟩ := answer_of_unwritten (s := s) (v := v) rfl
    (show s.tree.get? .request = some _ from rfl)
    (Observer.shownVariables_eq_error_iff.2 ⟨rfl, hbad, rfl⟩)
  refine ⟨rfl, hfault, ?_, ?_⟩
  · rw [tree, hobserver]
    rfl
  · rw [hjournal]
    rfl

end Session

end Trace

end QueryTelemetry
