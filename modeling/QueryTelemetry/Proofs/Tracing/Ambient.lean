import QueryTelemetry.Proofs.Tracing.Twin

/-!
# The current context stays outside

The context that is current where a call is made is ambient: a tracer that is not
told the parent of a span takes the current one.  The observer never does that.
`current_answer` says that a call leaves the context current that was current
before, whether or not it raises a fault.  `run_ignores_current` says that what
is current around the calls decides nothing: two runs with the same calls start
the same spans up to their ids.

Without an ambient parent a span is a root exactly if nothing is above it.
`Rooted` is the invariant: the contexts of all slots have valid spans, and the
roots are the spans that were started as such (`StartsRoot`).
-/

namespace QueryTelemetry.Trace

/-! ## What is current after a call -/

namespace Observer

variable {o : Observer} {b : Backend}

/-- `Move` does not speak of the current context.  The hooks that take a backend
along leave it as it is, one after the other. -/
theorem current_reject (o : Observer) (k : Slot) (c : Context) (b : Backend) :
    (o.reject k c b).backend.current = b.current := by
  simp only [reject]
  split
  · rfl
  · split <;> rfl

theorem current_enter (o : Observer) (k : Slot) (c : Context) (b : Backend) :
    (o.enter k c b).backend.current = b.current := by
  simp only [enter]
  split
  · exact current_reject ..
  · rfl

theorem current_join (o : Observer) (c : Context) (b : Backend) :
    (o.join c b).backend.current = b.current := by
  simp only [join]
  split <;> rfl

theorem current_begin (o : Observer) (k : Slot) (name : String) (parent : Context)
    (attributes : Fields) (b : Backend) :
    (o.begin k name parent attributes b).backend.current = b.current := by
  simp only [begin, startSpan]
  cases b.journal.start o.tracer name parent .server attributes with
  | ok started => exact current_enter ..
  | error refusal => rfl

/-- While a span is ended its context is current, and afterwards what was current
before is current again. -/
theorem current_release (o : Observer) (k : Slot) (b : Backend) :
    (o.release k b).backend.current = b.current := by
  simp only [release]
  split
  · rfl
  · split <;> rfl

theorem current_annotate (o : Observer) (k : Slot) (attributes : Fields) (b : Backend) :
    (o.annotate k attributes b).current = b.current := by
  simp only [annotate]
  split
  · rfl
  · exact current_attempt ..

theorem current_onError (o : Observer) (err : Value) (b : Backend) :
    (o.onError err b).backend.current = b.current := by
  simp only [onError]
  split
  · rfl
  · split
    · exact current_attempt ..
    · split <;> rfl

theorem current_hook (o : Observer) (outer : Option Context) (e : Request.Event) (b : Backend) :
    (o.hook outer e b).backend.current = b.current := by
  cases e with
  | start =>
    cases outer with
    | none => exact current_begin ..
    | some c => exact current_join ..
  | parseStart query bindings =>
    simp only [hook, onParseStart]
    split
    · rfl
    · split
      · rfl
      · exact current_begin ..
  | validationStart =>
    simp only [hook, onValidationStart]
    split
    · rfl
    · exact current_begin ..
  | validationEnd complexity depth => exact (current_release ..).trans (current_annotate ..)
  | executionStart => exact current_begin ..
  | resolveStart r =>
    simp only [hook, onResolveStart]
    split
    · rfl
    · exact current_begin ..
  | error err => exact current_onError ..
  | parseEnd | executionEnd | resolveEnd | finish => exact current_release ..

theorem current_foldl_abandon (o : Observer) (b : Backend) (left : List (Slot × Context)) :
    (left.foldl o.abandon b).current = b.current := by
  induction left generalizing b with
  | nil => rfl
  | cons e left ih =>
    rw [List.foldl_cons, ih]
    exact current_abandon ..

theorem current_close (o : Observer) (b : Backend) : (o.close b).backend.current = b.current := by
  simp only [close]
  split
  · rfl
  · exact current_foldl_abandon ..

end Observer

namespace Session

/-- A call leaves the context current that was current before it. -/
theorem current_answer (s : Session) (v : Visit) :
    (s.answer v).backend.current = v.current := by
  simp only [answer]
  cases v.call with
  | event e => exact Observer.current_hook ..
  | close => exact Observer.current_close ..

/-! ## Which spans are roots -/

/-- A visit starts the span of an entry as one that has nothing above it: that of
a request, or that of execution while the slot of the request is not live. -/
def StartsRoot (i : Nat) (s : Session) (v : Visit) : Prop :=
  Starts i s v ∧
    (v.call = .event .start ∨
      v.call = .event .executionStart ∧ s.tree.get? .request = none)

/-- The invariant of the roots, for the spans of a run. -/
structure Rooted (s₀ : Session) (vs : List Visit) : Prop where
  valid : ∀ k c, (s₀.run vs).tree.get? k = some c → c.identity.isValid = true
  root : ∀ i span, s₀.journal.spans.length ≤ i → (s₀.run vs).journal.spans[i]? = some span →
    (span.parent = none ↔ Occurs s₀ vs (StartsRoot i))

variable {s s₀ : Session} {v : Visit} {vs : List Visit}

/-- The context above a span that is started is that of a slot, or nothing. -/
theorem isValid_of_opens {k : Slot} {name : String} {parent : Context} {attributes : Fields}
    (hvalid : ∀ k c, s.tree.get? k = some c → c.identity.isValid = true)
    (hopens : Opens s v k name parent attributes) :
    parent.identity.isValid = false ↔
      v.call = .event .start ∨
        v.call = .event .executionStart ∧ s.tree.get? .request = none := by
  cases hopens with
  | request hcall => exact iff_of_true rfl (.inl hcall)
  | parse hcall hparent | validation hcall hparent | field hcall hparent =>
    have := hvalid _ _ hparent
    simp [hcall, this]
  | execution hcall =>
    cases hget : s.tree.get? .request with
    | none => exact iff_of_true rfl (.inr ⟨hcall, rfl⟩)
    | some c =>
      have := hvalid _ _ hget
      simp [hcall, this]

/-- A span is a root if the context above it has no valid span. -/
theorem parent_newSpan_eq_none (j : Journal) (t : Tracer) (name : String) (parent : Context)
    (attributes : Fields) :
    (j.newSpan t name parent .server attributes).parent = none ↔
      parent.identity.isValid = false := by
  simp only [Journal.newSpan]
  split
  · next hvalid => simp [hvalid]
  · next hvalid => simpa using hvalid

theorem Rooted.next (h : Rooted s₀ vs)
    (hretains : (s₀.run vs).journal.Retains ((s₀.run vs).next v).journal)
    (houter : ∀ c, v.outer = some c → c.identity.isValid = true) : Rooted s₀ (vs ++ [v]) := by
  refine ⟨?_, ?_⟩
  · intro k c hget
    rw [run_concat] at hget
    rcases get?_next hget with hget | ⟨name, parent, attributes, -, rfl, -⟩ | ⟨-, -, hc, -⟩
    · exact h.valid k c hget
    · exact Journal.isValid_nextIdentity ..
    · exact houter c hc
  · intro i span hi hspan
    rw [run_concat] at hspan
    rw [occurs_concat]
    have hlt := (List.getElem?_eq_some_iff.1 hspan).1
    by_cases hstarts : Starts i (s₀.run vs) v
    · obtain ⟨k, name, parent, attributes, hopens, _, _, _, _, hspan'⟩ := span_of_starts hstarts
      obtain rfl := Option.some.inj (hspan.symm.trans hspan')
      have hbefore : ¬ Occurs s₀ vs (StartsRoot i) := by
        intro hoccurs
        exact not_starts_of_lt (lt_length_of_occurs hoccurs fun _ _ hroot => hroot.1) hstarts
      have hparent := parent_newSpan_eq_none (s₀.run vs).journal (s₀.run vs).observer.tracer
        name parent attributes
      rw [or_iff_right hbefore, StartsRoot, and_iff_right hstarts,
        ← isValid_of_opens h.valid hopens]
      exact hparent
    · have hold : i < (s₀.run vs).journal.spans.length := by
        refine Nat.lt_of_not_le fun hle => hstarts ⟨hle, hlt⟩
      have hget := List.getElem?_eq_getElem hold
      obtain ⟨attributes, events, status, ended, hspan'⟩ := hretains i _ hget
      obtain rfl := Option.some.inj (hspan.symm.trans hspan')
      rw [or_iff_left fun hroot => hstarts hroot.1]
      have hroot := h.root i _ hi hget
      exact hroot

/-- Both parts of the invariant hold at every point of a run. -/
theorem rooted_run {brought : Context → Prop} {s₀' : Session} (h : Twin brought [] s₀ s₀')
    (hslots : s₀.tree.slots = []) (hbrought : ∀ v ∈ vs, ∀ c, v.outer = some c → brought c)
    (houter : ∀ v ∈ vs, ∀ c, v.outer = some c → c.identity.isValid = true) : Rooted s₀ vs := by
  induction vs using List.reverseRecOn with
  | nil =>
    refine ⟨?_, ?_⟩
    · intro k c hget
      simp [SlotTree.get?, hslots, Assoc.get?] at hget
    · intro i span hi hspan
      exact absurd (List.getElem?_eq_some_iff.1 hspan).1 (Nat.not_lt.2 hi)
  | append_singleton vs v ih =>
    have hold := ih (fun w hw => hbrought w (List.mem_append_left _ hw))
      fun w hw => houter w (List.mem_append_left _ hw)
    obtain ⟨m, htwin, -, -⟩ := twin_run h (List.forall₂_same.2 fun w _ => ⟨rfl, rfl⟩)
      (fun w hw => hbrought w (List.mem_append_left _ hw))
    exact hold.next (htwin.writes_next v).retains fun c hc => houter v (by simp) c hc

/-! ## Runs with other contexts around the calls -/

/-- Every call leaves the context current that was current before it, and what is
current around the calls of a run decides nothing about the spans: another run
with the same calls starts the same spans up to their ids.  If the contexts that
requests bring have valid spans, the roots are the spans of requests that bring
none, and the spans of execution that are started while the slot of the request
is not live. -/
theorem run_ignores_current (t : Tracer) (includeSource includeVariables strict : Bool)
    (s₀ s₀' : Session) (vs vs' : List Visit)
    (hfresh : s₀.observer = .create t includeSource includeVariables strict)
    (hfresh' : s₀'.observer = .create t includeSource includeVariables strict)
    (hsound : s₀.journal.Sound) (hsound' : s₀'.journal.Sound)
    (hvisits : List.Forall₂ SameVisit vs vs') :
    (∀ before v after, vs = before ++ v :: after →
      ((s₀.run before).answer v).backend.current = v.current) ∧
    SameSpans (fun c => ∃ v ∈ vs, v.outer = some c)
      (s₀.run vs).journal (s₀.journal.since (s₀.run vs).journal)
      (s₀'.run vs').journal (s₀'.journal.since (s₀'.run vs').journal) ∧
    ((∀ v ∈ vs, ∀ c, v.outer = some c → c.identity.isValid = true) →
      ∀ i span, s₀.journal.spans.length ≤ i → (s₀.run vs).journal.spans[i]? = some span →
        (span.parent = none ↔ Occurs s₀ vs (StartsRoot i))) := by
  have hslots : s₀.tree.slots = [] := by
    rw [tree, hfresh]
    rfl
  have htwin : Twin (fun c => ∃ v ∈ vs, v.outer = some c) [] s₀ s₀' := by
    obtain ⟨observer, b⟩ := s₀
    obtain ⟨observer', b'⟩ := s₀'
    obtain rfl : observer = observer' := hfresh.trans hfresh'.symm
    exact Twin.create observer hslots hsound hsound'
  refine ⟨?_, ?_, ?_⟩
  · intro before v after _
    exact current_answer _ v
  · obtain ⟨m, hrun, hleft, hright⟩ := twin_run htwin hvisits fun v hv c hc => ⟨v, hv, hc⟩
    exact ⟨m, hleft, hright, hrun.mirrors⟩
  · intro houter
    exact (rooted_run htwin hslots (fun v hv c hc => ⟨v, hv, hc⟩) houter).root

/-- A request and its execution with a span current around the second call, and
the same calls with nothing current. -/
theorem run_ignores_current_span :
    let t : Tracer := { provider := "provider", scope := "graphql", refuses := fun _ _ => false }
    let b : Backend := { journal := .empty, current := .empty, notes := [] }
    let s₀ : Session := ⟨.create t false false true, b⟩
    let server : Context := Context.empty.withSpan
      { identity := { traceId := 7, spanId := 9, flags := 1, remote := false, state := [] },
        entry := none }
    let visit (e : Request.Event) (current : Context) : Visit :=
      { call := .event e, outer := none, current }
    let vs := [visit .start .empty, visit .executionStart server]
    let vs' := [visit .start .empty, visit .executionStart .empty]
    ((s₀.run [visit .start .empty]).answer (visit .executionStart server)).backend.current =
        server ∧
      SameSpans (fun c => ∃ v ∈ vs, v.outer = some c) (s₀.run vs).journal [0, 1]
        (s₀.run vs').journal [0, 1] ∧
      Occurs s₀ vs (StartsRoot 0) ∧ ¬ Occurs s₀ vs (StartsRoot 1) := by
  intro t b s₀ server visit vs vs'
  have hvisits : List.Forall₂ SameVisit vs vs' := .cons ⟨rfl, rfl⟩ (.cons ⟨rfl, rfl⟩ .nil)
  obtain ⟨hcurrent, hsame, hroots⟩ := run_ignores_current t false false true s₀ s₀ vs vs' rfl rfl
    Journal.sound_empty Journal.sound_empty hvisits
  have hroots := hroots (by simp [vs, visit])
  refine ⟨hcurrent [visit .start .empty] (visit .executionStart server) [] rfl, hsame, ?_, ?_⟩
  · exact (hroots 0 _ (Nat.zero_le _) rfl).1 rfl
  · intro hoccurs
    exact absurd ((hroots 1 _ (Nat.zero_le _) rfl).2 hoccurs) (by decide)

end Session

end QueryTelemetry.Trace
