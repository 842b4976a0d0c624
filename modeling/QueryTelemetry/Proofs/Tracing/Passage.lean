import QueryTelemetry.Proofs.Tracing.Move

/-!
# What one visit does to one span

A visit keeps a span that it neither starts nor finds in a slot that it leaves
(`keeps_next`).  It ends the span of the slot that it leaves at the end of a
piece of work (`ends_next`), and closing ends the spans of the slots as failures
(`fails_next`), in both cases if the slot is owned.

`Orderly` is the invariant of the slots of a session whose outer context never
changes: the slot of the request may hold the outer context, and every other
live slot holds a span of its own that the observer has started.  `Passage`
lists what a visit can do to a span that was started before: leave it alone,
end it when its slot is left, end it as a failure when the session is closed,
or drop it when another context takes its slot.  `passage_next` says that one of
these happens, and `Birth` and `birth_next` say how a new span begins.
-/

namespace QueryTelemetry.Trace

open Request (Event)

/-! ## Closing, seen from one span -/

/-- Closing keeps a span that no owned slot holds. -/
theorem Observer.keeps_abandonAll {o : Observer} {current i : Nat} {j : Journal}
    {left : List (Slot × Context)}
    (h : ∀ e ∈ left, o.owns e.1 = true → e.2.current.entry ≠ some i) :
    j.Keeps (o.abandonAll current j left) i := by
  induction left generalizing j with
  | nil => exact .refl j i
  | cons e left ih =>
    refine Journal.Keeps.trans ?_ (ih fun e' he' => h e' (List.mem_cons_of_mem _ he'))
    show j.Keeps (if o.owns e.1 then _ else j) i
    by_cases howns : o.owns e.1 = true
    · rw [if_pos howns]
      exact (j.same_failed_of_ne (h e (List.mem_cons_self ..) howns) ..).keeps
    · rw [if_neg howns]
      exact .refl j i

/-- Closing ends the span of a slot that is owned as a failure, if no other
slot holds it. -/
theorem Observer.fails_abandonAll {o : Observer} {current i : Nat} {j : Journal}
    {before after : List (Slot × Context)} {k : Slot} {c : Context} {span : Span}
    (hbefore : ∀ e ∈ before, o.owns e.1 = true → e.2.current.entry ≠ some i)
    (hafter : ∀ e ∈ after, o.owns e.1 = true → e.2.current.entry ≠ some i)
    (howns : o.owns k = true)
    (hentry : c.current.entry = some i) (hspan : j.spans[i]? = some span)
    (hstatus : span.refuses .setStatus = false) (hfinish : span.refuses .finish = false) :
    j.Fails (o.abandonAll current j (before ++ (k, c) :: after)) i := by
  have hkeeps : j.Keeps (o.abandonAll current j before) i := o.keeps_abandonAll hbefore
  obtain ⟨attributes, events, hspan'⟩ := hkeeps.span span hspan
  have hfails := Journal.fails_failed hentry hspan' hstatus hfinish
    "request scope left before span ended" current
  rw [abandonAll, List.foldl_append, List.foldl_cons, if_pos howns]
  exact (hfails.after_keeps hkeeps).before_keeps (o.keeps_abandonAll hafter)

/-! ## Leaving a slot, seen from one span -/

namespace Journal

variable {j : Journal} {v : Visit} {c : Context} {i : Nat} {span : Span}

theorem keeps_annotated (j : Journal) (v : Visit) (c : Context) (i : Nat) :
    j.Keeps (j.annotated v c) i := by
  simp only [annotated]
  split
  · exact j.keeps_setAttributes ..
  · exact .refl j i

/-- Leaving another slot changes nothing at an entry. -/
theorem same_released_of_ne (j : Journal) (v : Visit) (h : c.current.entry ≠ some i) :
    Same j ((j.annotated v c).released c) i := by
  refine Same.trans ?_ (same_finish_of_ne _ h _)
  simp only [annotated]
  split
  · exact same_record_of_ne j (by decide) _ h
  · exact .refl j i

theorem ends_released (j : Journal) (v : Visit) (hentry : c.current.entry = some i)
    (hspan : j.spans[i]? = some span) (hfinish : span.refuses .finish = false) :
    Ends j ((j.annotated v c).released c) i := by
  have hkeeps := j.keeps_annotated v c i
  obtain ⟨attributes, events, hspan'⟩ := hkeeps.span span hspan
  exact (ends_finish hentry hspan' hfinish _).after_keeps hkeeps

theorem getElem?_released (hentry : c.current.entry = some i) (hspan : j.spans[i]? = some span)
    (hfinish : span.refuses .finish = false) :
    (j.released c).spans[i]? = some span.finished := by
  rw [released, finish_of_found _ (find?_of_entry hentry hspan) hfinish]
  exact getElem?_closed_self (j := j.noted .finish c.current) hspan _

theorem annotated_of_left {k : Slot} (hleft : v.call.left? = some k) (hk : k ≠ .validation) :
    j.annotated v c = j := by
  simp only [annotated]
  split
  · next hcall =>
    rw [hcall] at hleft
    exact absurd (Option.some.inj hleft).symm hk
  · rfl

theorem getElem?_annotated {complexity depth : Int}
    (hcall : v.call = .event (.validationEnd complexity depth))
    (hentry : c.current.entry = some i) (hspan : j.spans[i]? = some span)
    (hrecording : span.isRecording = true) :
    (j.annotated v c).spans[i]? =
      some (if span.refuses .setAttributes then span
        else span.withAttributes (validationAttributes complexity depth)) := by
  simp only [annotated, hcall, setAttributes]
  by_cases hop : span.refuses .setAttributes = true
  · simp only [record, find?_of_entry hentry hspan, hop, if_true, settled]
    exact hspan
  · rw [record_of_found _ (find?_of_entry hentry hspan) (by simpa using hop), if_pos hrecording,
      if_neg hop]
    simp [settled, update, noted, hspan]

end Journal

namespace Session

/-! ## What a visit does to the journal, seen from one span -/

/-- A slot holds the span of an entry. -/
def Holds (s : Session) (k : Slot) (i : Nat) : Prop :=
  ∃ c, s.tree.get? k = some c ∧ c.current.entry = some i

theorem holds_of_put {s s' : Session} {k : Slot} {c : Context}
    (htree : s'.tree = s.tree.put k c) (k' : Slot) (i : Nat) :
    s'.Holds k' i ↔ if k' = k then c.current.entry = some i else s.Holds k' i := by
  have hget : s'.tree.get? k' = if k' = k then some c else s.tree.get? k' := by
    rw [htree, SlotTree.get?, SlotTree.put, Assoc.get?_put]
    simp [SlotTree.get?]
  simp only [Holds, hget]
  split
  · simp
  · rfl

/-- The span of an entry has been started and has ended. -/
def Ended (s : Session) (i : Nat) : Prop :=
  ∃ span, s.journal.spans[i]? = some span ∧ span.ended = true

/-- The span of an entry has been started and has not ended. -/
def Open (s : Session) (i : Nat) : Prop :=
  ∃ span, s.journal.spans[i]? = some span ∧ span.ended = false

theorem not_open_of_ended {s : Session} {i : Nat} (h : s.Ended i) : ¬ s.Open i := by
  obtain ⟨span, hspan, hended⟩ := h
  rintro ⟨span', hspan', hopen⟩
  obtain rfl : span = span' := Option.some.inj (hspan.symm.trans hspan')
  exact absurd (hended.symm.trans hopen) (by decide)

/-- A visit starts the span of an entry. -/
def Starts (i : Nat) (s : Session) (v : Visit) : Prop :=
  s.journal.spans.length ≤ i ∧ i < (s.next v).journal.spans.length

section

variable {s : Session} {v : Visit} {i : Nat}

theorem entry_started (s : Session) (name : String) (parent : Context) (attributes : Fields) :
    (parent.withSpan (s.started name parent attributes).1).current.entry =
      some s.journal.spans.length := rfl

theorem getElem?_started (s : Session) (name : String) (parent : Context) (attributes : Fields) :
    (s.started name parent attributes).2.spans[s.journal.spans.length]? =
      some (s.journal.newSpan s.observer.tracer name parent .server attributes) := by
  rw [Journal.getElem?_opened, if_pos rfl]

theorem not_starts_of_lt (h : i < s.journal.spans.length) : ¬ Starts i s v :=
  fun hstarts => Nat.not_lt.2 hstarts.1 h

theorem Starts.eq_length (hstarts : Starts i s v) : i = s.journal.spans.length := by
  have := hstarts.1
  have := hstarts.2
  rcases length_next s v with h | ⟨h, -⟩ <;> omega

/-- A visit starts a span if it has one to start and the backend allows it. -/
theorem Starts.opens (hstarts : Starts i s v) : ∃ k name parent attributes,
    Opens s v k name parent attributes ∧ s.observer.tracer.refuses .start name = false := by
  rcases length_next s v with hlength | ⟨-, k, name, parent, attributes, hopens, hstart⟩
  · obtain ⟨hle, hlt⟩ := hstarts
    omega
  · exact ⟨k, name, parent, attributes, hopens, hstart⟩

/-- A visit keeps a span that it does not start and that is in none of the owned
slots that it leaves. -/
theorem keeps_next (hnodup : s.tree.keys.Nodup) (hstarts : ¬ Starts i s v)
    (hleft : ∀ k c, v.call.Leaves k → s.tree.get? k = some c → s.observer.owns k = true →
      c.current.entry ≠ some i) : s.journal.Keeps (s.next v).journal i := by
  have hne : ∀ {n}, (s.next v).journal.spans.length = n →
      n = s.journal.spans.length + 1 → s.journal.spans.length ≠ i := by
    rintro n hn rfl rfl
    exact hstarts ⟨Nat.le_refl _, by omega⟩
  show s.journal.Keeps (s.answer v).backend.journal i
  cases move_answer s v with
  | rest _ _ _ _ hjournal | joined _ _ _ _ hjournal | barred _ _ _ _ _ hjournal =>
    rw [hjournal]
    exact .refl _ i
  | opened _ _ _ _ hjournal =>
    rw [hjournal]
    exact Journal.keeps_opened ..
  | @rejected k name parent attributes _ _ _ _ _ hjournal =>
    have hne := hne (congrArg (·.spans.length) hjournal)
      (by rw [Journal.length_failed, Journal.length_opened])
    rw [hjournal]
    exact (Journal.keeps_opened ..).trans
      (Journal.same_failed_of_ne _ (fun hentry => hne (Option.some.inj hentry)) ..).keeps
  | @left k c hleft' hlive _ hjournal =>
    rw [hjournal]
    by_cases howns : s.observer.owns k = true
    · rw [if_pos howns]
      exact (s.journal.keeps_annotated v c i).trans
        (Journal.same_finish_of_ne _ (hleft k c (.inl hleft') hlive howns) _).keeps
    · rw [if_neg howns]
      exact s.journal.keeps_annotated v c i
  | recorded _ _ _ _ hjournal =>
    rw [hjournal]
    exact Journal.keeps_addEvent ..
  | closed hcall _ hjournal =>
    rw [hjournal]
    refine Observer.keeps_abandonAll fun e he => hleft e.1 e.2 (.inr hcall) ?_
    exact Assoc.get?_of_mem hnodup (List.mem_reverse.1 he)

/-- The end of a piece of work ends the span of its slot, if the slot is
owned. -/
theorem ends_next {k : Slot} {c : Context} {span : Span} (hleft : v.call.left? = some k)
    (hget : s.tree.get? k = some c) (howns : s.observer.owns k = true)
    (hentry : c.current.entry = some i) (hspan : s.journal.spans[i]? = some span)
    (hfinish : span.refuses .finish = false) : s.journal.Ends (s.next v).journal i := by
  rw [(next_of_left hleft hget).2, if_pos howns]
  exact s.journal.ends_released v hentry hspan hfinish

/-- A close ends the span of a slot as a failure, if the slot is owned and no
other slot that is owned holds the span. -/
theorem fails_next {k : Slot} {c : Context} {span : Span} (hnodup : s.tree.keys.Nodup)
    (hcall : v.call = .close) (hget : s.tree.get? k = some c) (howns : s.observer.owns k = true)
    (hentry : c.current.entry = some i)
    (hone : ∀ k' c', s.tree.get? k' = some c' → s.observer.owns k' = true →
      c'.current.entry = some i → k' = k)
    (hspan : s.journal.spans[i]? = some span) (hstatus : span.refuses .setStatus = false)
    (hfinish : span.refuses .finish = false) : s.journal.Fails (s.next v).journal i := by
  show s.journal.Fails (s.answer v).backend.journal i
  cases move_answer s v with
  | rest _ _ hdead => exact absurd (hget.symm.trans (hdead k (.inr hcall))) (by simp)
  | opened hopens | rejected hopens =>
    exact absurd (Or.inr hcall : v.call.Leaves k) hopens.not_leaves
  | joined hcall' | barred hcall' | recorded hcall' => simp [hcall] at hcall'
  | left hleft =>
    rw [hcall] at hleft
    exact absurd hleft (by simp [Call.left?])
  | closed _ _ hjournal =>
    obtain ⟨before, after, hslots, hbefore, hafter⟩ := Assoc.exists_split_of_get? hnodup hget
    have hother : ∀ e ∈ s.tree.slots, e.1 ≠ k → s.observer.owns e.1 = true →
        e.2.current.entry ≠ some i :=
      fun e he hk howns' hentry' =>
        hk (hone e.1 e.2 (Assoc.get?_of_mem hnodup he) howns' hentry')
    have hreverse : s.tree.slots.reverse = after.reverse ++ (k, c) :: before.reverse := by
      rw [hslots]
      simp
    rw [hjournal, hreverse]
    refine Observer.fails_abandonAll ?_ ?_ howns hentry hspan hstatus hfinish
    · intro e he
      have he := List.mem_reverse.1 he
      exact hother e (hslots ▸ by simp [he]) (hafter e he)
    · intro e he
      have he := List.mem_reverse.1 he
      exact hother e (hslots ▸ by simp [he]) (hbefore e he)

end

/-! ## The invariant of the slots -/

/-- The outer context is no span that this session will start. -/
def Foreign (n : Nat) (outer : Option Context) : Prop :=
  ∀ c i, outer = some c → c.current.entry = some i → i < n

/-- The invariant of the slots of a session whose requests bring the same outer
context all the time.  The spans of the session are the entries from `n` on. -/
structure Orderly (n : Nat) (outer : Option Context) (s : Session) : Prop where
  nodup : s.tree.keys.Nodup
  base : n ≤ s.journal.spans.length
  mark : s.observer.joined = true → outer ≠ none
  slot : ∀ k c, s.tree.get? k = some c →
    k = .request ∧ outer = some c ∧ s.observer.joined = true ∨
    (k = .request → outer = none) ∧ ∃ i, c.current.entry = some i ∧ n ≤ i ∧
      ∃ span, s.journal.spans[i]? = some span ∧ span.tracer = s.observer.tracer
  one : ∀ k k' i, n ≤ i → s.Holds k i → s.Holds k' i → k = k'

variable {n : Nat} {outer : Option Context} {s : Session} {v : Visit} {i : Nat}

/-- A slot that holds a span of the session holds one that the observer has
started, and owns it. -/
theorem Orderly.own (h : Orderly n outer s) (hforeign : Foreign n outer) {k : Slot}
    (hi : n ≤ i) (hheld : s.Holds k i) :
    s.observer.owns k = true ∧
      ∃ span, s.journal.spans[i]? = some span ∧ span.tracer = s.observer.tracer := by
  obtain ⟨c, hget, hentry⟩ := hheld
  rcases h.slot k c hget with ⟨-, houter, -⟩ | ⟨hrequest, i', hentry', -, span, hspan, ht⟩
  · exact absurd (hforeign c i houter hentry) (Nat.not_lt.2 hi)
  · obtain rfl : i = i' := Option.some.inj (hentry.symm.trans hentry')
    refine ⟨?_, span, hspan, ht⟩
    simp only [Observer.owns, Bool.not_eq_true', Bool.and_eq_false_iff, beq_eq_false_iff_ne]
    by_cases hk : k = .request
    · exact .inr (Bool.eq_false_iff.2 fun hjoined => h.mark hjoined (hrequest hk))
    · exact .inl hk

/-- No slot holds a span that has not been started. -/
theorem Orderly.not_holds (h : Orderly n outer s) (hforeign : Foreign n outer)
    (hi : s.journal.spans.length ≤ i) (k : Slot) : ¬ s.Holds k i := by
  intro hheld
  obtain ⟨-, span, hspan, -⟩ := h.own hforeign (Nat.le_trans h.base hi) hheld
  exact absurd (List.getElem?_eq_some_iff.1 hspan).1 (Nat.not_lt.2 hi)

/-- A slot that holds a span after a visit held it before, or the visit starts
the span. -/
theorem holds_of_holds_next {k : Slot} (hforeign : Foreign n outer) (houter : v.outer = outer)
    (hi : n ≤ i) (hold : ¬ Starts i s v) (hheld : (s.next v).Holds k i) : s.Holds k i := by
  obtain ⟨c, hget, hentry⟩ := hheld
  rcases get?_next hget with hget | ⟨name, parent, attributes, -, rfl, hjournal⟩ | ⟨-, -, hc, -⟩
  · exact ⟨c, hget, hentry⟩
  · obtain rfl := Option.some.inj (entry_started s name parent attributes ▸ hentry)
    refine absurd ⟨Nat.le_refl _, ?_⟩ hold
    rw [hjournal, Journal.length_opened]
    omega
  · exact absurd (hforeign c i (houter ▸ hc) hentry) (Nat.not_lt.2 hi)

/-! ## What can happen to a span that was started before -/

/-- A visit drops a span: another context takes its slot. -/
def Drops (i : Nat) (s : Session) (v : Visit) : Prop :=
  ∃ k c, s.Holds k i ∧ (s.next v).tree.get? k = some c ∧ c.current.entry ≠ some i

/-- What a visit does to the span of an entry. -/
inductive Passage (s : Session) (v : Visit) (i : Nat) : Prop where
  | kept (hkeeps : s.journal.Keeps (s.next v).journal i)
      (hholds : ∀ k, (s.next v).Holds k i ↔ s.Holds k i)
  | released {k : Slot} (hheld : s.Holds k i) (hcall : v.call ≠ .close)
      (hends : s.journal.Ends (s.next v).journal i)
      (hholds : ∀ k, ¬ (s.next v).Holds k i)
  | abandoned {k : Slot} (hheld : s.Holds k i) (hcall : v.call = .close)
      (hfails : s.journal.Fails (s.next v).journal i)
      (hholds : ∀ k, ¬ (s.next v).Holds k i)
  | dropped {k : Slot} (hheld : s.Holds k i) (hstrict : s.tree.strict = false)
      (hkeeps : s.journal.Keeps (s.next v).journal i) (hdrops : Drops i s v)
      (hholds : ∀ k, ¬ (s.next v).Holds k i)

/-- A visit that leaves the slot of a span ends the span. -/
theorem passage_of_leaves {k : Slot} (h : Orderly n outer s) (hforeign : Foreign n outer)
    (hstatus : s.observer.tracer.Allows .setStatus)
    (hfinish : s.observer.tracer.Allows .finish) (hi : n ≤ i) (hheld : s.Holds k i)
    (hleaves : v.call.Leaves k) (hholds : ∀ k, ¬ (s.next v).Holds k i) : Passage s v i := by
  obtain ⟨howns, span, hspan, htracer⟩ := h.own hforeign hi hheld
  have hstatus : span.refuses .setStatus = false := by
    rw [Span.refuses, htracer]
    exact hstatus span.name
  have hfinish : span.refuses .finish = false := by
    rw [Span.refuses, htracer]
    exact hfinish span.name
  have hheld' := hheld
  obtain ⟨c, hget, hentry⟩ := hheld
  rcases hleaves with hleft | hclose
  · refine .released hheld' ?_ (ends_next hleft hget howns hentry hspan hfinish) hholds
    intro hclose
    rw [hclose] at hleft
    exact absurd hleft (by simp [Call.left?])
  · refine .abandoned hheld' hclose ?_ hholds
    refine fails_next h.nodup hclose hget howns hentry ?_ hspan hstatus hfinish
    exact fun k' c' hget' _ hentry' => h.one k' k i hi ⟨c', hget', hentry'⟩ hheld'

/-- A visit does one of four things to a span that it does not start. -/
theorem passage_next (h : Orderly n outer s) (hforeign : Foreign n outer)
    (houter : v.outer = outer) (hstatus : s.observer.tracer.Allows .setStatus)
    (hfinish : s.observer.tracer.Allows .finish) (hi : n ≤ i) (hold : ¬ Starts i s v) :
    Passage s v i := by
  have hback : ∀ k, (s.next v).Holds k i → s.Holds k i :=
    fun _ => holds_of_holds_next hforeign houter hi hold
  by_cases hheld : ∃ k, s.Holds k i
  · obtain ⟨k, hheld⟩ := hheld
    have honly : ∀ k', s.Holds k' i → k' = k := fun k' hk' => h.one k' k i hi hk' hheld
    by_cases hleaves : v.call.Leaves k
    · refine passage_of_leaves h hforeign hstatus hfinish hi hheld hleaves fun k' hk' => ?_
      obtain ⟨c, hget, -⟩ := honly k' (hback k' hk') ▸ hk'
      exact absurd (hget.symm.trans (get?_next_of_leaves hleaves)) (by simp)
    · have hkeeps : s.journal.Keeps (s.next v).journal i := by
        refine keeps_next h.nodup hold fun k' c hleaves' hget _ hentry => hleaves ?_
        exact honly k' ⟨c, hget, hentry⟩ ▸ hleaves'
      obtain ⟨c, hget, hentry⟩ := id hheld
      rcases get?_next_of_not_leaves hget hleaves with hget' | ⟨hstrict, c', hget', hnew⟩
      · refine .kept hkeeps fun k' => ⟨hback k', fun hk' => ?_⟩
        obtain rfl := honly k' hk'
        exact ⟨c, hget', hentry⟩
      · have hentry' : c'.current.entry ≠ some i := by
          rcases hnew with hnew | ⟨-, hnew⟩
          · obtain ⟨-, span, hspan, -⟩ := h.own hforeign hi hheld
            have hlt := (List.getElem?_eq_some_iff.1 hspan).1
            exact fun he => Nat.ne_of_gt hlt (Option.some.inj (hnew.symm.trans he))
          · exact fun he => absurd (hforeign c' i (houter ▸ hnew) he) (Nat.not_lt.2 hi)
        refine .dropped hheld hstrict hkeeps ⟨k, c', hheld, hget', hentry'⟩ fun k' hk' => ?_
        obtain ⟨c₁, hget₁, hentry₁⟩ := honly k' (hback k' hk') ▸ hk'
        obtain rfl := Option.some.inj (hget'.symm.trans hget₁)
        exact hentry' hentry₁
  · refine .kept ?_ fun k => ⟨hback k, fun hk => absurd ⟨k, hk⟩ hheld⟩
    exact keeps_next h.nodup hold fun k c _ hget _ hentry => hheld ⟨k, c, hget, hentry⟩

/-! ## How a span begins -/

/-- How the span of an entry begins: it is kept in its slot, or it is rejected
and ended at once. -/
inductive Birth (s : Session) (v : Visit) (i : Nat) : Prop where
  | kept {k : Slot} {name : String} {parent : Context} {attributes : Fields}
      (hopens : Opens s v k name parent attributes)
      (hspan : (s.next v).journal.spans[i]? =
        some (s.journal.newSpan s.observer.tracer name parent .server attributes))
      (hends : (s.next v).journal.endsOf i = s.journal.endsOf i)
      (hexports : (s.next v).journal.exportsOf i = s.journal.exportsOf i)
      (hholds : ∀ k', (s.next v).Holds k' i ↔ k' = k)
  | rejected {k : Slot} {name : String} {parent : Context} {attributes : Fields}
      (hopens : Opens s v k name parent attributes) (hstrict : s.tree.strict = true)
      (hspan : (s.started name parent attributes).2.spans[i]? =
        some (s.journal.newSpan s.observer.tracer name parent .server attributes))
      (hfails : (s.started name parent attributes).2.Fails (s.next v).journal i)
      (hfault : (s.answer v).fault = some (SlotTree.alreadyLive k))
      (hholds : ∀ k', ¬ (s.next v).Holds k' i)

/-- A span that a visit starts begins in one of two ways. -/
theorem birth_next (h : Orderly n outer s) (hforeign : Foreign n outer)
    (hstatus : s.observer.tracer.Allows .setStatus)
    (hfinish : s.observer.tracer.Allows .finish) (hstarts : Starts i s v) : Birth s v i := by
  obtain rfl := hstarts.eq_length
  obtain ⟨k, name, parent, attributes, hopens, hstart⟩ := hstarts.opens
  have hspan := getElem?_started s name parent attributes
  rcases next_of_opens hopens hstart with ⟨-, hobserver, hjournal, -⟩ |
    ⟨hlive, hobserver, hjournal, hfault⟩
  · refine .kept hopens (by rw [hjournal, hspan]) (by rw [hjournal]; rfl) (by rw [hjournal]; rfl) ?_
    intro k'
    rw [holds_of_put (congrArg (·.tree) hobserver)]
    by_cases hk : k' = k
    · rw [if_pos hk, entry_started]
      exact iff_of_true rfl hk
    · rw [if_neg hk]
      exact iff_of_false (h.not_holds hforeign (Nat.le_refl _) k') hk
  · have hstrict : s.tree.strict = true := (Bool.and_eq_true_iff.1 hlive).2
    refine .rejected hopens hstrict hspan ?_ (hfault (hstatus name) (hfinish name)) ?_
    · rw [hjournal]
      exact Journal.fails_failed rfl hspan (hstatus name) (hfinish name) ..
    · rintro k' ⟨c, hget, hentry⟩
      rw [tree, hobserver] at hget
      exact h.not_holds hforeign (Nat.le_refl _) k' ⟨c, hget, hentry⟩

/-! ## The invariant is preserved -/

/-- A visit leaves an orderly session orderly. -/
theorem Orderly.next (h : Orderly n outer s) (hforeign : Foreign n outer)
    (houter : v.outer = outer) (hstatus : s.observer.tracer.Allows .setStatus)
    (hfinish : s.observer.tracer.Allows .finish) : Orderly n outer (s.next v) := by
  refine ⟨nodup_next h.nodup v, ?_, ?_, ?_, ?_⟩
  · have := h.base
    rcases length_next s v with hlength | ⟨hlength, -⟩ <;> omega
  · rw [joined_next, Bool.or_eq_true]
    rintro (hjoined | hjoins)
    · exact h.mark hjoined
    · rintro rfl
      exact absurd houter (v.outer_ne_none_of_joins hjoins)
  · intro k c hget
    rcases get?_next hget with hold | ⟨name, parent, attributes, hopens, rfl, hjournal⟩ |
      ⟨rfl, -, hcontext, hjoined⟩
    · rcases h.slot k c hold with ⟨rfl, hcontext, hjoined⟩ | ⟨hrequest, i, hentry, hi, span, hspan, ht⟩
      · exact .inl ⟨rfl, hcontext, by rw [joined_next, hjoined, Bool.true_or]⟩
      · refine .inr ⟨hrequest, i, hentry, hi, ?_⟩
        have hstarts : ¬ Starts i s v := not_starts_of_lt (List.getElem?_eq_some_iff.1 hspan).1
        cases passage_next h hforeign houter hstatus hfinish hi hstarts with
        | kept hkeeps _ =>
          obtain ⟨attributes, events, hspan'⟩ := hkeeps.span span hspan
          exact ⟨_, hspan', by rw [tracer_next]; exact ht⟩
        | released _ _ _ hholds | abandoned _ _ _ hholds | dropped _ _ _ _ hholds =>
          exact absurd ⟨c, hget, hentry⟩ (hholds k)
    · refine .inr ⟨?_, s.journal.spans.length, entry_started .., h.base, ?_⟩
      · rintro rfl
        cases hopens with
        | request _ hnone => exact houter ▸ hnone
      · refine ⟨s.journal.newSpan s.observer.tracer name parent .server attributes, ?_,
          (tracer_next s v).symm⟩
        rw [hjournal, getElem?_started]
    · exact .inl ⟨rfl, houter ▸ hcontext, hjoined⟩
  · intro k k' i hi hk hk'
    by_cases hstarts : Starts i s v
    · cases birth_next h hforeign hstatus hfinish hstarts with
      | kept _ _ _ _ hholds => exact ((hholds k).1 hk).trans ((hholds k').1 hk').symm
      | rejected _ _ _ _ _ hholds => exact absurd hk (hholds k)
    · cases passage_next h hforeign houter hstatus hfinish hi hstarts with
      | kept _ hholds => exact h.one k k' i hi ((hholds k).1 hk) ((hholds k').1 hk')
      | released _ _ _ hholds | abandoned _ _ _ hholds | dropped _ _ _ _ hholds =>
        exact absurd hk (hholds k)

end Session

end QueryTelemetry.Trace
