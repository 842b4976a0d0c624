import Mathlib.Data.List.Induction
import QueryTelemetry.Proofs.Tracing.Passage

/-!
# Whose span the slot of a request holds

The slot of the request holds either a span that the session has started or a
context that the request has brought.  `origin` tells them apart by the starts
of the run.  The observer itself has one mark for this, which is set by every
start that brings a context, also by one that is rejected, and is never taken
back.  So the mark says whether a context was ever brought (`joined_run`), not
whose context the slot holds.

`request_slot_left` says what follows when the slot is left.  A context that was
brought is left alone.  A span that the session has started is ended if and only
if no start of the run has brought a context.  `own_span_left_open` is a run in
which the second case goes wrong.
-/

namespace QueryTelemetry.Trace.Session

/-! ## Where the context of the slot comes from -/

/-- Who brought the context of the slot of the request. -/
inductive Origin where
  | own
  | outer
deriving DecidableEq, Repr

/-- Who brought the context of the slot of the request after a visit.  A start
brings one unless it is rejected or no span can be started; the end and a close
leave none. -/
def originNext (s : Session) (v : Visit) (origin : Option Origin) : Option Origin :=
  match v.call with
  | .event .start =>
    if s.tree.isLive .request && s.tree.strict then origin
    else if v.outer.isSome then some .outer
    else if s.observer.tracer.refuses .start requestName then origin
    else some .own
  | .event .finish => none
  | .close => none
  | _ => origin

/-- Who brought the context of the slot of the request in a run. -/
def origin (s₀ : Session) (vs : List Visit) : Option Origin :=
  (vs.foldl (fun p v => (p.1.next v, p.1.originNext v p.2)) (s₀, none)).2

@[simp] theorem origin_nil (s₀ : Session) : origin s₀ [] = none := rfl

theorem origin_concat (s₀ : Session) (vs : List Visit) (v : Visit) :
    origin s₀ (vs ++ [v]) = (s₀.run vs).originNext v (origin s₀ vs) := by
  have hrun : ∀ (s : Session) (o : Option Origin),
      (vs.foldl (fun p v => (p.1.next v, p.1.originNext v p.2)) (s, o)).1 = s.run vs := by
    intro s o
    induction vs generalizing s o with
    | nil => rfl
    | cons w vs ih => exact ih ..
  simp only [origin, List.foldl_append, List.foldl_cons, List.foldl_nil, hrun]

/-- The observer's mark says whether a start of the run has brought a context. -/
theorem joined_run {s₀ : Session} (h : s₀.observer.joined = false) (vs : List Visit) :
    (s₀.run vs).observer.joined = vs.any (·.joins) := by
  induction vs using List.reverseRecOn with
  | nil => exact h
  | append_singleton vs v ih =>
    rw [run_concat, joined_next, ih, List.any_append]
    simp

section

variable {s : Session} {v : Visit} {o : Option Origin}

theorem originNext_of_ne (hstart : v.call ≠ .event .start) (hleaves : ¬ v.call.Leaves .request) :
    s.originNext v o = o := by
  unfold originNext
  split
  · next hcall => exact absurd hcall hstart
  · next hcall => exact absurd (.inl (by rw [hcall]; rfl)) hleaves
  · next hcall => exact absurd (.inr hcall) hleaves
  · rfl

theorem originNext_of_leaves (hleaves : v.call.Leaves .request) : s.originNext v o = none := by
  unfold originNext
  rcases hleaves with hleft | hclose
  · split
    · next hcall => simp [hcall, Call.left?] at hleft
    · rfl
    · rfl
    · next hfinish _ =>
      revert hleft
      unfold Call.left?
      split <;> simp_all
  · rw [hclose]

/-- What a visit does to the slot of the request, and to who brought its
context. -/
theorem request_next (s : Session) (v : Visit) (o : Option Origin) :
    (s.originNext v o = o ∧ (s.next v).tree.get? .request = s.tree.get? .request) ∨
      (s.originNext v o = some .own ∧ Opens s v .request requestName .empty [] ∧
        (s.next v).tree.get? .request =
          some (Context.empty.withSpan (s.started requestName .empty []).1) ∧
        (s.next v).journal = (s.started requestName .empty []).2) ∨
      (s.originNext v o = some .outer ∧ v.joins = true ∧ v.outer.isSome = true ∧
        (s.next v).tree.get? .request = v.outer) ∨
      (s.originNext v o = none ∧ (s.next v).tree.get? .request = none) := by
  by_cases hleaves : v.call.Leaves .request
  · exact .inr (.inr (.inr ⟨originNext_of_leaves hleaves, get?_next_of_leaves hleaves⟩))
  by_cases hcall : v.call = .event .start
  · by_cases hlive : (s.tree.isLive .request && s.tree.strict) = true
    · obtain ⟨hlive', hstrict⟩ := Bool.and_eq_true_iff.1 hlive
      refine .inl ⟨?_, get?_next_of_strict hleaves hlive' hstrict⟩
      simp only [originNext, hcall, hlive, if_true]
    have haccepted : (s.tree.isLive .request && s.tree.strict) = false := by simpa using hlive
    cases houter : v.outer with
    | some c =>
      refine .inr (.inr (.inl ⟨?_, ?_, rfl, get?_next_of_joins hcall houter haccepted⟩))
      · simp only [originNext, hcall, haccepted, houter]
        rfl
      · simp only [Visit.joins, hcall, houter, Option.isSome_some]
    | none =>
      have hopens : Opens s v .request requestName .empty [] := .request hcall houter
      by_cases hstart : s.observer.tracer.refuses .start requestName = true
      · refine .inl ⟨?_, get?_next_of_idle hleaves ?_ fun _ => hopens.joins⟩
        · simp only [originNext, hcall, haccepted, houter, hstart]
          rfl
        · intro name parent attributes hopens'
          obtain ⟨-, rfl, -, -⟩ := hopens.unique hopens'
          exact hstart
      · rcases next_of_opens hopens (by simpa using hstart) with
          ⟨-, hobserver, hjournal, -⟩ | ⟨h, -⟩
        · refine .inr (.inl ⟨?_, hopens, ?_, hjournal⟩)
          · simp only [originNext, hcall, haccepted, houter, hstart]
            rfl
          · rw [tree, hobserver, SlotTree.get?, SlotTree.put, Assoc.get?_put,
              if_pos (beq_self_eq_true _)]
        · exact absurd h hlive
  · refine .inl ⟨originNext_of_ne hcall hleaves, get?_next_of_idle hleaves ?_ ?_⟩
    · intro name parent attributes hopens
      cases hopens
      next hstart _ => exact absurd hstart hcall
    · exact fun _ => Visit.joins_of_ne hcall

end

/-! ## The invariant -/

/-- A slot is for a span of the session: it is not the slot of the request, or
the session has brought the context there. -/
def Native (o : Option Origin) (k : Slot) : Prop := k = .request → o = some .own

section

variable {s : Session} {v : Visit} {o : Option Origin} {k : Slot} {c : Context}

/-- The slots that are for spans of the session after a visit were so before, or
hold the span that the visit starts. -/
theorem native_next (hget : (s.next v).tree.get? k = some c)
    (hnative : Native (s.originNext v o) k) :
    s.tree.get? k = some c ∧ Native o k ∨
      ∃ name parent attributes, Opens s v k name parent attributes ∧
        c = parent.withSpan (s.started name parent attributes).1 ∧
        (s.next v).journal = (s.started name parent attributes).2 := by
  by_cases hk : k = .request
  · subst hk
    have hown := hnative rfl
    rcases request_next s v o with ⟨ho, hsame⟩ | ⟨-, hopens, hget', hjournal⟩ | ⟨ho, -⟩ | ⟨ho, -⟩
    · exact .inl ⟨hsame.symm.trans hget, fun _ => ho.symm.trans hown⟩
    · have hc := Option.some.inj (hget.symm.trans hget')
      exact .inr ⟨requestName, .empty, [], hopens, hc, hjournal⟩
    · exact absurd (ho.symm.trans hown) (by decide)
    · exact absurd (ho.symm.trans hown) (by decide)
  · rcases get?_next hget with hold | hfresh | ⟨hrequest, -⟩
    · exact .inl ⟨hold, fun hrequest => absurd hrequest hk⟩
    · exact .inr hfresh
    · exact absurd hrequest hk

end

/-- The invariant of the slots of a session, for the origin of the context of the
slot of the request.  The spans of the session are the entries from `n` on. -/
structure Attributed (n : Nat) (o : Option Origin) (s : Session) : Prop where
  nodup : s.tree.keys.Nodup
  base : n ≤ s.journal.spans.length
  mark : o = some .outer → s.observer.joined = true
  live : o.isSome = (s.tree.get? .request).isSome
  own : ∀ k c, s.tree.get? k = some c → Native o k →
    ∃ i, c.current.entry = some i ∧ n ≤ i ∧
      ∃ span, s.journal.spans[i]? = some span ∧ span.tracer = s.observer.tracer ∧
        span.ended = false
  one : ∀ k k' c c', s.tree.get? k = some c → s.tree.get? k' = some c' → Native o k →
    Native o k' → c.current.entry = c'.current.entry → k = k'

namespace Attributed

variable {n : Nat} {o : Option Origin} {s : Session} {v : Visit} {k : Slot} {c : Context}

/-- A live slot that is owned is for a span of the session. -/
theorem native_of_owns (h : Attributed n o s) (hget : s.tree.get? k = some c)
    (howns : s.observer.owns k = true) : Native o k := by
  rintro rfl
  have hlive : o.isSome = true := by
    rw [h.live, hget]
    rfl
  have hjoined : s.observer.joined = false := by simpa [Observer.owns] using howns
  cases o with
  | none => exact absurd hlive (by decide)
  | some origin =>
    cases origin with
    | own => rfl
    | outer => exact absurd (hjoined.symm.trans (h.mark rfl)) (by decide)

/-- A visit keeps the span of a slot that stays live. -/
theorem keeps_of_live {i : Nat} (h : Attributed n o s) (hget : s.tree.get? k = some c)
    (hnative : Native o k) (hentry : c.current.entry = some i)
    (hlive : (s.next v).tree.get? k ≠ none) : s.journal.Keeps (s.next v).journal i := by
  obtain ⟨i', hentry', -, span, hspan, -⟩ := h.own k c hget hnative
  obtain rfl := Option.some.inj (hentry.symm.trans hentry')
  refine keeps_next h.nodup (not_starts_of_lt (List.getElem?_eq_some_iff.1 hspan).1) ?_
  intro k' c' hleaves hget' howns hentry'
  have hk := h.one k' k c' c hget' hget (h.native_of_owns hget' howns) hnative
    (hentry'.trans hentry.symm)
  exact hlive (hk ▸ get?_next_of_leaves hleaves)

/-- A visit keeps the invariant. -/
theorem next (h : Attributed n o s) (v : Visit) :
    Attributed n (s.originNext v o) (s.next v) := by
  refine ⟨nodup_next h.nodup v, ?_, ?_, ?_, ?_, ?_⟩
  · have := h.base
    rcases length_next s v with hlength | ⟨hlength, -⟩ <;> omega
  · intro houter
    rw [joined_next, Bool.or_eq_true]
    rcases request_next s v o with ⟨ho, -⟩ | ⟨ho, -⟩ | ⟨-, hjoins, -⟩ | ⟨ho, -⟩
    · exact .inl (h.mark (ho.symm.trans houter))
    · exact absurd (ho.symm.trans houter) (by decide)
    · exact .inr hjoins
    · exact absurd (ho.symm.trans houter) (by decide)
  · rcases request_next s v o with ⟨ho, hget⟩ | ⟨ho, -, hget, -⟩ | ⟨ho, -, houter, hget⟩ |
      ⟨ho, hget⟩
    · rw [ho, hget, h.live]
    · rw [ho, hget]
      rfl
    · rw [ho, hget, houter]
      rfl
    · rw [ho, hget]
      rfl
  · intro k c hget hnative
    rw [tracer_next]
    rcases native_next hget hnative with ⟨hold, hnative⟩ |
      ⟨name, parent, attributes, -, rfl, hjournal⟩
    · obtain ⟨i, hentry, hi, span, hspan, htracer, hopen⟩ := h.own k c hold hnative
      have hkeeps := h.keeps_of_live hold hnative hentry (hget ▸ Option.some_ne_none c)
      obtain ⟨attributes, events, hspan'⟩ := hkeeps.span span hspan
      exact ⟨i, hentry, hi, _, hspan', htracer, hopen⟩
    · refine ⟨s.journal.spans.length, entry_started .., h.base,
        s.journal.newSpan s.observer.tracer name parent .server attributes, ?_, rfl, rfl⟩
      rw [hjournal, getElem?_started]
  · intro k k' c c' hget hget' hnative hnative' heq
    have hold : ∀ k c, s.tree.get? k = some c → Native o k →
        c.current.entry ≠ some s.journal.spans.length := by
      intro k c hget hnative hentry
      obtain ⟨i, hentry', -, span, hspan, -⟩ := h.own k c hget hnative
      obtain rfl := Option.some.inj (hentry.symm.trans hentry')
      exact absurd (List.getElem?_eq_some_iff.1 hspan).1 (Nat.lt_irrefl _)
    rcases native_next hget hnative with ⟨hget, hnative⟩ |
        ⟨name, parent, attributes, hopens, rfl, -⟩ <;>
      rcases native_next hget' hnative' with ⟨hget', hnative'⟩ |
        ⟨name', parent', attributes', hopens', rfl, -⟩
    · exact h.one k k' c c' hget hget' hnative hnative' heq
    · exact absurd heq (hold k c hget hnative)
    · exact absurd heq.symm (hold k' c' hget' hnative')
    · exact (hopens'.unique hopens).1

end Attributed

/-- The invariant holds at every point of a run. -/
theorem attributed_run {s₀ : Session} (h : s₀.tree.slots = []) (vs : List Visit) :
    Attributed s₀.journal.spans.length (origin s₀ vs) (s₀.run vs) := by
  have hget : ∀ k, s₀.tree.get? k = none := by
    intro k
    rw [SlotTree.get?, h]
    rfl
  induction vs using List.reverseRecOn with
  | nil =>
    refine ⟨?_, Nat.le_refl _, fun ho => absurd ho (by simp), ?_, ?_, ?_⟩
    · rw [run_nil, SlotTree.keys, h]
      exact List.nodup_nil
    · rw [run_nil, hget]
      rfl
    · exact fun k c hk => absurd ((hget k).symm.trans hk) (by simp)
    · exact fun k _ c _ hk => absurd ((hget k).symm.trans hk) (by simp)
  | append_singleton vs v ih =>
    rw [run_concat, origin_concat]
    exact ih.next v

/-- A context of outer origin was brought by a start of the run. -/
theorem brought_run {s₀ : Session} {c : Context} (vs : List Visit)
    (ho : origin s₀ vs = some .outer) (hget : (s₀.run vs).tree.get? .request = some c) :
    ∃ w ∈ vs, w.call = .event .start ∧ w.outer = some c := by
  induction vs using List.reverseRecOn with
  | nil => exact absurd ho (by simp)
  | append_singleton vs v ih =>
    rw [origin_concat] at ho
    rw [run_concat] at hget
    rcases request_next (s₀.run vs) v (origin s₀ vs) with ⟨ho', hget'⟩ | ⟨ho', -⟩ |
      ⟨-, hjoins, -, hget'⟩ | ⟨ho', -⟩
    · obtain ⟨w, hw, hcall, houter⟩ := ih (ho'.symm.trans ho) (hget'.symm.trans hget)
      exact ⟨w, List.mem_append_left _ hw, hcall, houter⟩
    · exact absurd (ho'.symm.trans ho) (by decide)
    · refine ⟨v, by simp, ?_, hget'.symm.trans hget⟩
      exact Classical.byContradiction fun hcall =>
        absurd (hjoins.symm.trans (Visit.joins_of_ne hcall)) (by decide)
    · exact absurd (ho'.symm.trans ho) (by decide)

/-! ## Leaving the slot -/

/-- The session without the context of a slot. -/
def without (s : Session) (k : Slot) : Session :=
  { s with observer := { s.observer with tree := (s.tree.exit k).2 } }

section

variable {s : Session} {v : Visit}

theorem journal_finish (hcall : v.call = .event .finish)
    (howns : s.observer.owns .request = false) : (s.next v).journal = s.journal := by
  have hleft : v.call.left? = some .request := by rw [hcall]; rfl
  show (s.answer v).backend.journal = _
  cases move_answer s v with
  | rest _ _ _ _ hjournal => exact hjournal
  | opened hopens | rejected hopens => exact absurd (.inl hleft) hopens.not_leaves
  | joined hcall' | barred hcall' | recorded hcall' | closed hcall' => simp [hcall] at hcall'
  | left hleft' _ _ hjournal =>
    obtain rfl := Option.some.inj (hleft.symm.trans hleft')
    rw [hjournal, howns]
    simp only [Journal.annotated, hcall]
    rfl

/-- Closing does nothing about a slot that is not owned. -/
theorem abandonAll_filter {observer : Observer} {k : Slot} (howns : observer.owns k = false)
    (current : Nat) (j : Journal) (left : List (Slot × Context)) :
    observer.abandonAll current j (left.filter (!·.1 == k)) =
      observer.abandonAll current j left := by
  induction left generalizing j with
  | nil => rfl
  | cons e left ih =>
    by_cases hk : e.1 = k
    · rw [List.filter_cons_of_neg (by simp [hk]), ih]
      conv => rhs; rw [Observer.abandonAll, List.foldl_cons, if_neg (by simp [hk, howns])]
      rfl
    · rw [List.filter_cons_of_pos (by simp [hk])]
      exact ih _

/-- Leaving the slot of the request while it is not owned does to the journal
what it does when the slot is not live. -/
theorem journal_next_without (hcall : v.call = .event .finish ∨ v.call = .close)
    (howns : s.observer.owns .request = false) :
    (s.next v).journal = ((s.without .request).next v).journal := by
  rcases hcall with hcall | hcall
  · rw [journal_finish hcall howns, journal_finish (s := s.without .request) hcall howns]
    rfl
  · show (s.answer v).backend.journal = ((s.without .request).answer v).backend.journal
    rw [(answer_close s hcall).2.1, (answer_close (s.without .request) hcall).2.1]
    show _ = s.observer.abandonAll _ _ (s.tree.slots.filter (!·.1 == .request)).reverse
    rw [← List.filter_reverse, abandonAll_filter howns]
    rfl

variable {n i : Nat} {c : Context}

/-- Leaving the slot of the request ends a span of the session while no context
was ever brought. -/
theorem Attributed.ended_next (h : Attributed n (some .own) s)
    (hget : s.tree.get? .request = some c) (hentry : c.current.entry = some i)
    (hcall : v.call = .event .finish ∨ v.call = .close) (hjoined : s.observer.joined = false)
    (hstatus : s.observer.tracer.Allows .setStatus)
    (hfinish : s.observer.tracer.Allows .finish) : (s.next v).Ended i := by
  obtain ⟨i', hentry', -, span, hspan, htracer, hopen⟩ := h.own .request c hget fun _ => rfl
  obtain rfl := Option.some.inj (hentry.symm.trans hentry')
  have howns : s.observer.owns .request = true := by simp [Observer.owns, hjoined]
  have hstatus : span.refuses .setStatus = false := by
    rw [Span.refuses, htracer]
    exact hstatus span.name
  have hfinish : span.refuses .finish = false := by
    rw [Span.refuses, htracer]
    exact hfinish span.name
  rcases hcall with hcall | hcall
  · have hends := ends_next (by rw [hcall]; rfl) hget howns hentry hspan hfinish
    obtain ⟨attributes, events, hspan'⟩ := hends.span span hspan
    exact ⟨_, hspan', rfl⟩
  · have hone : ∀ k' c', s.tree.get? k' = some c' → s.observer.owns k' = true →
        c'.current.entry = some i → k' = .request :=
      fun k' c' hget' howns' hentry' => h.one k' .request c' c hget' hget
        (h.native_of_owns hget' howns') (fun _ => rfl) (hentry'.trans hentry.symm)
    have hfails := fails_next h.nodup hcall hget howns hentry hone hspan hstatus hfinish
    obtain ⟨attributes, events, description, hspan'⟩ := hfails.span span hspan hopen
    exact ⟨_, hspan', rfl⟩

/-- Once a context was brought, no visit ends a span of the session that the slot
of the request holds. -/
theorem Attributed.open_next (h : Attributed n (some .own) s)
    (hget : s.tree.get? .request = some c) (hentry : c.current.entry = some i)
    (hjoined : s.observer.joined = true) (v : Visit) : (s.next v).Open i := by
  obtain ⟨i', hentry', -, span, hspan, -, hopen⟩ := h.own .request c hget fun _ => rfl
  obtain rfl := Option.some.inj (hentry.symm.trans hentry')
  have hkeeps : s.journal.Keeps (s.next v).journal i := by
    refine keeps_next h.nodup (not_starts_of_lt (List.getElem?_eq_some_iff.1 hspan).1) ?_
    intro k' c' _ hget' howns hentry'
    obtain rfl := h.one k' .request c' c hget' hget (h.native_of_owns hget' howns)
      (fun _ => rfl) (hentry'.trans hentry.symm)
    simp [Observer.owns, hjoined] at howns
  obtain ⟨attributes, events, hspan'⟩ := hkeeps.span span hspan
  exact ⟨_, hspan', hopen⟩

end

/-- What the slot of the request holds at any point of a run, what the mark of the
observer says about it, and what leaving the slot does.  The mark says that a
context was brought by some start.  A context that was brought is left alone, as
if the slot were not live.  A span of the session is ended exactly if no start
has brought a context. -/
theorem request_slot_left (t : Tracer) (includeSource includeVariables strict : Bool)
    (s₀ : Session) (vs : List Visit) (c : Context)
    (hfresh : s₀.observer = .create t includeSource includeVariables strict)
    (hstatus : t.Allows .setStatus) (hfinish : t.Allows .finish)
    (hlive : (s₀.run vs).tree.get? .request = some c) :
    ((s₀.run vs).observer.joined = true ↔ ∃ w ∈ vs, w.joins = true) ∧
    (((s₀.run vs).observer.joined = true ↔ origin s₀ vs = some .outer) ↔
      origin s₀ vs = some .outer ∨ ∀ w ∈ vs, w.joins = false) ∧
    ∀ v : Visit, v.call = .event .finish ∨ v.call = .close →
      ((s₀.run vs).next v).tree.get? .request = none ∧
      (origin s₀ vs = some .outer ∧ (∃ w ∈ vs, w.call = .event .start ∧ w.outer = some c) ∧
          ((s₀.run vs).next v).journal = (((s₀.run vs).without .request).next v).journal ∨
        origin s₀ vs = some .own ∧ ∃ i, c.current.entry = some i ∧
          s₀.journal.spans.length ≤ i ∧ (s₀.run vs).Open i ∧
          (((s₀.run vs).next v).Ended i ↔ ∀ w ∈ vs, w.joins = false)) := by
  have hslots : s₀.tree.slots = [] := by
    rw [tree, hfresh]
    rfl
  have hunmarked : s₀.observer.joined = false := by
    rw [hfresh]
    rfl
  have hattributed := attributed_run hslots vs
  have hjoined := joined_run hunmarked vs
  have hnone : (s₀.run vs).observer.joined = false ↔ ∀ w ∈ vs, w.joins = false := by
    rw [hjoined, List.any_eq_false]
    simp
  have hsome : (s₀.run vs).observer.joined = true ↔ ∃ w ∈ vs, w.joins = true := by
    rw [hjoined, List.any_eq_true]
  have htracer : (s₀.run vs).observer.tracer = t := by
    rw [tracer_run, hfresh]
    rfl
  refine ⟨hsome, ?_, ?_⟩
  · by_cases houter : origin s₀ vs = some .outer
    · exact iff_of_true (iff_of_true (hattributed.mark houter) houter) (.inl houter)
    · rw [iff_false_right houter, Bool.not_eq_true, hnone]
      exact (or_iff_right houter).symm
  · intro v hcall
    refine ⟨get?_next_of_leaves (hcall.imp (fun h => by rw [h]; rfl) id), ?_⟩
    cases horigin : origin s₀ vs with
    | none =>
      have hdead := hattributed.live
      rw [horigin, hlive] at hdead
      exact absurd hdead (by simp)
    | some o =>
      rw [horigin] at hattributed
      cases o with
      | outer =>
        have howns : (s₀.run vs).observer.owns .request = false := by
          simp [Observer.owns, hattributed.mark rfl]
        exact .inl ⟨rfl, brought_run vs horigin hlive, journal_next_without hcall howns⟩
      | own =>
        obtain ⟨i, hentry, hi, span, hspan, -, hopen⟩ :=
          hattributed.own .request c hlive fun _ => rfl
        refine .inr ⟨rfl, i, hentry, hi, ⟨span, hspan, hopen⟩, ?_⟩
        rw [← hnone]
        constructor
        · intro hended
          refine Bool.eq_false_iff.2 fun hjoined => ?_
          exact not_open_of_ended hended (hattributed.open_next hlive hentry hjoined v)
        · intro hjoined
          exact hattributed.ended_next hlive hentry hcall hjoined (htracer ▸ hstatus)
            (htracer ▸ hfinish)

/-- A request that starts with a span of its own and ends. -/
theorem request_slot_left_after_start :
    let t : Tracer := { provider := "provider", scope := "graphql", refuses := fun _ _ => false }
    let b : Backend := { journal := .empty, current := .empty, notes := [] }
    let s₀ : Session := ⟨.create t false false true, b⟩
    let visit (e : Request.Event) : Visit := { call := .event e, outer := none, current := .empty }
    origin s₀ [visit .start] = some .own ∧ ((s₀.run [visit .start]).next (visit .finish)).Ended 0 := by
  intro t b s₀ visit
  obtain ⟨-, -, hleft⟩ := request_slot_left t false false true s₀ [visit .start] _ rfl
    (fun _ => rfl) (fun _ => rfl) rfl
  have horigin : origin s₀ [visit .start] = some .own := rfl
  rcases (hleft (visit .finish) (.inl rfl)).2 with ⟨houter, -⟩ | ⟨-, i, hentry, -, -, hended⟩
  · exact absurd (horigin.symm.trans houter) (by decide)
  · obtain rfl : 0 = i := Option.some.inj hentry
    exact ⟨horigin, hended.2 (by simp [visit, Visit.joins])⟩

/-- A strict session whose request starts twice, the second time with a context
that comes too late.  The slot still holds the session's own span, but the mark
says otherwise, and the end leaves the span open. -/
theorem own_span_left_open :
    let t : Tracer := { provider := "provider", scope := "graphql", refuses := fun _ _ => false }
    let b : Backend := { journal := .empty, current := .empty, notes := [] }
    let s₀ : Session := ⟨.create t false false true, b⟩
    let visit (e : Request.Event) (outer : Option Context) : Visit :=
      { call := .event e, outer, current := .empty }
    let s := s₀.run [visit .start none, visit .start (some .empty)]
    (∃ c, s.tree.get? .request = some c ∧ c.current.entry = some 0) ∧
      s.observer.joined = true ∧
      (s.next (visit .finish none)).tree.get? .request = none ∧
      (s.next (visit .finish none)).Open 0 := by
  intro t b s₀ visit s
  exact ⟨⟨_, rfl, rfl⟩, rfl, rfl, ⟨_, rfl, rfl⟩⟩

end QueryTelemetry.Trace.Session
