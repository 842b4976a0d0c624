import QueryTelemetry.Proofs.Tracing.Ownership
import QueryTelemetry.Proofs.Tracing.Rejection

/-!
# The order in which a close ends spans

A close drains the slots, the last one first, and ends the spans that it finds
there.  Exporters should see the spans of a branch before the span that the branch
hangs from.  `Under` is the relation between a span and the one above it, taken
from the visit that starts the lower span.  `parentage_run` says that the spans
name their parents by it.

A strict session never gives a live slot another context.  So a slot that becomes
live is the last one, and the entries of the session's own spans rise along the
slots.  This is the invariant `Ranked`.  A span is started after the one above it,
so entries also rise from a span to those that descend from it, and the order of
the slots, read backwards, has every span behind its descendants.

`close_ends_descendants_first` puts it together.
-/

namespace QueryTelemetry.Trace

/-! ## Ends that are asked for in turn -/

/-- Neither an error status nor its end is refused on a span. -/
def Span.canFail (s : Span) : Bool := !s.refuses .setStatus && !s.refuses .finish

namespace Journal

/-- The entries whose ends were asked for, in that order. -/
def endings (j : Journal) : List Nat :=
  j.acts.filterMap fun a => if a.operation = .finish then a.span.entry else none

/-- The entries of the recorded spans that have ended, in the order of their ends. -/
def exports (j : Journal) : List Nat := j.finishes.map (·.entry)

/-- Whether the span of an entry is recorded. -/
def isSampled (j : Journal) (i : Nat) : Bool := (j.spans[i]?).any (·.identity.isSampled)

/-- Open spans were ended one after the other. -/
structure EndsInTurn (j j' : Journal) (ends : List Nat) : Prop where
  endings : j'.endings = j.endings ++ ends
  exports : j'.exports = j.exports ++ ends.filter j.isSampled

namespace EndsInTurn

variable {j j' j'' : Journal} {ends ends' : List Nat}

theorem nil (j : Journal) : j.EndsInTurn j [] :=
  ⟨(List.append_nil _).symm, (List.append_nil _).symm⟩

theorem trans (h : j.EndsInTurn j' ends) (h' : j'.EndsInTurn j'' ends')
    (hsampled : ∀ i ∈ ends', j'.isSampled i = j.isSampled i) :
    j.EndsInTurn j'' (ends ++ ends') := by
  refine ⟨?_, ?_⟩
  · rw [h'.endings, h.endings, List.append_assoc]
  · rw [h'.exports, h.exports, List.filter_append, List.append_assoc,
      List.filter_congr hsampled]

end EndsInTurn

section

variable {j : Journal} {r : SpanRef} {i : Nat} {span : Span}

theorem isSampled_of_getElem? (hspan : j.spans[i]? = some span) :
    j.isSampled i = span.identity.isSampled := by
  rw [isSampled, hspan]
  rfl

/-- Ending an open span as a failure ends it unless its status or its end is refused. -/
theorem endsInTurn_failed (hentry : r.entry = some i) (hspan : j.spans[i]? = some span)
    (hopen : span.ended = false) (description : String) (current : Nat) :
    j.EndsInTurn (j.failed r description current) (if span.canFail then [i] else []) := by
  by_cases hstatus : span.refuses .setStatus = true
  · have hfailed : j.failed r description current = j := by
      simp only [failed, setError, record, find?_of_entry hentry hspan, hstatus, if_true]
    rw [hfailed, Span.canFail, hstatus]
    exact .nil j
  have hstatus : span.refuses .setStatus = false := by simpa using hstatus
  obtain ⟨marked, hok, hspan', -, -⟩ := exists_setError hentry hspan hstatus description
  have hacts := acts_setError hentry hspan hok
  have hfinishes : marked.finishes = j.finishes := (length_spans_record hok).2
  by_cases hfinish : span.refuses .finish = true
  · have hfailed : j.failed r description current = marked := by
      have hrefused : ∀ status, Span.refuses { span with status } .finish = true :=
        fun _ => hfinish
      simp only [failed, hok, finish, find?_of_entry hentry hspan', hrefused, if_true, settled]
    rw [hfailed, Span.canFail, hfinish, Bool.not_true, Bool.and_false]
    refine ⟨?_, ?_⟩
    · rw [endings, hacts, List.filterMap_append]
      rfl
    · rw [exports, hfinishes]
      exact (List.append_nil _).symm
  have hfinish : span.refuses .finish = false := by simpa using hfinish
  rw [Span.canFail, hstatus, hfinish]
  refine ⟨?_, ?_⟩
  · rw [endings, acts_failed hentry hspan hstatus hfinish, List.filterMap_append]
    simp [endings, hentry]
  · have hended := finish_of_found current (find?_of_entry hentry hspan') hfinish
    simp only [failed, hok, hended, settled, exports, closed, hopen, Bool.false_eq_true, if_false]
    show List.map _ (if span.identity.isSampled then _ else marked.finishes) = _
    rw [hfinishes, Bool.not_false, Bool.and_self, if_pos rfl]
    cases hsampled : span.identity.isSampled <;>
      simp [isSampled_of_getElem? hspan, hsampled, noted, hfinishes]

end

end Journal

namespace Observer

/-- The entry whose span a close ends when it leaves a slot. -/
def ending? (o : Observer) (j : Journal) (e : Slot × Context) : Option Nat :=
  if o.owns e.1 then
    (j.find? e.2.current).bind fun found => if found.2.canFail then some found.1 else none
  else none

theorem ending?_eq_some {o : Observer} {j : Journal} {e : Slot × Context} {i : Nat} :
    o.ending? j e = some i ↔ o.owns e.1 = true ∧ e.2.current.entry = some i ∧
      ∃ span, j.spans[i]? = some span ∧ span.canFail = true := by
  by_cases howns : o.owns e.1 = true
  · rw [ending?, if_pos howns, and_iff_right howns, Option.bind_eq_some_iff]
    constructor
    · rintro ⟨⟨i', span⟩, hfound, hfails⟩
      obtain ⟨hentry, hspan⟩ := Journal.find?_eq_some hfound
      obtain ⟨hcan, hi⟩ := Option.ite_none_right_eq_some.1 hfails
      obtain rfl : i' = i := Option.some.inj hi
      exact ⟨hentry, span, hspan, hcan⟩
    · rintro ⟨hentry, span, hspan, hcan⟩
      exact ⟨(i, span), Journal.find?_of_entry hentry hspan, if_pos hcan⟩
  · rw [ending?, if_neg howns]
    simp [howns]

theorem ending?_congr {o : Observer} {j j₁ : Journal} {e : Slot × Context}
    (h : o.owns e.1 = true → ∀ i, e.2.current.entry = some i → j₁.spans[i]? = j.spans[i]?) :
    o.ending? j₁ e = o.ending? j e := by
  by_cases howns : o.owns e.1 = true
  · rw [ending?, ending?, if_pos howns, if_pos howns]
    cases hentry : e.2.current.entry with
    | none => simp only [Journal.find?, hentry, Option.bind_none]
    | some i => simp only [Journal.find?, hentry, Option.bind_some, h howns i hentry]
  · rw [ending?, ending?, if_neg howns, if_neg howns]

/-- A close ends the open spans of the owned slots in the order in which it leaves the
slots. -/
theorem endsInTurn_abandonAll {o : Observer} {j : Journal} {left : List (Slot × Context)}
    (hopen : ∀ e ∈ left, o.owns e.1 = true → ∃ i span, e.2.current.entry = some i ∧
      j.spans[i]? = some span ∧ span.ended = false)
    (hapart : left.Pairwise fun e e' => o.owns e.1 = true → o.owns e'.1 = true →
      e.2.current.entry ≠ e'.2.current.entry) (current : Nat) :
    j.EndsInTurn (o.abandonAll current j left) (left.filterMap (o.ending? j)) := by
  induction left generalizing j with
  | nil => exact .nil j
  | cons e left ih =>
    obtain ⟨hhead, htail⟩ := List.pairwise_cons.1 hapart
    have hrest := fun e' he' => hopen e' (List.mem_cons_of_mem _ he')
    rw [abandonAll, List.foldl_cons]
    by_cases howns : o.owns e.1 = true
    · obtain ⟨i, span, hentry, hspan, hended⟩ := hopen e (List.mem_cons_self ..) howns
      have hending : o.ending? j e = if span.canFail then some i else none := by
        rw [ending?, if_pos howns, Journal.find?_of_entry hentry hspan]
        rfl
      have hsplit : (e :: left).filterMap (o.ending? j) =
          (if span.canFail then [i] else []) ++ left.filterMap (o.ending? j) := by
        rw [List.filterMap_cons, hending]
        cases span.canFail <;> rfl
      have hfirst := Journal.endsInTurn_failed hentry hspan hended
        "request scope left before span ended" current
      -- The spans of the other slots are as they were when the first one has been ended.
      have hsame : ∀ e' ∈ left, o.owns e'.1 = true → ∀ i', e'.2.current.entry = some i' →
          (j.failed e.2.current "request scope left before span ended" current).spans[i']? =
            j.spans[i']? := by
        intro e' he' howns' i' hentry'
        refine (Journal.same_failed_of_ne j (fun heq => ?_) ..).span
        exact hhead e' he' howns howns' (heq.trans hentry'.symm)
      rw [if_pos howns, hsplit]
      generalize j.failed e.2.current "request scope left before span ended" current = j₁
        at hfirst hsame ⊢
      have hopen' : ∀ e' ∈ left, o.owns e'.1 = true → ∃ i' span',
          e'.2.current.entry = some i' ∧ j₁.spans[i']? = some span' ∧ span'.ended = false := by
        intro e' he' howns'
        obtain ⟨i', span', hentry', hspan', hended'⟩ := hrest e' he' howns'
        exact ⟨i', span', hentry', (hsame e' he' howns' i' hentry').trans hspan', hended'⟩
      have hending' : ∀ e' ∈ left, o.ending? j₁ e' = o.ending? j e' :=
        fun e' he' => ending?_congr (hsame e' he')
      refine hfirst.trans (List.filterMap_congr hending' ▸ ih hopen' htail) fun i' hi' => ?_
      obtain ⟨e', he', hending₁⟩ := List.mem_filterMap.1 hi'
      obtain ⟨howns', hentry', -⟩ := ending?_eq_some.1 hending₁
      rw [Journal.isSampled, Journal.isSampled, hsame e' he' howns' i' hentry']
    · rw [if_neg howns, List.filterMap_cons_none (by rw [ending?, if_neg howns])]
      exact ih hrest htail

end Observer

/-! ## Spans and the spans above them -/

/-- The span above a new one is in a slot, or the new one is a root. -/
theorem Opens.parent {s : Session} {v : Visit} {k : Slot} {name : String} {parent : Context}
    {attributes : Fields} (h : Opens s v k name parent attributes) :
    parent = .empty ∨ ∃ k', s.tree.get? k' = some parent := by
  cases h with
  | request => exact .inl rfl
  | parse _ hparent | validation _ hparent | field _ hparent => exact .inr ⟨_, hparent⟩
  | execution =>
    cases hget : s.tree.get? .request with
    | none => exact .inl rfl
    | some c => exact .inr ⟨_, hget⟩

namespace Session

/-- A visit starts the span of one entry below that of another. -/
def StartsUnder (i j : Nat) (s : Session) (v : Visit) : Prop :=
  Starts j s v ∧ ∃ k name parent attributes,
    Opens s v k name parent attributes ∧ parent.current.entry = some i

/-- The span of one entry is directly above that of another, which a run has started. -/
def Under (s₀ : Session) (vs : List Visit) (i j : Nat) : Prop := Occurs s₀ vs (StartsUnder i j)

/-- The span of an entry descends in a run from that of another. -/
def Descends (s₀ : Session) (vs : List Visit) (j i : Nat) : Prop :=
  Relation.TransGen (Under s₀ vs) i j

/-- What the span of an entry, which the session has started, says about its parent: it
is one that the session has started too, which is above it, or it is not of the session
or missing. -/
inductive Parentage (s₀ : Session) (vs : List Visit) (outer : Option Context) (j : Nat)
    (span : Span) : Prop where
  | under {i : Nat} {above : Identity} (hi : s₀.journal.spans.length ≤ i)
      (hunder : Under s₀ vs i j) (habove : (s₀.run vs).journal.identity? i = some above)
      (hparent : span.parent = some above)
  | apart (hnone : ∀ i, s₀.journal.spans.length ≤ i → ¬ Under s₀ vs i j)
      (hparent : span.parent = none ∨ ∃ c, outer = some c ∧ span.parent = some c.identity)

/-! ## The invariant -/

/-- The entries of two slots rise, as far as they are of spans of the session. -/
def Rises (n : Nat) (e e' : Slot × Context) : Prop :=
  ∀ i i', e.2.current.entry = some i → e'.2.current.entry = some i' → n ≤ i → n ≤ i' → i < i'

/-- The invariant of the slots of a strict session whose requests bring the same outer
context all the time.  The spans of the session are the entries from `n` on. -/
structure Ranked (n : Nat) (outer : Option Context) (s : Session) : Prop where
  mark : s.observer.joined = true → outer ≠ none
  slot : ∀ k c, s.tree.get? k = some c → k = .request ∧ outer = some c ∨
    (k = .request → outer = none) ∧
      ∃ i, n ≤ i ∧ s.journal.Carries c i ∧ c.identity.isValid = true
  rising : s.tree.slots.Pairwise (Rises n)

/-- A strict session that has not been visited yet.  The outer context is none of the spans
to come. -/
structure Pristine (outer : Option Context) (s : Session) : Prop where
  slots : s.tree.slots = []
  joined : s.observer.joined = false
  strict : s.tree.strict = true
  foreign : Foreign s.journal.spans.length outer

section

variable {n i : Nat} {outer : Option Context} {o : Option Origin} {s : Session} {v : Visit}
  {k : Slot} {c : Context}

/-- A visit keeps what was said of every span at its start. -/
theorem Attributed.retains_next (h : Attributed n o s) (v : Visit) :
    s.journal.Retains (s.next v).journal := by
  refine (writes_next (P := fun _ => True) (fun e he howns => ?_) trivial v).retains
  have hget := Assoc.get?_of_mem h.nodup he
  obtain ⟨i, hentry, -⟩ := h.own e.1 e.2 hget (h.native_of_owns hget howns)
  exact ⟨i, hentry, trivial⟩

namespace Ranked

/-- A slot with a span of the session is owned, and carries the span. -/
theorem own (h : Ranked n outer s) (hforeign : Foreign n outer)
    (hget : s.tree.get? k = some c) (hentry : c.current.entry = some i) (hi : n ≤ i) :
    s.observer.owns k = true ∧ s.journal.Carries c i ∧ c.identity.isValid = true := by
  rcases h.slot k c hget with ⟨-, houter⟩ | ⟨hrequest, i', -, hcarries, hvalid⟩
  · exact absurd (hforeign c i houter hentry) (Nat.not_lt.2 hi)
  · obtain rfl := Option.some.inj (hcarries.1.symm.trans hentry)
    refine ⟨?_, hcarries, hvalid⟩
    by_cases hk : k = .request
    · have hjoined : s.observer.joined = false :=
        Bool.eq_false_iff.2 fun hjoined => h.mark hjoined (hrequest hk)
      rw [Observer.owns, hjoined, Bool.and_false, Bool.not_false]
    · exact Observer.owns_of_ne hk

/-- The span of a live slot has been started. -/
theorem lt_length (h : Ranked n outer s) (hforeign : Foreign n outer)
    (hbase : n ≤ s.journal.spans.length) (hget : s.tree.get? k = some c)
    (hentry : c.current.entry = some i) : i < s.journal.spans.length := by
  rcases Nat.lt_or_ge i n with hlt | hi
  · omega
  · obtain ⟨-, ⟨-, hidentity⟩, -⟩ := h.own hforeign hget hentry hi
    obtain ⟨span, hspan, -⟩ := Option.map_eq_some_iff.1 hidentity
    exact (List.getElem?_eq_some_iff.1 hspan).1

/-- The slot that a context takes in a strict session comes after the others. -/
theorem rising_put (h : s.tree.slots.Pairwise (Rises n)) (hnodup : s.tree.keys.Nodup)
    (hdead : s.tree.isLive k = false)
    (hlast : ∀ k' c', s.tree.get? k' = some c' → Rises n (k', c') (k, c)) :
    (s.tree.put k c).slots.Pairwise (Rises n) := by
  rw [SlotTree.put, Assoc.put_of_has_eq_false c hdead]
  refine List.pairwise_append.2 ⟨h, List.pairwise_singleton .., fun e he e' he' => ?_⟩
  obtain rfl := List.mem_singleton.1 he'
  exact hlast e.1 e.2 (Assoc.get?_of_mem hnodup he)

theorem rising_next (h : Ranked n outer s) (hattributed : Attributed n o s)
    (hforeign : Foreign n outer) (houter : v.outer = outer) (hstrict : s.tree.strict = true) :
    (s.next v).tree.slots.Pairwise (Rises n) := by
  show (s.answer v).observer.tree.slots.Pairwise (Rises n)
  cases move_answer s v with
  | rest _ _ _ hobserver | rejected _ _ _ _ hobserver | barred _ _ _ _ hobserver
  | recorded _ _ _ hobserver =>
    rw [hobserver]
    exact h.rising
  | @opened k name parent attributes _ _ haccepted hobserver =>
    rw [hobserver]
    refine rising_put h.rising hattributed.nodup (by simpa [hstrict] using haccepted) ?_
    intro k' c' hget i i' hentry hentry' _ _
    obtain rfl := Option.some.inj ((entry_started ..).symm.trans hentry')
    exact h.lt_length hforeign hattributed.base hget hentry
  | @joined c _ hcontext haccepted hobserver =>
    rw [hobserver]
    refine rising_put h.rising hattributed.nodup (by simpa [hstrict] using haccepted) ?_
    intro k' c' _ i i' _ hentry' _ hi'
    exact absurd (hforeign c i' (houter.symm.trans hcontext) hentry') (Nat.not_lt.2 hi')
  | left _ _ hobserver =>
    rw [hobserver]
    exact h.rising.filter _
  | closed _ hobserver =>
    rw [hobserver]
    exact List.Pairwise.nil

/-- A visit keeps the invariant. -/
theorem next (h : Ranked n outer s) (hattributed : Attributed n o s)
    (hforeign : Foreign n outer) (houter : v.outer = outer) (hstrict : s.tree.strict = true) :
    Ranked n outer (s.next v) := by
  refine ⟨?_, ?_, h.rising_next hattributed hforeign houter hstrict⟩
  · rw [joined_next, Bool.or_eq_true]
    rintro (hjoined | hjoins)
    · exact h.mark hjoined
    · exact houter ▸ v.outer_ne_none_of_joins hjoins
  · intro k c hget
    rcases get?_next hget with hold | ⟨name, parent, attributes, hopens, rfl, hjournal⟩ |
      ⟨rfl, -, hcontext, -⟩
    · rcases h.slot k c hold with hcontext | ⟨hrequest, i, hi, ⟨hentry, hidentity⟩, hvalid⟩
      · exact .inl hcontext
      · have hretains := hattributed.retains_next v
        exact .inr ⟨hrequest, i, hi, ⟨hentry, hretains.identity? hidentity⟩, hvalid⟩
    · refine .inr ⟨?_, s.journal.spans.length, hattributed.base, ?_, ?_⟩
      · rintro rfl
        cases hopens with
        | request _ hnone => exact houter ▸ hnone
      · rw [hjournal]
        exact s.journal.carries_opened ..
      · exact s.journal.isValid_nextIdentity ..
    · exact .inl ⟨rfl, houter.symm.trans hcontext⟩

end Ranked

end

/-! ## Runs -/

section

variable {outer : Option Context} {s₀ : Session} {vs : List Visit} {i j : Nat}

namespace Pristine

/-- The invariant holds at every point of a run. -/
theorem ranked_run (h : Pristine outer s₀) (houter : ∀ w ∈ vs, w.outer = outer) :
    Ranked s₀.journal.spans.length outer (s₀.run vs) := by
  induction vs using List.reverseRecOn with
  | nil =>
    refine ⟨fun hjoined => ?_, fun k c hget => ?_, ?_⟩
    · exact absurd (h.joined.symm.trans hjoined) (by decide)
    · simp [SlotTree.get?, h.slots, Assoc.get?] at hget
    · rw [run_nil, h.slots]
      exact List.Pairwise.nil
  | append_singleton vs v ih =>
    rw [run_concat]
    exact (ih fun w hw => houter w (List.mem_append_left _ hw)).next (attributed_run h.slots vs)
      h.foreign (houter v (by simp)) ((strict_run s₀ vs).trans h.strict)

/-- A span is started after the one above it. -/
theorem lt_of_under (h : Pristine outer s₀) (houter : ∀ w ∈ vs, w.outer = outer)
    (hunder : Under s₀ vs i j) : i < j := by
  obtain ⟨before, v, after, rfl, hstarts, k, name, parent, attributes, hopens, hentry⟩ := hunder
  have hranked : Ranked s₀.journal.spans.length outer (s₀.run before) :=
    h.ranked_run fun w hw => houter w (List.mem_append_left _ hw)
  refine Nat.lt_of_lt_of_le ?_ hstarts.1
  rcases hopens.parent with rfl | ⟨k', hget⟩
  · exact absurd hentry (by simp [Context.current_empty, SpanRef.absent])
  · exact hranked.lt_length h.foreign (length_le_run s₀ before) hget hentry

theorem lt_of_descends (h : Pristine outer s₀) (houter : ∀ w ∈ vs, w.outer = outer)
    (hdescends : Descends s₀ vs j i) : i < j := by
  induction hdescends with
  | single hunder => exact h.lt_of_under houter hunder
  | tail _ hunder ih => exact Nat.lt_trans ih (h.lt_of_under houter hunder)

/-- What a new span says about its parent. -/
theorem parentage_of_starts {v : Visit} {span : Span} (h : Pristine outer s₀)
    (houter : ∀ w ∈ vs, w.outer = outer) (hstarts : Starts j (s₀.run vs) v)
    (hspan : ((s₀.run vs).next v).journal.spans[j]? = some span) :
    Parentage s₀ (vs ++ [v]) outer j span := by
  obtain ⟨k, name, parent, attributes, hopens, more, events, status, ended, hspan'⟩ :=
    span_of_starts hstarts
  obtain rfl := Option.some.inj (hspan'.symm.trans hspan)
  have hparent : ((s₀.run vs).journal.newSpan (s₀.run vs).observer.tracer name parent .server
      attributes).parent = if parent.identity.isValid then some parent.identity else none := rfl
  have hranked := h.ranked_run houter
  -- This visit is the one that says what is above the span.
  have hunder : ∀ i, Under s₀ (vs ++ [v]) i j ↔ parent.current.entry = some i := by
    intro i
    rw [Under, occurs_concat]
    constructor
    · rintro (hunder | ⟨-, k', name', parent', attributes', hopens', hentry⟩)
      · have hlt := lt_length_of_occurs hunder fun _ _ hunder => hunder.1
        exact absurd hlt (Nat.not_lt.2 hstarts.1)
      · obtain ⟨-, -, rfl, -⟩ := hopens.unique hopens'
        exact hentry
    · exact fun hentry => .inr ⟨hstarts, k, name, parent, attributes, hopens, hentry⟩
  rcases hopens.parent with rfl | ⟨k', hget⟩
  · refine .apart (fun i _ hi => ?_) (.inl hparent)
    exact absurd ((hunder i).1 hi) (by simp [Context.current_empty, SpanRef.absent])
  · rcases hranked.slot k' parent hget with ⟨-, hcontext⟩ |
      ⟨-, i, hi, ⟨hentry, hidentity⟩, hvalid⟩
    · refine .apart (fun i hi hi' => ?_) ?_
      · exact absurd (h.foreign parent i hcontext ((hunder i).1 hi')) (Nat.not_lt.2 hi)
      · by_cases hvalid : parent.identity.isValid = true
        · exact .inr ⟨parent, hcontext, hparent.trans (if_pos hvalid)⟩
        · exact .inl (hparent.trans (if_neg hvalid))
    · refine .under hi ((hunder i).2 hentry) ?_ (hparent.trans (if_pos hvalid))
      rw [run_concat]
      exact ((attributed_run h.slots vs).retains_next v).identity? hidentity

/-- A visit that does not start a span changes nothing about its parent. -/
theorem parentage_of_not_starts {v : Visit} {span span' : Span} (h : Pristine outer s₀)
    (hold : Parentage s₀ vs outer j span) (hstarts : ¬ Starts j (s₀.run vs) v)
    (hparent : span'.parent = span.parent) : Parentage s₀ (vs ++ [v]) outer j span' := by
  cases hold with
  | under hi hunder habove hidentity =>
    refine .under hi ((occurs_concat _).2 (.inl hunder)) ?_ (hparent.trans hidentity)
    rw [run_concat]
    exact ((attributed_run h.slots vs).retains_next v).identity? habove
  | apart hnone habove =>
    refine .apart (fun i hi hunder => ?_) (hparent ▸ habove)
    rcases (occurs_concat _).1 hunder with hunder | hunder
    · exact hnone i hi hunder
    · exact hstarts hunder.1

/-- What the spans of the session say about their parents at any point of a run. -/
theorem parentage_run {span : Span} (h : Pristine outer s₀)
    (houter : ∀ w ∈ vs, w.outer = outer) (hj : s₀.journal.spans.length ≤ j)
    (hspan : (s₀.run vs).journal.spans[j]? = some span) : Parentage s₀ vs outer j span := by
  induction vs using List.reverseRecOn generalizing span with
  | nil => exact absurd (List.getElem?_eq_some_iff.1 hspan).1 (Nat.not_lt.2 hj)
  | append_singleton vs v ih =>
    have hbefore : ∀ w ∈ vs, w.outer = outer := fun w hw => houter w (List.mem_append_left _ hw)
    rw [run_concat] at hspan
    by_cases hstarts : Starts j (s₀.run vs) v
    · exact h.parentage_of_starts hbefore hstarts hspan
    · have hlt : j < (s₀.run vs).journal.spans.length :=
        Nat.lt_of_not_le fun hle => hstarts ⟨hle, (List.getElem?_eq_some_iff.1 hspan).1⟩
      have hold := List.getElem?_eq_getElem hlt
      obtain ⟨attributes, events, status, ended, hkept⟩ :=
        (attributed_run h.slots vs).retains_next v j _ hold
      obtain rfl := Option.some.inj (hkept.symm.trans hspan)
      exact h.parentage_of_not_starts (ih hbefore hold) hstarts rfl

end Pristine

end

/-! ## The order of the ends -/

section

variable {n : Nat} {outer : Option Context} {o : Option Origin} {s : Session} {v : Visit}

/-- The entries that a close ends, in the order of their ends. -/
def closingOrder (s : Session) : List Nat :=
  s.tree.slots.reverse.filterMap (s.observer.ending? s.journal)

/-- A span of the session that a close ends is held by an owned slot. -/
theorem Attributed.of_mem_closingOrder {i : Nat} (h : Attributed n o s)
    (hi : i ∈ s.closingOrder) : n ≤ i ∧ ∃ k c, s.tree.get? k = some c ∧
      s.observer.owns k = true ∧ c.current.entry = some i ∧
        ∃ span, s.journal.spans[i]? = some span ∧ span.ended = false ∧ span.canFail = true := by
  obtain ⟨e, he, hending⟩ := List.mem_filterMap.1 hi
  obtain ⟨howns, hentry, span, hspan, hcan⟩ := Observer.ending?_eq_some.1 hending
  have hget := Assoc.get?_of_mem h.nodup (List.mem_reverse.1 he)
  obtain ⟨i', hentry', hlow, span', hspan', -, hended⟩ :=
    h.own e.1 e.2 hget (h.native_of_owns hget howns)
  obtain rfl := Option.some.inj (hentry.symm.trans hentry')
  obtain rfl := Option.some.inj (hspan.symm.trans hspan')
  exact ⟨hlow, e.1, e.2, hget, howns, hentry, span, hspan, hended, hcan⟩

/-- A close ends the spans of the session that slots hold and that can fail. -/
theorem Ranked.mem_closingOrder_iff (h : Ranked n outer s) (hattributed : Attributed n o s)
    (hforeign : Foreign n outer) (i : Nat) :
    i ∈ s.closingOrder ↔ n ≤ i ∧ (∃ k, s.Holds k i) ∧
      ∃ span, s.journal.spans[i]? = some span ∧ span.canFail = true := by
  constructor
  · intro hi
    obtain ⟨hlow, k, c, hget, -, hentry, span, hspan, -, hcan⟩ :=
      hattributed.of_mem_closingOrder hi
    exact ⟨hlow, ⟨k, c, hget, hentry⟩, span, hspan, hcan⟩
  · rintro ⟨hi, ⟨k, c, hget, hentry⟩, hspan⟩
    obtain ⟨howns, -⟩ := h.own hforeign hget hentry hi
    refine List.mem_filterMap.2 ⟨(k, c), ?_, Observer.ending?_eq_some.2 ⟨howns, hentry, hspan⟩⟩
    exact List.mem_reverse.2 (SlotTree.mem_of_get? hget)

/-- A close ends the later of two spans first. -/
theorem Ranked.falling_closingOrder (h : Ranked n outer s) (hattributed : Attributed n o s) :
    s.closingOrder.Pairwise (· > ·) := by
  have hlow : ∀ e ∈ s.tree.slots, ∀ i, s.observer.ending? s.journal e = some i →
      e.2.current.entry = some i ∧ n ≤ i := by
    intro e he i hending
    have hmem := List.mem_filterMap.2 ⟨e, List.mem_reverse.2 he, hending⟩
    exact ⟨(Observer.ending?_eq_some.1 hending).2.1, (hattributed.of_mem_closingOrder hmem).1⟩
  rw [closingOrder, List.pairwise_filterMap, List.pairwise_reverse]
  refine h.rising.imp_of_mem fun {e e'} he he' hrises => ?_
  intro i' hending' i hending
  obtain ⟨hentry, hi⟩ := hlow e he i hending
  obtain ⟨hentry', hi'⟩ := hlow e' he' i' hending'
  exact hrises i i' hentry hentry' hi hi'

/-- A close ends the spans of the closing order in turn. -/
theorem Attributed.endsInTurn_close (h : Attributed n o s) (hclose : v.call = .close) :
    s.journal.EndsInTurn (s.next v).journal s.closingOrder := by
  show s.journal.EndsInTurn (s.answer v).backend.journal s.closingOrder
  rw [(answer_close s hclose).2.1]
  have hget : ∀ e ∈ s.tree.slots, s.tree.get? e.1 = some e.2 :=
    fun e he => Assoc.get?_of_mem h.nodup he
  refine Observer.endsInTurn_abandonAll ?_ ?_ _
  · intro e he howns
    have hget := hget e (List.mem_reverse.1 he)
    obtain ⟨i, hentry, -, span, hspan, -, hended⟩ :=
      h.own e.1 e.2 hget (h.native_of_owns hget howns)
    exact ⟨i, span, hentry, hspan, hended⟩
  · refine List.pairwise_reverse.2 ((List.pairwise_map.1 h.nodup).imp_of_mem ?_)
    intro e e' he he' hne howns' howns hentry
    have hget' := hget e' he'
    have hget := hget e he
    exact hne (h.one e.1 e'.1 e.2 e'.2 hget hget' (h.native_of_owns hget howns)
      (h.native_of_owns hget' howns') hentry.symm)

/-- A span of the closing order is abandoned. -/
theorem Attributed.abandons_close {i : Nat} (h : Attributed n o s) (hclose : v.call = .close)
    (hi : i ∈ s.closingOrder) : Abandons i s v := by
  obtain ⟨-, k, c, hget, howns, hentry, span, hspan, hopen, hcan⟩ := h.of_mem_closingOrder hi
  obtain ⟨hstatus, hfinish⟩ : span.refuses .setStatus = false ∧ span.refuses .finish = false := by
    simpa [Span.canFail] using hcan
  have hone : ∀ k' c', s.tree.get? k' = some c' → s.observer.owns k' = true →
      c'.current.entry = some i → k' = k :=
    fun k' c' hget' howns' hentry' => h.one k' k c' c hget' hget (h.native_of_owns hget' howns')
      (h.native_of_owns hget howns) (hentry'.trans hentry.symm)
  have hfails := fails_next h.nodup hclose hget howns hentry hone hspan hstatus hfinish
  obtain ⟨attributes, events, description, hspan'⟩ := hfails.span span hspan hopen
  exact ⟨hclose, ⟨span, hspan, hopen⟩, _, hspan', rfl⟩

end

/-- A close ends the spans of a strict session that slots still hold, one after the
other, and none before another one of them that descends from it.  Only a span on which
the backend refuses an error status or the end is left open.  Exporters see the recorded
ones in this order.  Every span of the session says that its parent is the span that it
is under, if that is one of the session. -/
theorem close_ends_descendants_first (t : Tracer) (includeSource includeVariables : Bool)
    (s₀ : Session) (outer : Option Context) (vs : List Visit) (v : Visit)
    (hfresh : s₀.observer = .create t includeSource includeVariables true)
    (hforeign : Foreign s₀.journal.spans.length outer) (houter : ∀ w ∈ vs, w.outer = outer)
    (hclose : v.call = .close) :
    (∃ ends : List Nat,
      (s₀.run vs).journal.EndsInTurn ((s₀.run vs).next v).journal ends ∧
      (∀ i, i ∈ ends ↔ s₀.journal.spans.length ≤ i ∧ (∃ k, (s₀.run vs).Holds k i) ∧
        ∃ span, (s₀.run vs).journal.spans[i]? = some span ∧ span.canFail = true) ∧
      (∀ i ∈ ends, Abandons i (s₀.run vs) v) ∧ ends.Nodup ∧
      ends.Pairwise fun i j => ¬ Descends s₀ vs j i) ∧
    ∀ j span, s₀.journal.spans.length ≤ j → (s₀.run vs).journal.spans[j]? = some span →
      Parentage s₀ vs outer j span := by
  have hpristine : Pristine outer s₀ := by
    refine ⟨?_, ?_, ?_, hforeign⟩
    · rw [tree, hfresh]
      rfl
    · rw [hfresh]
      rfl
    · rw [tree, hfresh]
      rfl
  have hattributed := attributed_run hpristine.slots vs
  have hranked := hpristine.ranked_run houter
  have hfalling := hranked.falling_closingOrder hattributed
  refine ⟨⟨(s₀.run vs).closingOrder, hattributed.endsInTurn_close hclose,
    hranked.mem_closingOrder_iff hattributed hforeign,
    fun i => hattributed.abandons_close hclose, ?_, ?_⟩,
    fun j span hj => hpristine.parentage_run houter hj⟩
  · exact hfalling.imp fun hlt => Nat.ne_of_gt hlt
  · refine hfalling.imp fun hlt hdescends => ?_
    exact Nat.lt_asymm hlt (hpristine.lt_of_descends houter hdescends)

/-- A field ends while a nested one goes on, and is resolved again.  The nested field and
the one below it still descend from execution, by way of the span that has ended. -/
theorem close_ends_reentered_branch_first :
    let t : Tracer := { provider := "provider", scope := "graphql", refuses := fun _ _ => false }
    let b : Backend := { journal := .empty, current := .empty, notes := [] }
    let s₀ : Session := ⟨.create t false false true, b⟩
    let visit (call : Call) : Visit := { call, outer := none, current := .empty }
    let field (current parent : Int) : Request.Resolution :=
      { id := { current, parent := some parent }, path := "user", parentType := "Query"
        returnType := "User" }
    let vs := [visit (.event .start), visit (.event .executionStart),
      visit (.event (.resolveStart (field 1 0))), visit (.event (.resolveStart (field 2 1))),
      visit (.event (.resolveEnd (field 1 0))), visit (.event (.resolveStart (field 1 0))),
      visit (.event (.resolveStart (field 3 2)))]
    ((s₀.run vs).next (visit .close)).journal.endings = [2, 5, 4, 3, 1, 0] ∧
      ([5, 4, 3, 1, 0].Pairwise fun i j => ¬ Descends s₀ vs j i) ∧ Descends s₀ vs 5 1 := by
  intro t b s₀ visit field vs
  obtain ⟨⟨ends, hturn, -, -, -, horder⟩, -⟩ := close_ends_descendants_first t false false s₀ none
    vs (visit .close) rfl (fun _ _ h => by simp at h) (by simp [vs, visit]) rfl
  have hbefore : (s₀.run vs).journal.endings = [2] := by decide +kernel
  have hafter : ((s₀.run vs).next (visit .close)).journal.endings = [2, 5, 4, 3, 1, 0] := by
    decide +kernel
  have hends : ends = [5, 4, 3, 1, 0] := by
    have hturn := hturn.endings
    rw [hbefore, hafter] at hturn
    exact (List.cons.inj hturn).2.symm
  refine ⟨hafter, hends ▸ horder, ?_⟩
  have hunder : ∀ before r after i j, vs = before ++ visit (.event (.resolveStart r)) :: after →
      Starts j (s₀.run before) (visit (.event (.resolveStart r))) →
      ((s₀.run before).tree.get? (Observer.enclosingSlot r.id)).map (·.current.entry) =
        some (some i) → Under s₀ vs i j := by
    intro before r after i j hvisits hstarts habove
    obtain ⟨parent, hparent, hentry⟩ := Option.map_eq_some_iff.1 habove
    exact ⟨before, _, after, hvisits, hstarts, _, _, _, _, .field rfl hparent, hentry⟩
  have hfirst : Under s₀ vs 1 2 := hunder (vs.take 2) (field 1 0) (vs.drop 3) 1 2 rfl
    ⟨by decide +kernel, by decide +kernel⟩ (by decide +kernel)
  have hsecond : Under s₀ vs 2 3 := hunder (vs.take 3) (field 2 1) (vs.drop 4) 2 3 rfl
    ⟨by decide +kernel, by decide +kernel⟩ (by decide +kernel)
  have hthird : Under s₀ vs 3 5 := hunder (vs.take 6) (field 3 2) [] 3 5 rfl
    ⟨by decide +kernel, by decide +kernel⟩ (by decide +kernel)
  exact .tail (.tail (.single hfirst) hsecond) hthird

end Session

end QueryTelemetry.Trace
