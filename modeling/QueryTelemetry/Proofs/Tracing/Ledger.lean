import QueryTelemetry.Proofs.Tracing.Forest
import QueryTelemetry.Proofs.Tracing.Passage

/-!
# The ledger of a request

A ledger lists the pieces of work whose spans a session has started, in the
order of their starts, with the identities of the spans.  `Ledger` says that a
ledger is right: every listed piece of work has exactly the span that `Work.span`
tells, open while its slot is live and ended after that, under the span of the
piece of work above it.

A visit that starts a piece of work below a live one adds a line
(`Ledger.opens`).  A visit that ends one changes no line but ends its span
(`Ledger.closes`).
-/

namespace QueryTelemetry.Trace

/-! ## The span of a piece of work -/

/-- The text of the variables in the attributes of parsing. -/
def Observer.variablesText (o : Observer) (bindings : Value) : Option String :=
  match o.shownVariables bindings with
  | .ok (shown, _) => shown
  | .error _ => none

namespace Work

/-- The attributes of the span of a piece of work.  Those of validation come with
its end. -/
def attributes (o : Observer) (q : Query) (ended : Bool) : Work → Fields
  | .request => []
  | .parse =>
    parseAttributes (if o.includeSource then q.source else none) (o.variablesText q.bindings)
  | .validation =>
    if ended && !o.tracer.refuses .setAttributes validationName then
      validationAttributes q.complexity q.depth
    else []
  | .execution => []
  | .field r => resolveAttributes r.id.current r.parentType r.returnType

/-- The span of a piece of work, without events and with no status set. -/
def span (o : Observer) (q : Query) (w : Work) (identity : Identity) (parent : Option Identity)
    (ended : Bool) : Span :=
  { tracer := o.tracer, name := w.name, kind := .server, identity, parent
    attributes := w.attributes o q ended, events := [], status := .unset, ended }

variable {o : Observer} {q : Query} {w : Work} {identity : Identity} {parent : Option Identity}

theorem finished_span (hw : w ≠ .validation) :
    (w.span o q identity parent false).finished = w.span o q identity parent true := by
  cases w with
  | validation => exact absurd rfl hw
  | request | parse | execution | field r => rfl

end Work

/-- The end of a piece of work leaves the span that it is to have. -/
theorem getElem?_span_released {o : Observer} {q : Query} {w : Work} {identity : Identity}
    {parent : Option Identity} {j : Journal} {v : Visit} {c : Context} {i : Nat}
    (hleft : v.call.left? = some w.slot)
    (hvalidation : w = .validation → v.call = .event (.validationEnd q.complexity q.depth))
    (hentry : c.current.entry = some i)
    (hspan : j.spans[i]? = some (w.span o q identity parent false))
    (hsampled : identity.isSampled = true) (hfinish : o.tracer.refuses .finish w.name = false) :
    ((j.annotated v c).released c).spans[i]? = some (w.span o q identity parent true) := by
  by_cases hw : w = .validation
  · subst hw
    have hrecording : (Work.validation.span o q identity parent false).isRecording = true := by
      rw [Span.isRecording, show Span.identity _ = identity from rfl, hsampled]
      rfl
    have hannotated := Journal.getElem?_annotated (hvalidation rfl) hentry hspan hrecording
    by_cases hop : (Work.validation.span o q identity parent false).refuses .setAttributes = true
    · rw [if_pos hop] at hannotated
      rw [Journal.getElem?_released hentry hannotated hfinish]
      have hop : o.tracer.refuses .setAttributes validationName = true := hop
      simp [Work.span, Work.attributes, Span.finished, hop]
    · rw [if_neg hop] at hannotated
      rw [Journal.getElem?_released hentry hannotated hfinish]
      have hop : o.tracer.refuses .setAttributes validationName = false :=
        Bool.eq_false_iff.2 hop
      simp only [Work.span, Work.attributes, Span.finished, hop, Bool.not_false, Bool.and_true,
        if_true]
      rfl
  · have hslot : w.slot ≠ .validation := by cases w <;> simp [Work.slot] at hw ⊢
    rw [Journal.annotated_of_left hleft hslot, Journal.getElem?_released hentry hspan hfinish,
      Work.finished_span hw]

/-! ## The ledger -/

/-- The lines of a ledger. -/
abbrev Lines := List (Work × Identity)

/-- The parent of the span of a piece of work: none for the request, and
otherwise the span of the piece of work above it. -/
inductive Lines.Parent (f : Forest) (book : Lines) : Work → Option Identity → Prop where
  | request : Parent f book .request none
  | above {a w : Work} {identity : Identity} (habove : f.Above a w)
      (hbooked : (a, identity) ∈ book) : Parent f book w (some identity)

theorem Lines.Parent.append {f : Forest} {book : Lines} {w : Work} {parent : Option Identity}
    (h : Lines.Parent f book w parent) (more : Lines) : Lines.Parent f (book ++ more) w parent := by
  cases h with
  | request => exact .request
  | above habove hbooked => exact .above habove (List.mem_append_left _ hbooked)

/-- The slots of the pieces of work of a ledger. -/
def Lines.slots (book : Lines) : List Slot := book.map (·.1.slot)

/-- A line of a ledger is right: the entry has the span of the piece of work. -/
structure Line (f : Forest) (q : Query) (trace : Nat) (s₀ : Session) (book : Lines) (s : Session)
    (i : Nat) (w : Work) (identity : Identity) : Prop where
  span : ∃ parent, book.Parent f w parent ∧ s.journal.spans[i]? =
    some (w.span s₀.observer q identity parent (!s.tree.isLive w.slot))
  valid : identity.isValid = true
  sampled : identity.isSampled = true
  trace : identity.traceId = trace
  ends : s.journal.endsOf i = s₀.journal.endsOf i + if s.tree.isLive w.slot then 0 else 1
  exports : s.journal.exportsOf i = s₀.journal.exportsOf i + if s.tree.isLive w.slot then 0 else 1
  context : ∀ c, s.tree.get? w.slot = some c → c.current = { identity, entry := some i }

/-- A ledger is right after some visits. -/
structure Ledger (f : Forest) (q : Query) (trace : Nat) (s₀ : Session) (book : Lines)
    (s : Session) : Prop where
  observer : s.observer = { s₀.observer with tree := s.tree }
  length : s.journal.spans.length = s₀.journal.spans.length + book.length
  nodup : s.tree.keys.Nodup
  slots : book.slots.Nodup
  booked : ∀ k, s.tree.isLive k = true → k ∈ book.slots
  line : ∀ j w identity, book[j]? = some (w, identity) →
    Line f q trace s₀ book s (s₀.journal.spans.length + j) w identity
  unasked : ∀ i, s.journal.spans.length ≤ i →
    s.journal.endsOf i = s₀.journal.endsOf i ∧ s.journal.exportsOf i = s₀.journal.exportsOf i

section

variable {f : Forest} {q : Query} {trace : Nat} {s₀ s s' : Session} {book book' : Lines}
  {v : Visit} {w : Work} {identity : Identity} {i j : Nat}

/-- A line stays right while nothing happens to its span and its slot. -/
theorem Line.keep (h : Line f q trace s₀ book s i w identity)
    (hsame : s.journal.Same s'.journal i) (hget : s'.tree.get? w.slot = s.tree.get? w.slot)
    (hbook : ∀ parent, book.Parent f w parent → book'.Parent f w parent) :
    Line f q trace s₀ book' s' i w identity := by
  have hlive : s'.tree.isLive w.slot = s.tree.isLive w.slot := by
    rw [SlotTree.isLive_eq_isSome_get?, SlotTree.isLive_eq_isSome_get?, hget]
  obtain ⟨parent, hparent, hspan⟩ := h.span
  refine ⟨⟨parent, hbook parent hparent, ?_⟩, h.valid, h.sampled, h.trace, ?_, ?_, ?_⟩
  · rw [hsame.span, hspan, hlive]
  · rw [hsame.ends, h.ends, hlive]
  · rw [hsame.exports, h.exports, hlive]
  · rw [hget]
    exact h.context

namespace Ledger

/-- The empty ledger is right at first. -/
theorem nil (htree : s₀.tree.slots = []) : Ledger f q trace s₀ [] s₀ := by
  refine ⟨rfl, rfl, ?_, List.nodup_nil, ?_, ?_, fun i _ => ⟨rfl, rfl⟩⟩
  · rw [SlotTree.keys, htree]
    exact List.nodup_nil
  · intro k hlive
    simp [SlotTree.isLive, htree, Assoc.has] at hlive
  · intro j w identity hbook
    simp at hbook

theorem tracer_eq (h : Ledger f q trace s₀ book s) :
    s.observer.tracer = s₀.observer.tracer := by
  rw [h.observer]

/-- A visit that changes neither the slots nor the journal changes nothing. -/
theorem rest (h : Ledger f q trace s₀ book s) (hobserver : s'.observer = s.observer)
    (hjournal : s'.journal = s.journal) : Ledger f q trace s₀ book s' := by
  have htree : s'.tree = s.tree := congrArg (·.tree) hobserver
  refine ⟨?_, ?_, ?_, h.slots, ?_, ?_, ?_⟩
  · rw [hobserver, htree, ← h.observer]
  · rw [hjournal, h.length]
  · rw [htree]
    exact h.nodup
  · rw [htree]
    exact h.booked
  · intro j w identity hbook
    refine (h.line j w identity hbook).keep ?_ (by rw [htree]) fun _ => id
    rw [hjournal]
    exact .refl _ _
  · rw [hjournal]
    exact h.unasked

theorem mem_slots (hline : book[j]? = some (w, identity)) : w.slot ∈ book.slots :=
  List.mem_map_of_mem (List.mem_of_getElem? hline)

/-- A piece of work has one line. -/
theorem index_eq (h : Ledger f q trace s₀ book s) {j' : Nat} {w' : Work} {identity' : Identity}
    (hline : book[j]? = some (w, identity)) (hline' : book[j']? = some (w', identity'))
    (hslot : w.slot = w'.slot) : j = j' := by
  have hlt : j < book.slots.length := by
    rw [Lines.slots, List.length_map]
    exact (List.getElem?_eq_some_iff.1 hline).1
  refine (List.getElem?_inj hlt h.slots).1 ?_
  rw [Lines.slots, List.getElem?_map, List.getElem?_map, hline, hline']
  exact congrArg some hslot

/-- The start of a piece of work whose slot was never live adds a line. -/
theorem opens {parent : Context} (h : Ledger f q trace s₀ book s)
    (hopens : Opens s v w.slot w.name parent (w.attributes s₀.observer q false))
    (hstart : s₀.observer.tracer.refuses .start w.name = false) (hnew : w.slot ∉ book.slots)
    (hsampled : (s.journal.nextIdentity parent.identity).isSampled = true)
    (htrace : (s.journal.nextIdentity parent.identity).traceId = trace)
    (hparent : book.Parent f w (if parent.identity.isValid then some parent.identity else none)) :
    Ledger f q trace s₀ (book ++ [(w, s.journal.nextIdentity parent.identity)]) (s.next v) ∧
      ∀ k, (s.next v).tree.isLive k = true ↔ k = w.slot ∨ s.tree.isLive k = true := by
  have hdead : s.tree.isLive w.slot = false :=
    Bool.eq_false_iff.2 fun hlive => hnew (h.booked _ hlive)
  have haccepted : (s.tree.isLive w.slot && s.tree.strict) = false := by rw [hdead, Bool.false_and]
  rw [← h.tracer_eq] at hstart
  rcases Session.next_of_opens hopens hstart with ⟨-, hobserver, hjournal, -⟩ | ⟨hrejected, -⟩
  swap
  · exact absurd (haccepted.symm.trans hrejected) (by decide)
  have hget : ∀ k, (s.next v).tree.get? k = if k = w.slot then
      some (parent.withSpan (s.started w.name parent (w.attributes s₀.observer q false)).1)
      else s.tree.get? k := by
    intro k
    rw [Session.tree, hobserver, SlotTree.get?, SlotTree.put, Assoc.get?_put]
    simp [SlotTree.get?]
  have hlive : ∀ k, (s.next v).tree.isLive k = true ↔ k = w.slot ∨ s.tree.isLive k = true := by
    intro k
    rw [SlotTree.isLive_eq_isSome_get?, hget, SlotTree.isLive_eq_isSome_get?]
    by_cases hk : k = w.slot
    · simp [hk]
    · simp [hk]
  refine ⟨⟨?_, ?_, Session.nodup_next h.nodup v, ?_, ?_, ?_, ?_⟩, hlive⟩
  · rw [Session.tree, hobserver, h.observer]
  · rw [hjournal, Journal.length_opened, h.length, List.length_append, List.length_singleton,
      Nat.add_assoc]
  · rw [Lines.slots, List.map_append]
    exact List.nodup_append.2 ⟨h.slots, by simp, fun k hk k' hk' heq => hnew (by simp_all [Lines.slots])⟩
  · intro k hk
    rw [Lines.slots, List.map_append]
    rcases (hlive k).1 hk with rfl | hk
    · simp
    · exact List.mem_append_left _ (h.booked k hk)
  · intro j w' identity' hline
    rcases Nat.lt_or_ge j book.length with hlt | hge
    · rw [List.getElem?_append_left hlt] at hline
      have hslot : w'.slot ≠ w.slot := fun heq => hnew (heq ▸ mem_slots hline)
      refine (h.line j w' identity' hline).keep ?_ ?_ fun _ hp => hp.append _
      · rw [hjournal]
        exact Journal.same_opened _ _ _ _ _ _ (by rw [h.length]; omega)
      · rw [hget, if_neg hslot]
    · rw [List.getElem?_append_right hge, List.getElem?_singleton] at hline
      split at hline
      swap
      · cases hline
      next hj =>
      obtain ⟨rfl, rfl⟩ := Prod.mk.inj (Option.some.inj hline)
      have hi : s₀.journal.spans.length + j = s.journal.spans.length := by
        rw [h.length]
        omega
      have hslot : (s.next v).tree.isLive w.slot = true := (hlive w.slot).2 (.inl rfl)
      obtain ⟨hends, hexports⟩ := h.unasked s.journal.spans.length (Nat.le_refl _)
      rw [hi]
      refine ⟨⟨_, hparent.append _, ?_⟩, s.journal.isValid_nextIdentity _, hsampled, htrace,
        ?_, ?_, ?_⟩
      · rw [hjournal, Journal.getElem?_opened, if_pos rfl, hslot]
        simp only [Journal.newSpan, hsampled, if_true, h.tracer_eq]
        rfl
      · rw [hslot, if_pos rfl, hjournal]
        exact hends
      · rw [hslot, if_pos rfl, hjournal]
        exact hexports
      · intro c hc
        rw [hget, if_pos rfl] at hc
        obtain rfl := Option.some.inj hc
        rfl
  · intro i hi
    rw [hjournal, Journal.length_opened] at hi
    rw [hjournal]
    exact h.unasked i (by omega)

/-- The end of a piece of work whose slot is live ends its span. -/
theorem closes (h : Ledger f q trace s₀ book s) (hline : book[j]? = some (w, identity))
    (hlive : s.tree.isLive w.slot = true) (hleft : v.call.left? = some w.slot)
    (hvalidation : w = .validation → v.call = .event (.validationEnd q.complexity q.depth))
    (hfinish : s₀.observer.tracer.refuses .finish w.name = false)
    (hjoined : s₀.observer.joined = false) :
    Ledger f q trace s₀ book (s.next v) ∧
      ∀ k, (s.next v).tree.isLive k = true ↔ k ≠ w.slot ∧ s.tree.isLive k = true := by
  have hsome := hlive
  rw [SlotTree.isLive_eq_isSome_get?] at hsome
  obtain ⟨c, hc⟩ := Option.isSome_iff_exists.1 hsome
  obtain ⟨⟨parent, hparent, hspan⟩, hvalid, hsampled, htrace, hends, hexports, hcontext⟩ :=
    h.line j w identity hline
  have howns : s.observer.owns w.slot = true := by
    rw [Observer.owns, h.observer, hjoined, Bool.and_false, Bool.not_false]
  obtain ⟨hobserver, hjournal⟩ := Session.next_of_left hleft hc
  rw [if_pos howns] at hjournal
  have hget : ∀ k, (s.next v).tree.get? k = if k = w.slot then none else s.tree.get? k := by
    intro k
    rw [Session.tree, hobserver, SlotTree.get?_exit]
  have hnext : ∀ k, (s.next v).tree.isLive k = true ↔ k ≠ w.slot ∧ s.tree.isLive k = true := by
    intro k
    rw [SlotTree.isLive_eq_isSome_get?, hget, SlotTree.isLive_eq_isSome_get?]
    by_cases hk : k = w.slot
    · simp [hk]
    · simp [hk]
  have hdead : (s.next v).tree.isLive w.slot = false :=
    Bool.eq_false_iff.2 fun h' => ((hnext _).1 h').1 rfl
  have hlength : (s.next v).journal.spans.length = s.journal.spans.length := by
    rw [hjournal]
    exact Journal.length_left s.journal v c true
  have hentry : c.current.entry = some (s₀.journal.spans.length + j) := by rw [hcontext c hc]
  have hsame : ∀ i, i ≠ s₀.journal.spans.length + j → s.journal.Same (s.next v).journal i := by
    intro i hi
    rw [hjournal]
    refine s.journal.same_released_of_ne v fun hi' => hi ?_
    exact (Option.some.inj (hentry.symm.trans hi')).symm
  refine ⟨⟨?_, hlength.trans h.length, Session.nodup_next h.nodup v, h.slots, ?_, ?_, ?_⟩, hnext⟩
  · rw [Session.tree, hobserver, h.observer]
  · exact fun k hk => h.booked k ((hnext k).1 hk).2
  · intro j' w' identity' hline'
    by_cases hj : j' = j
    · subst hj
      obtain ⟨rfl, rfl⟩ := Prod.mk.inj (Option.some.inj (hline.symm.trans hline'))
      rw [hlive, Bool.not_true] at hspan
      rw [hlive, if_pos rfl] at hends hexports
      have hended := s.journal.ends_released v hentry hspan hfinish
      rw [← hjournal] at hended
      refine ⟨⟨parent, hparent, ?_⟩, hvalid, hsampled, htrace, ?_, ?_, ?_⟩
      · rw [hjournal, hdead]
        exact getElem?_span_released hleft hvalidation hentry hspan hsampled hfinish
      · rw [hended.ends, hends, hdead]
        rfl
      · rw [hended.exports _ hspan rfl, hexports, hdead]
        exact congrArg _ (if_pos hsampled)
      · intro c' hc'
        rw [hget, if_pos rfl] at hc'
        cases hc'
    · have hslot : w'.slot ≠ w.slot := fun heq => hj (h.index_eq hline' hline heq)
      refine (h.line j' w' identity' hline').keep (hsame _ (by omega)) ?_ fun _ => id
      rw [hget, if_neg hslot]
  · intro i hi
    rw [hlength] at hi
    have hlt := (List.getElem?_eq_some_iff.1 hline).1
    have hsame := hsame i (by rw [h.length] at hi; omega)
    obtain ⟨hends', hexports'⟩ := h.unasked i hi
    exact ⟨hsame.ends.trans hends', hsame.exports.trans hexports'⟩

end Ledger

end

end QueryTelemetry.Trace
