import QueryTelemetry.Proofs.Tracing.Session

/-!
# What happens to one span of a journal

An operation on a journal concerns at most one entry.  Four predicates say
what became of an entry: `Journal.Same` that nothing changed there,
`Journal.Keeps` that at most its attributes and events changed, `Journal.Ends`
that it was ended, and `Journal.Fails` that it was ended with an error status.
`endsOf` counts how often the end of an entry was asked for, also when it was
asked for in vain, and `exportsOf` how often the ended span was handed on.

The lemmas below say for each operation which of the four holds of which entry.
-/

namespace QueryTelemetry.Trace

/-- A tracer never refuses an operation, on spans of no name. -/
def Tracer.Allows (t : Tracer) (op : Operation) : Prop := ∀ name, t.refuses op name = false

namespace Journal

/-- How often the end of an entry was asked for. -/
def endsOf (j : Journal) (i : Nat) : Nat :=
  j.acts.countP fun a => a.operation == .finish && a.span.entry == some i

/-- How often an entry is among the ended spans. -/
def exportsOf (j : Journal) (i : Nat) : Nat := j.finishes.countP (·.entry == i)

/-- Nothing changed at an entry. -/
structure Same (j j' : Journal) (i : Nat) : Prop where
  span : j'.spans[i]? = j.spans[i]?
  ends : j'.endsOf i = j.endsOf i
  exports : j'.exportsOf i = j.exportsOf i

/-- At most the attributes and the events of an entry changed. -/
structure Keeps (j j' : Journal) (i : Nat) : Prop where
  span : ∀ span, j.spans[i]? = some span →
    ∃ attributes events, j'.spans[i]? = some { span with attributes, events }
  ends : j'.endsOf i = j.endsOf i
  exports : j'.exportsOf i = j.exportsOf i

/-- An entry was ended. -/
structure Ends (j j' : Journal) (i : Nat) : Prop where
  span : ∀ span, j.spans[i]? = some span →
    ∃ attributes events, j'.spans[i]? = some { span with attributes, events, ended := true }
  ends : j'.endsOf i = j.endsOf i + 1
  exports : ∀ span, j.spans[i]? = some span → span.ended = false →
    j'.exportsOf i = j.exportsOf i + if span.identity.isSampled then 1 else 0

/-- An entry was ended, after it got an error status if it is recorded. -/
structure Fails (j j' : Journal) (i : Nat) : Prop where
  span : ∀ span, j.spans[i]? = some span → span.ended = false →
    ∃ attributes events description, j'.spans[i]? = some
      { span with
        attributes, events, ended := true
        status := if span.identity.isSampled then .error description else span.status }
  ends : j'.endsOf i = j.endsOf i + 1
  exports : ∀ span, j.spans[i]? = some span → span.ended = false →
    j'.exportsOf i = j.exportsOf i + if span.identity.isSampled then 1 else 0

theorem Same.refl (j : Journal) (i : Nat) : Same j j i := ⟨rfl, rfl, rfl⟩

theorem Same.trans {j j' j'' : Journal} {i : Nat} (h : Same j j' i) (h' : Same j' j'' i) :
    Same j j'' i :=
  ⟨h'.span.trans h.span, h'.ends.trans h.ends, h'.exports.trans h.exports⟩

theorem Same.keeps {j j' : Journal} {i : Nat} (h : Same j j' i) : Keeps j j' i :=
  ⟨fun span hspan => ⟨span.attributes, span.events, h.span.trans hspan⟩, h.ends, h.exports⟩

theorem Keeps.refl (j : Journal) (i : Nat) : Keeps j j i := (Same.refl j i).keeps

theorem Keeps.trans {j j' j'' : Journal} {i : Nat} (h : Keeps j j' i) (h' : Keeps j' j'' i) :
    Keeps j j'' i := by
  refine ⟨?_, h'.ends.trans h.ends, h'.exports.trans h.exports⟩
  intro span hspan
  obtain ⟨attributes, events, hj'⟩ := h.span span hspan
  obtain ⟨attributes', events', hj''⟩ := h'.span _ hj'
  exact ⟨attributes', events', hj''⟩

theorem Ends.after_keeps {j j' j'' : Journal} {i : Nat} (h : Keeps j j' i) (h' : Ends j' j'' i) :
    Ends j j'' i := by
  refine ⟨?_, by rw [h'.ends, h.ends], ?_⟩
  · intro span hspan
    obtain ⟨attributes, events, hj'⟩ := h.span span hspan
    obtain ⟨attributes', events', hj''⟩ := h'.span _ hj'
    exact ⟨attributes', events', hj''⟩
  · intro span hspan hended
    obtain ⟨attributes, events, hj'⟩ := h.span span hspan
    rw [h'.exports _ hj' hended, h.exports]

theorem Fails.after_keeps {j j' j'' : Journal} {i : Nat} (h : Keeps j j' i)
    (h' : Fails j' j'' i) : Fails j j'' i := by
  refine ⟨?_, by rw [h'.ends, h.ends], ?_⟩
  · intro span hspan hended
    obtain ⟨attributes, events, hj'⟩ := h.span span hspan
    obtain ⟨attributes', events', description, hj''⟩ := h'.span _ hj' hended
    exact ⟨attributes', events', description, hj''⟩
  · intro span hspan hended
    obtain ⟨attributes, events, hj'⟩ := h.span span hspan
    rw [h'.exports _ hj' hended, h.exports]

theorem Fails.before_keeps {j j' j'' : Journal} {i : Nat} (h : Fails j j' i)
    (h' : Keeps j' j'' i) : Fails j j'' i := by
  refine ⟨?_, by rw [h'.ends, h.ends], ?_⟩
  · intro span hspan hended
    obtain ⟨attributes, events, description, hj'⟩ := h.span span hspan hended
    obtain ⟨attributes', events', hj''⟩ := h'.span _ hj'
    exact ⟨attributes', events', description, hj''⟩
  · intro span hspan hended
    rw [h'.exports, h.exports span hspan hended]

/-! ## Starting a span -/

theorem getElem?_opened (j : Journal) (t : Tracer) (name : String) (parent : Context)
    (kind : Kind) (attributes : Fields) (i : Nat) :
    (j.opened t name parent kind attributes).2.spans[i]? =
      if i = j.spans.length then some (j.newSpan t name parent kind attributes)
      else j.spans[i]? := by
  simp only [opened]
  by_cases h : i = j.spans.length
  · rw [if_pos h, h, List.getElem?_append_right (Nat.le_refl _), Nat.sub_self]
    rfl
  · rw [if_neg h]
    rcases Nat.lt_or_gt_of_ne h with hlt | hgt
    · rw [List.getElem?_append_left hlt]
    · rw [List.getElem?_eq_none (by simp; omega), List.getElem?_eq_none (Nat.le_of_lt hgt)]

theorem same_opened (j : Journal) (t : Tracer) (name : String) (parent : Context)
    (kind : Kind) (attributes : Fields) {i : Nat} (h : i ≠ j.spans.length) :
    Same j (j.opened t name parent kind attributes).2 i :=
  ⟨by rw [getElem?_opened, if_neg h], rfl, rfl⟩

theorem keeps_opened (j : Journal) (t : Tracer) (name : String) (parent : Context)
    (kind : Kind) (attributes : Fields) (i : Nat) :
    Keeps j (j.opened t name parent kind attributes).2 i := by
  refine ⟨fun span hspan => ?_, rfl, rfl⟩
  have hi : i < j.spans.length := (List.getElem?_eq_some_iff.1 hspan).1
  exact (same_opened j t name parent kind attributes (Nat.ne_of_lt hi)).keeps.span span hspan

theorem length_opened (j : Journal) (t : Tracer) (name : String) (parent : Context)
    (kind : Kind) (attributes : Fields) :
    (j.opened t name parent kind attributes).2.spans.length = j.spans.length + 1 := by
  simp only [opened, List.length_append, List.length_singleton]

/-! ## Asking something of a span -/

theorem endsOf_noted (j : Journal) (op : Operation) (r : SpanRef) (i : Nat) :
    (j.noted op r).endsOf i =
      j.endsOf i + if op = .finish ∧ r.entry = some i then 1 else 0 := by
  simp only [endsOf, noted, List.countP_append, List.countP_singleton, Bool.and_eq_true,
    beq_iff_eq]

theorem find?_eq_some {j : Journal} {r : SpanRef} {i : Nat} {span : Span}
    (h : j.find? r = some (i, span)) : r.entry = some i ∧ j.spans[i]? = some span := by
  simp only [find?, Option.bind_eq_some_iff, Option.map_eq_some_iff, Prod.mk.injEq] at h
  obtain ⟨i', hentry, span', hspan, rfl, rfl⟩ := h
  exact ⟨hentry, hspan⟩

theorem find?_of_entry {j : Journal} {r : SpanRef} {i : Nat} {span : Span}
    (hentry : r.entry = some i) (hspan : j.spans[i]? = some span) :
    j.find? r = some (i, span) := by
  simp only [find?, hentry, Option.bind_some, hspan, Option.map_some]

theorem record_of_found {j : Journal} {r : SpanRef} {i : Nat} {span : Span} {op : Operation}
    (f : Span → Span) (hfound : j.find? r = some (i, span)) (hop : span.refuses op = false) :
    j.record r op f =
      .ok (if span.isRecording then (j.noted op r).update i f else j.noted op r) := by
  simp only [record, hfound, hop, Bool.false_eq_true, if_false]

theorem finish_of_found {j : Journal} {r : SpanRef} {i : Nat} {span : Span} (current : Nat)
    (hfound : j.find? r = some (i, span)) (hop : span.refuses .finish = false) :
    j.finish r current = .ok ((j.noted .finish r).closed i span current) := by
  simp only [finish, hfound, hop, Bool.false_eq_true, if_false]

/-- What recording data leaves at an entry: the same span, or the changed one
if the reference is to that entry. -/
theorem getElem?_settled_record (j : Journal) (r : SpanRef) (op : Operation) (f : Span → Span)
    (i : Nat) :
    (j.settled (j.record r op f)).spans[i]? = j.spans[i]? ∨
      r.entry = some i ∧
        (j.settled (j.record r op f)).spans[i]? = (j.spans[i]?).map f := by
  cases hfound : j.find? r with
  | none => simp [record, hfound, settled, noted]
  | some e =>
    obtain ⟨k, span⟩ := e
    have hentry := (find?_eq_some hfound).1
    by_cases hop : span.refuses op = true
    · simp [record, hfound, hop, settled]
    · rw [record_of_found f hfound (by simpa using hop)]
      by_cases hrec : span.isRecording = true
      · by_cases hk : k = i
        · subst hk
          right
          simp [settled, hrec, update, noted, hentry]
        · simp [settled, hrec, update, noted, hk]
      · simp [settled, hrec, noted]

theorem endsOf_settled_record (j : Journal) (r : SpanRef) {op : Operation} (hop : op ≠ .finish)
    (f : Span → Span) (i : Nat) : (j.settled (j.record r op f)).endsOf i = j.endsOf i := by
  have hnoted : (j.noted op r).endsOf i = j.endsOf i := by
    rw [endsOf_noted, if_neg (fun h => hop h.1)]
    rfl
  simp only [record]
  split
  · exact hnoted
  · split
    · rfl
    · split
      · exact hnoted
      · exact hnoted

theorem exportsOf_settled_record (j : Journal) (r : SpanRef) (op : Operation) (f : Span → Span)
    (i : Nat) : (j.settled (j.record r op f)).exportsOf i = j.exportsOf i := by
  simp only [record]
  split
  · rfl
  · split
    · rfl
    · split <;> rfl

theorem length_settled_record (j : Journal) (r : SpanRef) (op : Operation) (f : Span → Span) :
    (j.settled (j.record r op f)).spans.length = j.spans.length := by
  cases h : j.record r op f with
  | ok j' => exact (length_spans_record h).1
  | error _ => rfl

/-- Recording data of another span changes nothing at an entry. -/
theorem same_record_of_ne (j : Journal) {r : SpanRef} {op : Operation} (hop : op ≠ .finish)
    (f : Span → Span) {i : Nat} (h : r.entry ≠ some i) :
    Same j (j.settled (j.record r op f)) i := by
  refine ⟨?_, endsOf_settled_record j r hop f i, exportsOf_settled_record j r op f i⟩
  rcases getElem?_settled_record j r op f i with hspan | ⟨hr, -⟩
  · exact hspan
  · exact absurd hr h

/-- Recording data that only touches attributes and events keeps every entry. -/
theorem keeps_record (j : Journal) (r : SpanRef) {op : Operation} (hop : op ≠ .finish)
    {f : Span → Span}
    (hf : ∀ span, ∃ attributes events, f span = { span with attributes, events }) (i : Nat) :
    Keeps j (j.settled (j.record r op f)) i := by
  refine ⟨?_, endsOf_settled_record j r hop f i, exportsOf_settled_record j r op f i⟩
  intro span hspan
  rcases getElem?_settled_record j r op f i with h | ⟨_, h⟩
  · exact ⟨span.attributes, span.events, by rw [h, hspan]⟩
  · obtain ⟨attributes, events, hf⟩ := hf span
    exact ⟨attributes, events, by rw [h, hspan, Option.map_some, hf]⟩

theorem keeps_setAttributes (j : Journal) (r : SpanRef) (more : Fields) (i : Nat) :
    Keeps j (j.settled (j.setAttributes r more)) i :=
  keeps_record j r (by decide) (fun span => ⟨_, span.events, rfl⟩) i

theorem keeps_addEvent (j : Journal) (r : SpanRef) (name : String) (attributes : Fields)
    (i : Nat) : Keeps j (j.settled (j.addEvent r name attributes)) i :=
  keeps_record j r (by decide) (fun span => ⟨span.attributes, _, rfl⟩) i

/-! ## Ending a span -/

theorem length_settled_finish (j : Journal) (r : SpanRef) (current : Nat) :
    (j.settled (j.finish r current)).spans.length = j.spans.length := by
  simp only [finish]
  split
  · rfl
  · split
    · rfl
    · simp only [settled, closed]
      split
      · rfl
      · exact length_spans_update ..

theorem getElem?_closed_of_ne (j : Journal) {k i : Nat} (h : k ≠ i) (span : Span)
    (current : Nat) : (j.closed k span current).spans[i]? = j.spans[i]? := by
  simp only [closed]
  split
  · rfl
  · exact List.getElem?_modify_ne _ _ h

theorem getElem?_closed_self {j : Journal} {i : Nat} {span : Span}
    (hspan : j.spans[i]? = some span) (current : Nat) :
    (j.closed i span current).spans[i]? = some { span with ended := true } := by
  simp only [closed]
  split
  · next hended => rw [hspan, ← hended]
  · simp only [update, List.getElem?_modify_eq, hspan]
    rfl

theorem endsOf_closed (j : Journal) (k : Nat) (span : Span) (current i : Nat) :
    (j.closed k span current).endsOf i = j.endsOf i := by
  simp only [closed]
  split <;> rfl

theorem exportsOf_closed_of_ne (j : Journal) {k i : Nat} (h : k ≠ i) (span : Span)
    (current : Nat) : (j.closed k span current).exportsOf i = j.exportsOf i := by
  simp only [closed, exportsOf]
  split
  · rfl
  · dsimp only
    split
    · rw [List.countP_append, List.countP_singleton, if_neg (by simpa using h)]
      rfl
    · rfl

theorem exportsOf_closed_self (j : Journal) (i : Nat) {span : Span} (hended : span.ended = false)
    (current : Nat) :
    (j.closed i span current).exportsOf i =
      j.exportsOf i + if span.identity.isSampled then 1 else 0 := by
  simp only [closed, exportsOf, hended, Bool.false_eq_true, if_false]
  split
  · rw [List.countP_append, List.countP_singleton, if_pos (by simp)]
  · rfl

/-- The end of another span changes nothing at an entry. -/
theorem same_finish_of_ne (j : Journal) {r : SpanRef} {i : Nat} (h : r.entry ≠ some i)
    (current : Nat) : Same j (j.settled (j.finish r current)) i := by
  have hnoted : Same j (j.noted .finish r) i := by
    refine ⟨rfl, ?_, rfl⟩
    rw [endsOf_noted, if_neg (fun hr => h hr.2)]
    rfl
  cases hfound : j.find? r with
  | none =>
    simp only [finish, hfound]
    exact hnoted
  | some e =>
    obtain ⟨k, span⟩ := e
    have hk : k ≠ i := fun hk => h (hk ▸ (find?_eq_some hfound).1)
    by_cases hop : span.refuses .finish = true
    · simp only [finish, hfound, hop, if_true]
      exact Same.refl j i
    · rw [finish_of_found current hfound (by simpa using hop)]
      exact hnoted.trans ⟨getElem?_closed_of_ne _ hk .., endsOf_closed ..,
        exportsOf_closed_of_ne _ hk ..⟩

/-- A span whose end is not refused is ended. -/
theorem ends_finish {j : Journal} {r : SpanRef} {i : Nat} {span : Span}
    (hentry : r.entry = some i) (hspan : j.spans[i]? = some span)
    (hop : span.refuses .finish = false) (current : Nat) :
    Ends j (j.settled (j.finish r current)) i := by
  rw [finish_of_found current (find?_of_entry hentry hspan) hop]
  refine ⟨?_, ?_, ?_⟩
  · intro span' hspan'
    obtain rfl : span = span' := Option.some.inj (hspan.symm.trans hspan')
    exact ⟨span.attributes, span.events, getElem?_closed_self (j := j.noted .finish r) hspan current⟩
  · show ((j.noted .finish r).closed i span current).endsOf i = _
    rw [endsOf_closed, endsOf_noted, if_pos ⟨rfl, hentry⟩]
  · intro span' hspan' hended
    obtain rfl : span = span' := Option.some.inj (hspan.symm.trans hspan')
    exact exportsOf_closed_self _ i hended current

/-! ## Ending a span as a failure -/

theorem length_failed (j : Journal) (r : SpanRef) (description : String) (current : Nat) :
    (j.failed r description current).spans.length = j.spans.length := by
  simp only [failed]
  split
  · next marked h => rw [length_settled_finish, (length_spans_record h).1]
  · rfl

/-- The failure of another span changes nothing at an entry. -/
theorem same_failed_of_ne (j : Journal) {r : SpanRef} {i : Nat} (h : r.entry ≠ some i)
    (description : String) (current : Nat) : Same j (j.failed r description current) i := by
  simp only [failed]
  split
  · next marked hmarked =>
    have hrecord : j.settled (j.record r .setStatus (·.withError description)) = marked := by
      rw [show j.record r .setStatus (·.withError description) = .ok marked from hmarked]
      rfl
    exact (hrecord ▸ same_record_of_ne j (by decide) _ h).trans (same_finish_of_ne marked h current)
  · exact Same.refl j i

/-- A span that does not refuse its status takes it if it is recording. -/
theorem exists_setError {j : Journal} {r : SpanRef} {i : Nat} {span : Span}
    (hentry : r.entry = some i) (hspan : j.spans[i]? = some span)
    (hstatus : span.refuses .setStatus = false) (description : String) :
    ∃ marked, j.setError r description = .ok marked ∧
      marked.spans[i]? = some { span with
        status := if span.isRecording then .error description else span.status } ∧
      marked.endsOf i = j.endsOf i ∧ marked.exportsOf i = j.exportsOf i := by
  have hok := record_of_found (·.withError description) (find?_of_entry hentry hspan) hstatus
  refine ⟨_, hok, ?_, ?_, ?_⟩
  · split
    · simp only [update, noted, List.getElem?_modify_eq, hspan]
      rfl
    · exact hspan
  · have hop : Operation.setStatus ≠ .finish := by decide
    have h := endsOf_settled_record j r hop (·.withError description) i
    rwa [hok] at h
  · have h := exportsOf_settled_record j r .setStatus (·.withError description) i
    rwa [hok] at h

/-- A span that refuses neither its status nor its end fails. -/
theorem fails_failed {j : Journal} {r : SpanRef} {i : Nat} {span : Span}
    (hentry : r.entry = some i) (hspan : j.spans[i]? = some span)
    (hstatus : span.refuses .setStatus = false) (hfinish : span.refuses .finish = false)
    (description : String) (current : Nat) : Fails j (j.failed r description current) i := by
  obtain ⟨marked, hok, hspan', hends, hexports⟩ :=
    exists_setError hentry hspan hstatus description
  have hended := ends_finish hentry hspan' hfinish current
  simp only [failed, hok]
  refine ⟨?_, by rw [hended.ends, hends], ?_⟩
  · intro span₁ hspan₁ hopen
    obtain rfl : span = span₁ := Option.some.inj (hspan.symm.trans hspan₁)
    obtain ⟨attributes, events, h⟩ := hended.span _ hspan'
    have hrecording : span.isRecording = span.identity.isSampled := by
      rw [Span.isRecording, hopen, Bool.not_false, Bool.and_true]
    rw [hrecording] at h
    exact ⟨attributes, events, description, h⟩
  · intro span₁ hspan₁ hopen
    obtain rfl : span = span₁ := Option.some.inj (hspan.symm.trans hspan₁)
    rw [hended.exports _ hspan' hopen, hexports]

end Journal

end QueryTelemetry.Trace
