import QueryTelemetry.Proofs.Tracing.Passage

/-!
# What operations write

`Journal.Writes P` says that one journal comes from another by operations on
the entries with the property `P`: something is asked of a span, its data is
changed, it is ended, or a new span is opened.  Every operation of the backend
that the observer uses is of this kind, and so is every visit (`writes_next`):
it writes to the spans of the owned slots and to the span that it starts.

What holds of the four elementary writes is proved by one induction each.
Nothing happens to an entry that is not written to (`Writes.same`,
`Writes.endsAmong_eq`), what was said of a span at its start stands for ever
(`Writes.retains`), and whatever is asked of a span is asked of one of the
entries (`Writes.acts`).
-/

namespace QueryTelemetry.Trace

/-- A change of the data of a span.  It does not look at the identity and at the
parent, and only attributes, events, status and end change. -/
structure DataOnly (f : Span → Span) : Prop where
  apart : ∀ span identity parent,
    f { span with identity, parent } = { f span with identity, parent }
  keeps : ∀ span, ∃ attributes events status ended,
    f span = { span with attributes, events, status, ended }

namespace DataOnly

theorem withAttributes (more : Fields) : DataOnly (·.withAttributes more) :=
  ⟨fun _ _ _ => rfl, fun span => ⟨_, span.events, span.status, span.ended, rfl⟩⟩

theorem withEvent (name : String) (attributes : Fields) :
    DataOnly (·.withEvent name attributes) :=
  ⟨fun _ _ _ => rfl, fun span => ⟨span.attributes, _, span.status, span.ended, rfl⟩⟩

theorem withError (description : String) : DataOnly (·.withError description) :=
  ⟨fun _ _ _ => rfl, fun span => ⟨span.attributes, span.events, _, span.ended, rfl⟩⟩

theorem finished : DataOnly Span.finished :=
  ⟨fun _ _ _ => rfl, fun span => ⟨span.attributes, span.events, span.status, _, rfl⟩⟩

end DataOnly

namespace Journal

/-! ## Elementary writes -/

/-- A journal comes from another by operations on entries with a property. -/
inductive Writes (P : Nat → Prop) (j : Journal) : Journal → Prop where
  | refl : Writes P j j
  | noted {j' : Journal} (h : Writes P j j') (op : Operation) {r : SpanRef} {i : Nat}
      (hentry : r.entry = some i) (hi : P i) : Writes P j (j'.noted op r)
  | updated {j' : Journal} (h : Writes P j j') {f : Span → Span} (hf : DataOnly f) {i : Nat}
      (hi : P i) : Writes P j (j'.update i f)
  | closed {j' : Journal} (h : Writes P j j') {i : Nat} {span : Span} (current : Nat) (hi : P i)
      (hspan : j'.spans[i]? = some span) : Writes P j (j'.closed i span current)
  | opened {j' : Journal} (h : Writes P j j') (t : Tracer) (name : String) (parent : Context)
      (kind : Kind) (attributes : Fields) :
      Writes P j (j'.opened t name parent kind attributes).2

/-- An end is recorded only of a span that was started. -/
def Sound (j : Journal) : Prop := ∀ f ∈ j.finishes, f.entry < j.spans.length

/-- The entries of a list whose ends were recorded, in the order of their ends. -/
def endsAmong (j : Journal) (own : List Nat) : List Nat :=
  (j.finishes.map (·.entry)).filter (· ∈ own)

/-- What was said of every span at its start still stands. -/
def Retains (j j' : Journal) : Prop :=
  ∀ (i : Nat) (span : Span), j.spans[i]? = some span → ∃ attributes events status ended,
    j'.spans[i]? = some { span with attributes, events, status, ended }

theorem sound_empty : Sound empty := by
  intro f hf
  exact absurd hf List.not_mem_nil

/-- No end of a span that is started next was recorded before. -/
theorem Sound.endsAmong_concat {j : Journal} (h : j.Sound) (own : List Nat) :
    j.endsAmong (own ++ [j.spans.length]) = j.endsAmong own := by
  refine List.filter_congr fun i hi => ?_
  obtain ⟨f, hf, rfl⟩ := List.mem_map.1 hi
  have hne : f.entry ≠ j.spans.length := Nat.ne_of_lt (h f hf)
  simp [hne]

theorem Retains.refl (j : Journal) : Retains j j :=
  fun _ span hspan => ⟨span.attributes, span.events, span.status, span.ended, hspan⟩

theorem Retains.trans {j j' j'' : Journal} (h : Retains j j') (h' : Retains j' j'') :
    Retains j j'' := by
  intro i span hspan
  obtain ⟨attributes, events, status, ended, hspan'⟩ := h i span hspan
  obtain ⟨attributes', events', status', ended', hspan''⟩ := h' i _ hspan'
  exact ⟨attributes', events', status', ended', hspan''⟩

theorem acts_closed (j : Journal) (i : Nat) (span : Span) (current : Nat) :
    (j.closed i span current).acts = j.acts := by
  simp only [closed]
  split <;> rfl

theorem length_closed (j : Journal) (i : Nat) (span : Span) (current : Nat) :
    (j.closed i span current).spans.length = j.spans.length := by
  simp only [closed]
  split
  · rfl
  · exact length_spans_update ..

namespace Writes

variable {P Q : Nat → Prop} {j j' j'' : Journal} {i : Nat} {own : List Nat}

theorem trans (h : Writes P j j') (h' : Writes P j' j'') : Writes P j j'' := by
  induction h' with
  | refl => exact h
  | noted _ op hentry hi ih => exact .noted ih op hentry hi
  | updated _ hf hi ih => exact .updated ih hf hi
  | closed _ current hi hspan ih => exact .closed ih current hi hspan
  | opened _ t name parent kind attributes ih => exact .opened ih t name parent kind attributes

theorem mono (h : Writes P j j') (hPQ : ∀ i, P i → Q i) : Writes Q j j' := by
  induction h with
  | refl => exact .refl
  | noted _ op hentry hi ih => exact .noted ih op hentry (hPQ _ hi)
  | updated _ hf hi ih => exact .updated ih hf (hPQ _ hi)
  | closed _ current hi hspan ih => exact .closed ih current (hPQ _ hi) hspan
  | opened _ t name parent kind attributes ih => exact .opened ih t name parent kind attributes

theorem length_le (h : Writes P j j') : j.spans.length ≤ j'.spans.length := by
  induction h with
  | refl => exact Nat.le_refl _
  | noted _ _ _ _ ih => exact ih
  | updated _ _ _ ih =>
    rw [length_spans_update]
    exact ih
  | closed _ _ _ _ ih =>
    rw [length_closed]
    exact ih
  | opened _ t name parent kind attributes ih =>
    rw [length_opened]
    omega

theorem sound (h : Writes P j j') (hj : j.Sound) : j'.Sound := by
  induction h with
  | refl => exact hj
  | noted _ _ _ _ ih => exact ih
  | updated _ _ _ ih =>
    intro f hf
    rw [length_spans_update]
    exact ih f hf
  | @closed j' _ i span current _ hspan ih =>
    intro f hf
    rw [length_closed]
    simp only [Journal.closed] at hf
    split at hf
    · exact ih f hf
    · -- The end that is added is that of the entry that is closed.
      have hi : i < j'.spans.length := (List.getElem?_eq_some_iff.1 hspan).1
      dsimp only at hf
      split at hf
      · rcases List.mem_append.1 hf with hf | hf
        · exact ih f hf
        · rw [List.mem_singleton.1 hf]
          exact hi
      · exact ih f hf
  | opened _ t name parent kind attributes ih =>
    intro f hf
    rw [length_opened]
    have := ih f hf
    omega

theorem retains (h : Writes P j j') : Retains j j' := by
  induction h with
  | refl => exact .refl j
  | noted _ _ _ _ ih => exact ih
  | @updated j' _ f hf i _ ih =>
    refine ih.trans fun k span hspan => ?_
    by_cases hk : i = k
    · subst hk
      obtain ⟨attributes, events, status, ended, hkeeps⟩ := hf.keeps span
      refine ⟨attributes, events, status, ended, ?_⟩
      rw [← hkeeps, update, List.getElem?_modify_eq, hspan]
      rfl
    · rw [update, List.getElem?_modify_ne _ _ hk]
      exact Retains.refl j' k span hspan
  | @closed j' _ i span _ _ hspan ih =>
    refine ih.trans fun k other hother => ?_
    by_cases hk : i = k
    · subst hk
      obtain rfl := Option.some.inj (hspan.symm.trans hother)
      exact ⟨span.attributes, span.events, span.status, true, getElem?_closed_self hspan _⟩
    · rw [getElem?_closed_of_ne _ hk]
      exact Retains.refl j' k other hother
  | @opened j' _ t name parent kind attributes ih =>
    refine ih.trans fun k span hspan => ?_
    have hlt := (List.getElem?_eq_some_iff.1 hspan).1
    rw [getElem?_opened, if_neg (by omega)]
    exact Retains.refl j' k span hspan

/-- Nothing happens to an entry that is not written to. -/
theorem same (h : Writes P j j') (hi : ¬ P i) (hlt : i < j.spans.length) : Same j j' i := by
  induction h with
  | refl => exact .refl j i
  | noted _ op hentry hk ih =>
    refine ih.trans ⟨rfl, ?_, rfl⟩
    rw [endsOf_noted, if_neg]
    · rfl
    · rintro ⟨-, hi'⟩
      obtain rfl := Option.some.inj (hentry.symm.trans hi')
      exact hi hk
  | @updated _ _ _ _ k hk ih =>
    have hne : k ≠ i := fun h => hi (h ▸ hk)
    exact ih.trans ⟨List.getElem?_modify_ne _ _ hne, rfl, rfl⟩
  | @closed _ _ k _ _ hk _ ih =>
    have hne : k ≠ i := fun h => hi (h ▸ hk)
    refine ih.trans ⟨getElem?_closed_of_ne _ hne .., endsOf_closed .., ?_⟩
    exact exportsOf_closed_of_ne _ hne ..
  | opened h t name parent kind attributes ih =>
    have hle := h.length_le
    exact ih.trans (same_opened _ t name parent kind attributes (by omega))

/-- The ends of entries that are not written to stay in their order. -/
theorem endsAmong_eq (h : Writes P j j') (hown : ∀ i ∈ own, ¬ P i) :
    j'.endsAmong own = j.endsAmong own := by
  induction h with
  | refl => rfl
  | noted _ _ _ _ ih | updated _ _ _ ih | opened _ _ _ _ _ _ ih => exact ih
  | @closed j' _ k span _ hk _ ih =>
    have hk : k ∉ own := fun hmem => hown k hmem hk
    rw [← ih]
    simp only [Journal.closed, endsAmong]
    split
    · rfl
    · dsimp only
      split
      · simp [hk]
      · rfl

/-- Whatever is asked of a span is asked of one that is written to. -/
theorem acts (h : Writes P j j') :
    ∃ more, j'.acts = j.acts ++ more ∧ ∀ a ∈ more, ∃ i, a.span.entry = some i ∧ P i := by
  induction h with
  | refl => exact ⟨[], (List.append_nil _).symm, fun a ha => absurd ha List.not_mem_nil⟩
  | @noted _ _ op r i hentry hi ih =>
    obtain ⟨more, hacts, hmore⟩ := ih
    refine ⟨more ++ [{ operation := op, span := r }], ?_, ?_⟩
    · rw [Journal.noted, hacts, List.append_assoc]
    · intro a ha
      rcases List.mem_append.1 ha with ha | ha
      · exact hmore a ha
      · rw [List.mem_singleton.1 ha]
        exact ⟨i, hentry, hi⟩
  | updated _ _ _ ih | opened _ _ _ _ _ _ ih => exact ih
  | closed _ _ _ _ ih =>
    rw [acts_closed]
    exact ih

end Writes

/-! ## The operations of the observer -/

section

variable {P : Nat → Prop} {j : Journal} {r : SpanRef} {c : Context} {i : Nat}

theorem writes_record {op : Operation} {f : Span → Span} (hentry : r.entry = some i) (hi : P i)
    (hf : DataOnly f) : Writes P j (j.settled (j.record r op f)) := by
  cases hfound : j.find? r with
  | none =>
    simp only [record, hfound]
    exact .noted .refl op hentry hi
  | some e =>
    obtain ⟨k, span⟩ := e
    obtain rfl := Option.some.inj (hentry.symm.trans (find?_eq_some hfound).1)
    by_cases hop : span.refuses op = true
    · simp only [record, hfound, hop, if_true]
      exact .refl
    · rw [record_of_found f hfound (by simpa using hop)]
      show Writes P j (if span.isRecording then _ else _)
      split
      · exact .updated (.noted .refl op hentry hi) hf hi
      · exact .noted .refl op hentry hi

theorem writes_finish (hentry : r.entry = some i) (hi : P i) (current : Nat) :
    Writes P j (j.settled (j.finish r current)) := by
  cases hfound : j.find? r with
  | none =>
    simp only [finish, hfound]
    exact .noted .refl .finish hentry hi
  | some e =>
    obtain ⟨k, span⟩ := e
    obtain ⟨hk, hspan⟩ := find?_eq_some hfound
    obtain rfl := Option.some.inj (hentry.symm.trans hk)
    by_cases hop : span.refuses .finish = true
    · simp only [finish, hfound, hop, if_true]
      exact .refl
    · rw [finish_of_found current hfound (by simpa using hop)]
      exact .closed (.noted .refl .finish hentry hi) current hi hspan

theorem writes_failed (hentry : r.entry = some i) (hi : P i) (description : String)
    (current : Nat) : Writes P j (j.failed r description current) := by
  have hmarked : Writes P j (j.settled (j.setError r description)) :=
    writes_record hentry hi (.withError description)
  rw [failed]
  cases hstatus : j.setError r description with
  | error refusal => exact .refl
  | ok marked =>
    rw [hstatus] at hmarked
    exact hmarked.trans (writes_finish hentry hi current)

theorem writes_annotated (v : Visit) (hentry : c.current.entry = some i) (hi : P i) :
    Writes P j (j.annotated v c) := by
  simp only [annotated]
  split
  · exact writes_record hentry hi (.withAttributes _)
  · exact .refl

theorem writes_released (hentry : c.current.entry = some i) (hi : P i) :
    Writes P j (j.released c) :=
  writes_finish hentry hi _

end

end Journal

/-- An entry of the slots that the observer owns holds a span with a property. -/
def Observer.HoldsOnly (o : Observer) (P : Nat → Prop) (e : Slot × Context) : Prop :=
  o.owns e.1 = true → ∃ i, e.2.current.entry = some i ∧ P i

theorem Observer.writes_abandonAll {o : Observer} {P : Nat → Prop} {left : List (Slot × Context)}
    (h : ∀ e ∈ left, o.HoldsOnly P e) (current : Nat) (j : Journal) :
    j.Writes P (o.abandonAll current j left) := by
  induction left generalizing j with
  | nil => exact .refl
  | cons e left ih =>
    rw [abandonAll, List.foldl_cons]
    refine Journal.Writes.trans ?_ (ih (fun e' he' => h e' (List.mem_cons_of_mem _ he')) _)
    split
    · next howns =>
      obtain ⟨i, hentry, hi⟩ := h e (List.mem_cons_self ..) howns
      exact Journal.writes_failed hentry hi ..
    · exact .refl

theorem Observer.owns_of_ne {o : Observer} {k : Slot} (h : k ≠ .request) : o.owns k = true := by
  simp [owns, h]

theorem SlotTree.mem_of_get? {t : SlotTree} {k : Slot} {c : Context} (h : t.get? k = some c) :
    (k, c) ∈ t.slots := by
  obtain ⟨before, after, hslots, -⟩ := List.lookup_eq_some_iff.1 h
  rw [hslots]
  simp

namespace Session

variable {s : Session} {v : Visit} {P : Nat → Prop}

/-- A visit writes to the spans of the owned slots and to the one that it
starts. -/
theorem writes_next (hslots : ∀ e ∈ s.tree.slots, s.observer.HoldsOnly P e)
    (hnew : P s.journal.spans.length) (v : Visit) :
    s.journal.Writes P (s.next v).journal := by
  show s.journal.Writes P (s.answer v).backend.journal
  cases move_answer s v with
  | rest _ _ _ _ hjournal | joined _ _ _ _ hjournal | barred _ _ _ _ _ hjournal =>
    rw [hjournal]
    exact .refl
  | @opened k name parent attributes _ _ _ _ hjournal =>
    rw [hjournal]
    exact .opened .refl ..
  | @rejected k name parent attributes _ _ _ _ _ hjournal =>
    rw [hjournal]
    exact (Journal.Writes.opened .refl ..).trans (Journal.writes_failed rfl hnew ..)
  | @left k c hleft hget _ hjournal =>
    rw [hjournal]
    by_cases howns : s.observer.owns k = true
    · obtain ⟨i, hentry, hi⟩ := hslots _ (SlotTree.mem_of_get? hget) howns
      rw [if_pos howns]
      exact (Journal.writes_annotated v hentry hi).trans (Journal.writes_released hentry hi)
    · -- The slot of the request is the only one that may not be owned.
      have hk : k ≠ .validation := by
        rintro rfl
        exact howns (Observer.owns_of_ne (by decide))
      rw [if_neg howns, Journal.annotated_of_left hleft hk]
      exact .refl
  | recorded _ hget _ _ hjournal =>
    have howns : s.observer.owns .execution = true := Observer.owns_of_ne (by decide)
    obtain ⟨i, hentry, hi⟩ := hslots _ (SlotTree.mem_of_get? hget) howns
    rw [hjournal]
    exact Journal.writes_record hentry hi (.withEvent _ _)
  | closed _ _ hjournal =>
    rw [hjournal]
    exact Observer.writes_abandonAll (fun e he => hslots e (List.mem_reverse.1 he)) ..

/-- The span that a visit starts is the one that it has to start: what is said of a
span at its start stands after the visit. -/
theorem span_of_starts {i : Nat} (hstarts : Starts i s v) :
    ∃ k name parent attributes, Opens s v k name parent attributes ∧
      ∃ more events status ended, (s.next v).journal.spans[i]? =
        some { s.journal.newSpan s.observer.tracer name parent .server attributes with
          attributes := more, events, status, ended } := by
  obtain rfl := hstarts.eq_length
  obtain ⟨k, name, parent, attributes, hopens, hstart⟩ := hstarts.opens
  have hspan := getElem?_started s name parent attributes
  refine ⟨k, name, parent, attributes, hopens, ?_⟩
  rcases next_of_opens hopens hstart with ⟨-, -, hjournal, -⟩ | ⟨-, -, hjournal, -⟩
  · rw [hjournal]
    exact Journal.Retains.refl _ _ _ hspan
  · have hwrites : (s.started name parent attributes).2.Writes (fun _ => True)
        (s.next v).journal := by
      rw [hjournal]
      exact Journal.writes_failed (entry_started s name parent attributes) trivial ..
    exact hwrites.retains _ _ hspan

end Session

end QueryTelemetry.Trace
