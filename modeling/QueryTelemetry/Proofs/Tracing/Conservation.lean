import Mathlib.Data.List.Induction
import Mathlib.Logic.ExistsUnique
import QueryTelemetry.Proofs.Tracing.Passage

/-!
# Every span is accounted for

A session whose requests bring the same outer context all the time is visited
by any calls in any order.  At every point of the run each span that it has
started has one of three fates (`Fate`): a slot holds it and it is open, it was
ended once, or another context took its slot and it stays open.  A sampled span
has an error status exactly if it was abandoned by a close or rejected as the
second span of a live slot.

`Conserved` is the invariant.  It follows from what a visit does to one span
(`Passage`, `Birth`).
-/

namespace QueryTelemetry.Trace.Session

/-! ## What happens in a run -/

/-- One of the visits of a run has a property in the session that it meets. -/
def Occurs (s₀ : Session) (vs : List Visit) (P : Session → Visit → Prop) : Prop :=
  ∃ before v after, vs = before ++ v :: after ∧ P (s₀.run before) v

/-- A close ends the open span of an entry. -/
def Abandons (i : Nat) (s : Session) (v : Visit) : Prop :=
  v.call = .close ∧ s.Open i ∧ (s.next v).Ended i

/-- A visit starts the span of an entry and ends it at once, because its slot
is live. -/
def Rejects (i : Nat) (s : Session) (v : Visit) : Prop :=
  Starts i s v ∧ (s.next v).Ended i ∧ ∃ k, (s.answer v).fault = some (SlotTree.alreadyLive k)

/-- The span of an entry was abandoned or rejected in a run. -/
def Failed (s₀ : Session) (vs : List Visit) (i : Nat) : Prop :=
  Occurs s₀ vs (Abandons i) ∨ Occurs s₀ vs (Rejects i)

section

variable {s₀ : Session} {vs : List Visit} {v : Visit} {i : Nat}

theorem occurs_concat (P : Session → Visit → Prop) :
    Occurs s₀ (vs ++ [v]) P ↔ Occurs s₀ vs P ∨ P (s₀.run vs) v := by
  constructor
  · rintro ⟨before, w, after, h, hw⟩
    rcases List.eq_nil_or_concat after with rfl | ⟨after, w', rfl⟩
    · obtain ⟨rfl, hv⟩ := List.append_inj' h rfl
      obtain rfl := List.singleton_inj.1 hv
      exact .inr hw
    · have h : vs ++ [v] = (before ++ w :: after) ++ [w'] := by simpa using h
      exact .inl ⟨before, w, after, (List.append_inj' h rfl).1, hw⟩
  · rintro (⟨before, w, after, rfl, hw⟩ | hv)
    · exact ⟨before, w, after ++ [v], by simp, hw⟩
    · exact ⟨vs, v, [], rfl, hv⟩

theorem failed_concat :
    Failed s₀ (vs ++ [v]) i ↔
      Failed s₀ vs i ∨ Abandons i (s₀.run vs) v ∨ Rejects i (s₀.run vs) v := by
  simp only [Failed, occurs_concat]
  exact or_or_or_comm

theorem length_le_run (s₀ : Session) (vs : List Visit) :
    s₀.journal.spans.length ≤ (s₀.run vs).journal.spans.length := by
  induction vs using List.reverseRecOn with
  | nil => exact Nat.le_refl _
  | append_singleton vs v ih =>
    rw [run_concat]
    rcases length_next (s₀.run vs) v with h | h <;> omega

/-- A span that was started in a run is there at its end. -/
theorem lt_length_of_occurs {P : Session → Visit → Prop} (h : Occurs s₀ vs P)
    (hstarts : ∀ s v, P s v → Starts i s v) : i < (s₀.run vs).journal.spans.length := by
  obtain ⟨before, w, after, rfl, hP⟩ := h
  have hlt := (hstarts _ _ hP).2
  have hle := length_le_run ((s₀.run before).next w) after
  rw [run_append]
  show i < (((s₀.run before).next w).run after).journal.spans.length
  omega

/-- A span that is there at the end of a run, and was not at its beginning, was
started in it. -/
theorem occurs_starts (hi : s₀.journal.spans.length ≤ i)
    (hlt : i < (s₀.run vs).journal.spans.length) : Occurs s₀ vs (Starts i) := by
  induction vs using List.reverseRecOn with
  | nil => exact absurd hlt (Nat.not_lt.2 hi)
  | append_singleton vs v ih =>
    rw [occurs_concat]
    rw [run_concat] at hlt
    rcases Nat.lt_or_ge i (s₀.run vs).journal.spans.length with hold | hnew
    · exact .inl (ih hold)
    · exact .inr ⟨hnew, hlt⟩

/-- Only spans that were started fail. -/
theorem lt_length_of_failed (h : Failed s₀ vs i) : i < (s₀.run vs).journal.spans.length := by
  have hended : ∃ before after, vs = before ++ after ∧ (s₀.run before).Ended i := by
    rcases h with ⟨before, v, after, rfl, -, -, hended⟩ | ⟨before, v, after, rfl, -, hended, -⟩
    · exact ⟨before ++ [v], after, by simp, by rwa [run_concat]⟩
    · exact ⟨before ++ [v], after, by simp, by rwa [run_concat]⟩
  obtain ⟨before, after, rfl, span, hspan, -⟩ := hended
  rw [run_append]
  exact Nat.lt_of_lt_of_le (List.getElem?_eq_some_iff.1 hspan).1 (length_le_run _ after)

end

/-! ## Fates -/

/-- What became of a span. -/
inductive Fate where
  | held (k : Slot)
  | ended
  | dropped
deriving DecidableEq, Repr

/-- The span of an entry has a fate after a run. -/
inductive HasFate (s₀ : Session) (vs : List Visit) (i : Nat) : Fate → Prop where
  /-- One slot holds the span, it is open and its end was never asked for. -/
  | held {k : Slot} (hslot : ∀ k', (s₀.run vs).Holds k' i ↔ k' = k) (hopen : (s₀.run vs).Open i)
      (hends : (s₀.run vs).journal.endsOf i = s₀.journal.endsOf i)
      (hexports : (s₀.run vs).journal.exportsOf i = s₀.journal.exportsOf i) :
      HasFate s₀ vs i (.held k)
  /-- No slot holds the span, and it was ended once. -/
  | ended (hslot : ∀ k, ¬ (s₀.run vs).Holds k i)
      (hended : ∃ span, (s₀.run vs).journal.spans[i]? = some span ∧ span.ended = true ∧
        (s₀.run vs).journal.exportsOf i =
          s₀.journal.exportsOf i + if span.identity.isSampled then 1 else 0)
      (hends : (s₀.run vs).journal.endsOf i = s₀.journal.endsOf i + 1) :
      HasFate s₀ vs i .ended
  /-- Another context took the slot of the span, which is open for ever. -/
  | dropped (hstrict : s₀.tree.strict = false) (hdrops : Occurs s₀ vs (Drops i))
      (hslot : ∀ k, ¬ (s₀.run vs).Holds k i) (hopen : (s₀.run vs).Open i)
      (hends : (s₀.run vs).journal.endsOf i = s₀.journal.endsOf i)
      (hexports : (s₀.run vs).journal.exportsOf i = s₀.journal.exportsOf i) :
      HasFate s₀ vs i .dropped

/-- A span has at most one fate. -/
theorem HasFate.unique {s₀ : Session} {vs : List Visit} {i : Nat} {fate fate' : Fate}
    (h : HasFate s₀ vs i fate) (h' : HasFate s₀ vs i fate') : fate' = fate := by
  cases h with
  | @held k hslot hopen =>
    cases h' with
    | @held k' hslot' => rw [(hslot k').1 ((hslot' k').2 rfl)]
    | ended hslot' | dropped _ _ hslot' => exact absurd ((hslot k).2 rfl) (hslot' k)
  | ended hslot hended =>
    obtain ⟨span, hspan, hended, -⟩ := hended
    cases h' with
    | @held k' hslot' => exact absurd ((hslot' k').2 rfl) (hslot k')
    | ended => rfl
    | dropped _ _ _ hopen' => exact absurd hopen' (not_open_of_ended ⟨span, hspan, hended⟩)
  | dropped _ _ hslot hopen =>
    cases h' with
    | @held k' hslot' => exact absurd ((hslot' k').2 rfl) (hslot k')
    | ended _ hended' =>
      obtain ⟨span, hspan, hended', -⟩ := hended'
      exact absurd hopen (not_open_of_ended ⟨span, hspan, hended'⟩)
    | dropped => rfl

section

variable {s s₀ : Session} {vs : List Visit} {v : Visit} {i : Nat}

theorem open_of_keeps {j : Journal} {b : Session} (h : j.Keeps b.journal i)
    (hopen : ∃ span, j.spans[i]? = some span ∧ span.ended = false) : b.Open i := by
  obtain ⟨span, hspan, hopen⟩ := hopen
  obtain ⟨attributes, events, hspan'⟩ := h.span span hspan
  exact ⟨_, hspan', hopen⟩

/-- A visit that does not start a span leads from one fate to another. -/
theorem HasFate.next {fate : Fate} (h : HasFate s₀ vs i fate)
    (hpassage : Passage (s₀.run vs) v i) :
    ∃ fate', HasFate s₀ (vs ++ [v]) i fate' := by
  cases h with
  | @held k hslot hopen hends hexports =>
    cases hpassage with
    | kept hkeeps hholds =>
      refine ⟨.held k, .held ?_ ?_ ?_ ?_⟩
      · rw [run_concat]
        exact fun k' => (hholds k').trans (hslot k')
      · rw [run_concat]
        exact open_of_keeps hkeeps hopen
      · rw [run_concat, hkeeps.ends, hends]
      · rw [run_concat, hkeeps.exports, hexports]
    | released _ _ hends' hholds =>
      obtain ⟨span, hspan, hopen⟩ := hopen
      obtain ⟨attributes, events, hspan'⟩ := hends'.span span hspan
      rw [← run_concat] at hspan'
      refine ⟨.ended, .ended ?_ ⟨_, hspan', rfl, ?_⟩ ?_⟩
      · rwa [run_concat]
      · rw [run_concat, hends'.exports span hspan hopen, hexports]
      · rw [run_concat, hends'.ends, hends]
    | abandoned _ _ hfails hholds =>
      obtain ⟨span, hspan, hopen⟩ := hopen
      obtain ⟨attributes, events, description, hspan'⟩ := hfails.span span hspan hopen
      rw [← run_concat] at hspan'
      refine ⟨.ended, .ended ?_ ⟨_, hspan', rfl, ?_⟩ ?_⟩
      · rwa [run_concat]
      · rw [run_concat, hfails.exports span hspan hopen, hexports]
      · rw [run_concat, hfails.ends, hends]
    | dropped _ hstrict hkeeps hdrops hholds =>
      refine ⟨.dropped, .dropped ?_ ((occurs_concat _).2 (.inr hdrops)) ?_ ?_ ?_ ?_⟩
      · rwa [strict_run] at hstrict
      · rwa [run_concat]
      · rw [run_concat]
        exact open_of_keeps hkeeps hopen
      · rw [run_concat, hkeeps.ends, hends]
      · rw [run_concat, hkeeps.exports, hexports]
  | ended hslot hended hends =>
    cases hpassage with
    | kept hkeeps hholds =>
      obtain ⟨span, hspan, hended, hexports⟩ := hended
      obtain ⟨attributes, events, hspan'⟩ := hkeeps.span span hspan
      rw [← run_concat] at hspan'
      refine ⟨.ended, .ended ?_ ⟨_, hspan', hended, ?_⟩ ?_⟩
      · rw [run_concat]
        exact fun k => mt (hholds k).1 (hslot k)
      · rw [run_concat, hkeeps.exports, hexports]
      · rw [run_concat, hkeeps.ends, hends]
    | @released k hheld | @abandoned k hheld | @dropped k hheld => exact absurd hheld (hslot k)
  | dropped hstrict hdrops hslot hopen hends hexports =>
    cases hpassage with
    | kept hkeeps hholds =>
      refine ⟨.dropped, .dropped hstrict ((occurs_concat _).2 (.inl hdrops)) ?_ ?_ ?_ ?_⟩
      · rw [run_concat]
        exact fun k => mt (hholds k).1 (hslot k)
      · rw [run_concat]
        exact open_of_keeps hkeeps hopen
      · rw [run_concat, hkeeps.ends, hends]
      · rw [run_concat, hkeeps.exports, hexports]
    | @released k hheld | @abandoned k hheld | @dropped k hheld => exact absurd hheld (hslot k)

/-- A span has a fate as soon as it was started. -/
theorem Birth.fate (h : Birth (s₀.run vs) v i)
    (hends : (s₀.run vs).journal.endsOf i = s₀.journal.endsOf i)
    (hexports : (s₀.run vs).journal.exportsOf i = s₀.journal.exportsOf i) :
    ∃ fate, HasFate s₀ (vs ++ [v]) i fate := by
  cases h with
  | @kept k _ _ _ hopens hspan hends' hexports' hholds =>
    rw [← run_concat] at hspan
    refine ⟨.held k, .held ?_ ⟨_, hspan, rfl⟩ ?_ ?_⟩
    · rwa [run_concat]
    · rw [run_concat, hends', hends]
    · rw [run_concat, hexports', hexports]
  | rejected hopens hstrict hspan hfails hfault hholds =>
    obtain ⟨attributes, events, description, hspan'⟩ := hfails.span _ hspan rfl
    rw [← run_concat] at hspan'
    refine ⟨.ended, .ended ?_ ⟨_, hspan', rfl, ?_⟩ ?_⟩
    · rwa [run_concat]
    · rw [run_concat, hfails.exports _ hspan rfl]
      exact congrArg (· + _) hexports
    · rw [run_concat, hfails.ends]
      exact congrArg (· + 1) hends

end

/-! ## The invariant -/

/-- A session that has not been visited yet and can account for its spans: no
slot is live, the outer context is none of the spans to come, and the tracer
refuses neither a status nor an end. -/
structure Ready (outer : Option Context) (s : Session) : Prop where
  slots : s.tree.slots = []
  joined : s.observer.joined = false
  foreign : Foreign s.journal.spans.length outer
  status : s.observer.tracer.Allows .setStatus
  finish : s.observer.tracer.Allows .finish

/-- The status of a span says whether it failed. -/
def Judged (failed : Prop) (span : Span) : Prop :=
  (¬ failed → span.status = .unset) ∧
    (failed → span.identity.isSampled = true → ∃ description, span.status = .error description)

/-- The invariant of a run. -/
structure Conserved (outer : Option Context) (s₀ : Session) (vs : List Visit) : Prop where
  orderly : Orderly s₀.journal.spans.length outer (s₀.run vs)
  future : ∀ i, (s₀.run vs).journal.spans.length ≤ i →
    (s₀.run vs).journal.endsOf i = s₀.journal.endsOf i ∧
      (s₀.run vs).journal.exportsOf i = s₀.journal.exportsOf i
  fate : ∀ i, s₀.journal.spans.length ≤ i → i < (s₀.run vs).journal.spans.length →
    ∃ fate, HasFate s₀ vs i fate
  judged : ∀ i span, s₀.journal.spans.length ≤ i → (s₀.run vs).journal.spans[i]? = some span →
    Judged (Failed s₀ vs i) span

section

variable {outer : Option Context} {s₀ : Session} {vs : List Visit} {v : Visit} {i : Nat}

theorem HasFate.open_of_holds {fate : Fate} {k : Slot} (h : HasFate s₀ vs i fate)
    (hheld : (s₀.run vs).Holds k i) : (s₀.run vs).Open i := by
  cases h with
  | held _ hopen => exact hopen
  | ended hslot | dropped _ _ hslot => exact absurd hheld (hslot k)

theorem Ready.orderly (h : Ready outer s₀) :
    Orderly s₀.journal.spans.length outer s₀ := by
  have hget : ∀ k c, s₀.tree.get? k ≠ some c := by
    intro k c
    simp [SlotTree.get?, h.slots, Assoc.get?]
  refine ⟨?_, Nat.le_refl _, ?_, fun k c hk => absurd hk (hget k c), ?_⟩
  · simp [SlotTree.keys, h.slots, Assoc.keys]
  · intro hjoined
    exact absurd (h.joined.symm.trans hjoined) (by decide)
  · rintro k k' i - ⟨c, hk, -⟩
    exact absurd hk (hget k c)

theorem not_rejects (h : ¬ Starts i (s₀.run vs) v) : ¬ Rejects i (s₀.run vs) v :=
  fun hrejects => h hrejects.1

theorem failed_concat_of_keeps (hstarts : ¬ Starts i (s₀.run vs) v)
    (hkeeps : (s₀.run vs).journal.Keeps ((s₀.run vs).next v).journal i) :
    Failed s₀ (vs ++ [v]) i ↔ Failed s₀ vs i := by
  have habandons : ¬ Abandons i (s₀.run vs) v := by
    rintro ⟨-, hopen, hended⟩
    exact not_open_of_ended hended (open_of_keeps hkeeps hopen)
  rw [failed_concat]
  exact or_iff_left (fun h => h.elim habandons (not_rejects hstarts))

/-- What a visit does to the status of a span that it does not start. -/
theorem Conserved.judged_next {span' : Span} (h : Conserved outer s₀ vs)
    (hi : s₀.journal.spans.length ≤ i) (hstarts : ¬ Starts i (s₀.run vs) v)
    (hpassage : Passage (s₀.run vs) v i)
    (hspan' : ((s₀.run vs).next v).journal.spans[i]? = some span') :
    Judged (Failed s₀ (vs ++ [v]) i) span' := by
  have hlt : i < (s₀.run vs).journal.spans.length := by
    have hlt' := (List.getElem?_eq_some_iff.1 hspan').1
    exact Nat.lt_of_not_le fun hle => hstarts ⟨hle, hlt'⟩
  obtain ⟨span, hspan⟩ : ∃ span, (s₀.run vs).journal.spans[i]? = some span :=
    ⟨_, List.getElem?_eq_getElem hlt⟩
  have hjudged := h.judged i span hi hspan
  cases hpassage with
  | kept hkeeps | dropped _ _ hkeeps =>
    rw [failed_concat_of_keeps hstarts hkeeps]
    obtain ⟨attributes, events, hkept⟩ := hkeeps.span span hspan
    obtain rfl := Option.some.inj (hkept.symm.trans hspan')
    exact hjudged
  | released _ hcall hends =>
    have hfailed : Failed s₀ (vs ++ [v]) i ↔ Failed s₀ vs i := by
      rw [failed_concat]
      exact or_iff_left (fun h => h.elim (fun h => hcall h.1) (not_rejects hstarts))
    rw [hfailed]
    obtain ⟨attributes, events, hkept⟩ := hends.span span hspan
    obtain rfl := Option.some.inj (hkept.symm.trans hspan')
    exact hjudged
  | abandoned hheld hcall hfails =>
    obtain ⟨fate, hfate⟩ := h.fate i hi hlt
    obtain ⟨span₁, hspan₁, hended⟩ := hfate.open_of_holds hheld
    obtain rfl := Option.some.inj (hspan.symm.trans hspan₁)
    obtain ⟨attributes, events, description, hkept⟩ := hfails.span span hspan hended
    obtain rfl := Option.some.inj (hkept.symm.trans hspan')
    have hfailed : Failed s₀ (vs ++ [v]) i :=
      failed_concat.2 (.inr (.inl ⟨hcall, ⟨span, hspan, hended⟩, _, hspan', rfl⟩))
    refine ⟨fun hnot => absurd hfailed hnot, fun _ hsampled => ⟨description, ?_⟩⟩
    exact if_pos hsampled

/-- The status of a span right after it was started. -/
theorem judged_birth {span' : Span} (hstarts : Starts i (s₀.run vs) v)
    (hbirth : Birth (s₀.run vs) v i)
    (hspan' : ((s₀.run vs).next v).journal.spans[i]? = some span') :
    Judged (Failed s₀ (vs ++ [v]) i) span' := by
  cases hbirth with
  | kept _ hspan =>
    obtain rfl := Option.some.inj (hspan.symm.trans hspan')
    have hfailed : ¬ Failed s₀ (vs ++ [v]) i := by
      rw [failed_concat]
      rintro (hfailed | ⟨-, ⟨span, hspan₀, -⟩, -⟩ | ⟨-, hended, -⟩)
      · exact absurd (lt_length_of_failed hfailed) (Nat.not_lt.2 hstarts.1)
      · exact absurd (List.getElem?_eq_some_iff.1 hspan₀).1 (Nat.not_lt.2 hstarts.1)
      · exact not_open_of_ended hended ⟨_, hspan', rfl⟩
    exact ⟨fun _ => rfl, fun h => absurd h hfailed⟩
  | @rejected k _ _ _ _ _ hspan hfails hfault =>
    obtain ⟨attributes, events, description, hkept⟩ := hfails.span _ hspan rfl
    obtain rfl := Option.some.inj (hkept.symm.trans hspan')
    have hfailed : Failed s₀ (vs ++ [v]) i :=
      failed_concat.2 (.inr (.inr ⟨hstarts, ⟨_, hspan', rfl⟩, k, hfault⟩))
    refine ⟨fun hnot => absurd hfailed hnot, fun _ hsampled => ⟨description, ?_⟩⟩
    exact if_pos hsampled

/-- A visit keeps the invariant. -/
theorem Conserved.next (h : Conserved outer s₀ vs) (hready : Ready outer s₀)
    (houter : v.outer = outer) : Conserved outer s₀ (vs ++ [v]) := by
  have hstatus : (s₀.run vs).observer.tracer.Allows .setStatus := by
    rw [tracer_run]
    exact hready.status
  have hfinish : (s₀.run vs).observer.tracer.Allows .finish := by
    rw [tracer_run]
    exact hready.finish
  have hpassage : ∀ i, s₀.journal.spans.length ≤ i → ¬ Starts i (s₀.run vs) v →
      Passage (s₀.run vs) v i :=
    fun i hi => passage_next h.orderly hready.foreign houter hstatus hfinish hi
  have hbirth : ∀ i, Starts i (s₀.run vs) v → Birth (s₀.run vs) v i :=
    fun i => birth_next h.orderly hready.foreign hstatus hfinish
  refine ⟨?_, ?_, ?_, ?_⟩
  · rw [run_concat]
    exact h.orderly.next hready.foreign houter hstatus hfinish
  · rw [run_concat]
    intro i hlt
    have hle : (s₀.run vs).journal.spans.length ≤ i := by
      rcases length_next (s₀.run vs) v with hlength | hlength <;> omega
    have hpassage := hpassage i (Nat.le_trans h.orderly.base hle)
      (fun hstarts => absurd hstarts.2 (Nat.not_lt.2 hlt))
    obtain ⟨hends, hexports⟩ := h.future i hle
    cases hpassage with
    | kept hkeeps => exact ⟨hkeeps.ends.trans hends, hkeeps.exports.trans hexports⟩
    | released hheld | abandoned hheld | dropped hheld =>
      exact absurd hheld (h.orderly.not_holds hready.foreign hle _)
  · rw [run_concat]
    intro i hi hlt
    by_cases hstarts : Starts i (s₀.run vs) v
    · obtain ⟨hends, hexports⟩ := h.future i hstarts.1
      exact (hbirth i hstarts).fate hends hexports
    · have hlt : i < (s₀.run vs).journal.spans.length :=
        Nat.lt_of_not_le fun hle => hstarts ⟨hle, hlt⟩
      obtain ⟨fate, hfate⟩ := h.fate i hi hlt
      exact hfate.next (hpassage i hi hstarts)
  · rw [run_concat]
    intro i span hi hspan
    by_cases hstarts : Starts i (s₀.run vs) v
    · exact judged_birth hstarts (hbirth i hstarts) hspan
    · exact h.judged_next hi hstarts (hpassage i hi hstarts) hspan

end

/-! ## The account -/

end QueryTelemetry.Trace.Session
