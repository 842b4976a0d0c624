import Mathlib.Data.List.Forall2
import Mathlib.Data.List.Nodup
import QueryTelemetry.Proofs.Tracing.Writes

/-!
# Journals that mirror one another

Two journals may hold the same spans under other ids, and each of them may hold
more.  `Mirrors` says so for the spans of a list of pairs of entries: the spans
of a pair differ in their ids only, they were started in the same order and
ended in the same order, and their parents correspond.  The parents of a pair
are both missing, or they are the same span that was brought from outside, or
they are the spans of a pair again, and in the last two cases the trace is that
of the parent.

The lemmas say that the relation is kept when the same operation is done to both
spans of a pair (`Mirrors.record`, `Mirrors.finish`, `Mirrors.failed`), when a
span is started on both sides below contexts that are alike (`Mirrors.opened`),
and when one of the journals is written to elsewhere (`Mirrors.writes`).
-/

namespace QueryTelemetry.Trace

/-! ## Spans that are the same up to their ids -/

/-- Pairs of entries, the first of one journal and the second of another. -/
abbrev Pairing := List (Nat × Nat)

/-- The entries of the first journal. -/
def Pairing.left (m : Pairing) : List Nat := m.map (·.1)

/-- The entries of the second journal. -/
def Pairing.right (m : Pairing) : List Nat := m.map (·.2)

theorem Pairing.left_concat (m : Pairing) (p : Nat × Nat) :
    Pairing.left (m ++ [p]) = m.left ++ [p.1] := List.map_append

theorem Pairing.right_concat (m : Pairing) (p : Nat × Nat) :
    Pairing.right (m ++ [p]) = m.right ++ [p.2] := List.map_append

/-- The identity of the span of an entry. -/
def Journal.identity? (j : Journal) (i : Nat) : Option Identity :=
  (j.spans[i]?).map (·.identity)

/-- Two spans differ in nothing but their ids and their parents. -/
structure SameData (span span' : Span) : Prop where
  data : span' = { span with identity := span'.identity, parent := span'.parent }
  identity : span'.identity =
    { span.identity with
      traceId := span'.identity.traceId, spanId := span'.identity.spanId }
  valid : span.identity.isValid = true
  valid' : span'.identity.isValid = true

/-- Two spans have corresponding parents. -/
inductive SameParent (brought : Context → Prop) (m : Pairing) (j j' : Journal)
    (span span' : Span) : Prop where
  | root (hspan : span.parent = none) (hspan' : span'.parent = none)
  | outer {c : Context} (hc : brought c) (hspan : span.parent = some c.identity)
      (hspan' : span'.parent = some c.identity)
      (htrace : span.identity.traceId = c.identity.traceId)
      (htrace' : span'.identity.traceId = c.identity.traceId)
  | own {p : Nat × Nat} {above above' : Identity} (hp : p ∈ m)
      (habove : j.identity? p.1 = some above) (habove' : j'.identity? p.2 = some above')
      (hspan : span.parent = some above) (hspan' : span'.parent = some above')
      (htrace : span.identity.traceId = above.traceId)
      (htrace' : span'.identity.traceId = above'.traceId)

/-- The paired spans of two journals are the same up to their ids. -/
structure Mirrors (brought : Context → Prop) (m : Pairing) (j j' : Journal) : Prop where
  rising : m.Pairwise fun p q => p.1 < q.1 ∧ p.2 < q.2
  sound : j.Sound
  sound' : j'.Sound
  span : ∀ p ∈ m, ∃ span span', j.spans[p.1]? = some span ∧ j'.spans[p.2]? = some span' ∧
    SameData span span' ∧ SameParent brought m j j' span span'
  ends : List.Forall₂ (fun i i' => (i, i') ∈ m) (j.endsAmong m.left) (j'.endsAmong m.right)

/-- The spans of some entries of a journal and those of some entries of another
are the same up to their ids, one by one. -/
def SameSpans (brought : Context → Prop) (j : Journal) (own : List Nat) (j' : Journal)
    (own' : List Nat) : Prop :=
  ∃ m : Pairing, m.left = own ∧ m.right = own' ∧ Mirrors brought m j j'

namespace SameData

variable {span span' : Span}

theorem refuses (h : SameData span span') (op : Operation) :
    span'.refuses op = span.refuses op := by
  rw [h.data]
  rfl

theorem ended (h : SameData span span') : span'.ended = span.ended := by
  rw [h.data]

theorem isSampled (h : SameData span span') :
    span'.identity.isSampled = span.identity.isSampled := by
  rw [h.identity]
  rfl

theorem isRecording (h : SameData span span') : span'.isRecording = span.isRecording := by
  rw [Span.isRecording, Span.isRecording, h.isSampled, h.ended]

/-- Spans stay the same when the same is done to their data. -/
theorem apply (h : SameData span span') {f : Span → Span} (hf : DataOnly f) :
    SameData (f span) (f span') := by
  obtain ⟨attributes, events, status, ended, hspan⟩ := hf.keeps span
  obtain ⟨attributes', events', status', ended', hspan'⟩ := hf.keeps span'
  have hidentity : (f span).identity = span.identity := by rw [hspan]
  have hidentity' : (f span').identity = span'.identity := by rw [hspan']
  have hparent' : (f span').parent = span'.parent := by rw [hspan']
  refine ⟨?_, ?_, ?_, ?_⟩
  · rw [hidentity', hparent', ← hf.apart, ← h.data]
  · rw [hidentity, hidentity']
    exact h.identity
  · rw [hidentity]
    exact h.valid
  · rw [hidentity']
    exact h.valid'

end SameData

theorem Journal.Retains.identity? {j j' : Journal} (h : j.Retains j') {i : Nat}
    {identity : Identity} (hi : j.identity? i = some identity) :
    j'.identity? i = some identity := by
  obtain ⟨span, hspan, rfl⟩ := Option.map_eq_some_iff.1 hi
  obtain ⟨attributes, events, status, ended, hspan'⟩ := h i span hspan
  rw [Journal.identity?, hspan']
  rfl

/-- Parents go on corresponding while journals grow. -/
theorem SameParent.grow {brought brought' : Context → Prop} {m m' : Pairing}
    {j j' j₁ j₁' : Journal} {span span' span₁ span₁' : Span}
    (h : SameParent brought m j j' span span') (hbrought : ∀ c, brought c → brought' c)
    (hm : m ⊆ m') (hretains : j.Retains j₁) (hretains' : j'.Retains j₁')
    (hidentity : span₁.identity = span.identity) (hparent : span₁.parent = span.parent)
    (hidentity' : span₁'.identity = span'.identity) (hparent' : span₁'.parent = span'.parent) :
    SameParent brought' m' j₁ j₁' span₁ span₁' := by
  cases h with
  | root hspan hspan' => exact .root (hparent.trans hspan) (hparent'.trans hspan')
  | outer hc hspan hspan' htrace htrace' =>
    refine .outer (hbrought _ hc) (hparent.trans hspan) (hparent'.trans hspan') ?_ ?_
    · rw [hidentity, htrace]
    · rw [hidentity', htrace']
  | own hp habove habove' hspan hspan' htrace htrace' =>
    refine .own (hm hp) (hretains.identity? habove) (hretains'.identity? habove')
      (hparent.trans hspan) (hparent'.trans hspan') ?_ ?_
    · rw [hidentity, htrace]
    · rw [hidentity', htrace']

/-! ## Contexts that are alike -/

/-- The current span of a context is that of an entry. -/
def Journal.Carries (j : Journal) (c : Context) (i : Nat) : Prop :=
  c.current.entry = some i ∧ j.identity? i = some c.identity

/-- Two contexts are alike: their current spans are paired, or they are one
context that was brought from outside or is empty. -/
inductive Alike (brought : Context → Prop) (m : Pairing) (j j' : Journal) :
    Context → Context → Prop where
  | own {c c' : Context} {p : Nat × Nat} (hp : p ∈ m) (hc : j.Carries c p.1)
      (hc' : j'.Carries c' p.2) : Alike brought m j j' c c'
  | given {c : Context} (hc : brought c ∨ c = .empty) : Alike brought m j j' c c

/-! ## What keeps the relation -/

namespace Mirrors

variable {brought : Context → Prop} {m : Pairing} {j j' j₁ j₁' : Journal} {p q : Nat × Nat}

theorem nodup_left (h : Mirrors brought m j j') : m.left.Nodup :=
  List.Pairwise.map _ (fun _ _ hpq => Nat.ne_of_lt hpq.1) h.rising

theorem nodup_right (h : Mirrors brought m j j') : m.right.Nodup :=
  List.Pairwise.map _ (fun _ _ hpq => Nat.ne_of_lt hpq.2) h.rising

theorem eq_of_left (h : Mirrors brought m j j') (hp : p ∈ m) (hq : q ∈ m) (heq : p.1 = q.1) :
    p = q := List.inj_on_of_nodup_map h.nodup_left hp hq heq

theorem eq_of_right (h : Mirrors brought m j j') (hp : p ∈ m) (hq : q ∈ m) (heq : p.2 = q.2) :
    p = q := List.inj_on_of_nodup_map h.nodup_right hp hq heq

theorem lt_length (h : Mirrors brought m j j') (hp : p ∈ m) :
    p.1 < j.spans.length ∧ p.2 < j'.spans.length := by
  obtain ⟨span, span', hspan, hspan', -⟩ := h.span p hp
  exact ⟨(List.getElem?_eq_some_iff.1 hspan).1, (List.getElem?_eq_some_iff.1 hspan').1⟩

theorem lt_of_mem_left (h : Mirrors brought m j j') {i : Nat} (hi : i ∈ m.left) :
    i < j.spans.length := by
  obtain ⟨p, hp, rfl⟩ := List.mem_map.1 hi
  exact (h.lt_length hp).1

/-- Two journals go on mirroring one another when the data of every pair of spans
stays the same and the ends of the pairs stay in the same order. -/
theorem step (h : Mirrors brought m j j') (hretains : j.Retains j₁) (hretains' : j'.Retains j₁')
    (hsound : j₁.Sound) (hsound' : j₁'.Sound)
    (hdata : ∀ p ∈ m, ∀ span span', j.spans[p.1]? = some span → j'.spans[p.2]? = some span' →
      SameData span span' → ∃ span₁ span₁', j₁.spans[p.1]? = some span₁ ∧
        j₁'.spans[p.2]? = some span₁' ∧ SameData span₁ span₁')
    (hends : List.Forall₂ (fun i i' => (i, i') ∈ m) (j₁.endsAmong m.left)
      (j₁'.endsAmong m.right)) : Mirrors brought m j₁ j₁' := by
  refine ⟨h.rising, hsound, hsound', ?_, hends⟩
  intro p hp
  obtain ⟨span, span', hspan, hspan', hsame, hparent⟩ := h.span p hp
  obtain ⟨span₁, span₁', hspan₁, hspan₁', hsame₁⟩ := hdata p hp span span' hspan hspan' hsame
  obtain ⟨attributes, events, status, ended, hkept⟩ := hretains _ _ hspan
  obtain ⟨attributes', events', status', ended', hkept'⟩ := hretains' _ _ hspan'
  obtain rfl := Option.some.inj (hkept.symm.trans hspan₁)
  obtain rfl := Option.some.inj (hkept'.symm.trans hspan₁')
  exact ⟨_, _, hspan₁, hspan₁', hsame₁,
    hparent.grow (fun _ hc => hc) (List.Subset.refl m) hretains hretains' rfl rfl rfl rfl⟩

/-- Writing elsewhere in the first journal changes nothing about the pairs. -/
theorem writes (h : Mirrors brought m j j') {P : Nat → Prop} (hwrites : j.Writes P j₁)
    (hP : ∀ i ∈ m.left, ¬ P i) : Mirrors brought m j₁ j' := by
  refine h.step hwrites.retains (.refl j') (hwrites.sound h.sound) h.sound' ?_ ?_
  · intro p hp span span' hspan hspan' hsame
    have hkept := hwrites.same (hP _ (List.mem_map_of_mem hp)) (h.lt_length hp).1
    exact ⟨span, span', hkept.span.trans hspan, hspan', hsame⟩
  · rw [hwrites.endsAmong_eq hP]
    exact h.ends

theorem noted (h : Mirrors brought m j j') (op : Operation) (r r' : SpanRef) :
    Mirrors brought m (j.noted op r) (j'.noted op r') :=
  h.step (.refl j) (.refl j') h.sound h.sound'
    (fun _ _ span span' hspan hspan' hsame => ⟨span, span', hspan, hspan', hsame⟩) h.ends

/-- The same change of the data of both spans of a pair. -/
theorem update (h : Mirrors brought m j j') (hp : p ∈ m) {f : Span → Span} (hf : DataOnly f) :
    Mirrors brought m (j.update p.1 f) (j'.update p.2 f) := by
  have hwrites : j.Writes (fun _ => True) (j.update p.1 f) := .updated .refl hf trivial
  have hwrites' : j'.Writes (fun _ => True) (j'.update p.2 f) := .updated .refl hf trivial
  refine h.step hwrites.retains hwrites'.retains (hwrites.sound h.sound)
    (hwrites'.sound h.sound') ?_ h.ends
  intro q hq span span' hspan hspan' hsame
  by_cases hpq : p = q
  · subst hpq
    refine ⟨f span, f span', ?_, ?_, hsame.apply hf⟩
    · rw [Journal.update, List.getElem?_modify_eq, hspan]
      rfl
    · rw [Journal.update, List.getElem?_modify_eq, hspan']
      rfl
  · have hne : p.1 ≠ q.1 := fun heq => hpq (h.eq_of_left hp hq heq)
    have hne' : p.2 ≠ q.2 := fun heq => hpq (h.eq_of_right hp hq heq)
    refine ⟨span, span', ?_, ?_, hsame⟩
    · rw [Journal.update, List.getElem?_modify_ne _ _ hne, hspan]
    · rw [Journal.update, List.getElem?_modify_ne _ _ hne', hspan']

/-- An end of both spans of a pair is recorded. -/
theorem exported (h : Mirrors brought m j j') (hp : p ∈ m) (current current' : Nat) :
    Mirrors brought m { j with finishes := j.finishes ++ [{ entry := p.1, current }] }
      { j' with finishes := j'.finishes ++ [{ entry := p.2, current := current' }] } := by
  obtain ⟨hlt, hlt'⟩ := h.lt_length hp
  have hleft : p.1 ∈ m.left := List.mem_map_of_mem hp
  have hright : p.2 ∈ m.right := List.mem_map_of_mem hp
  refine h.step (.refl j) (.refl j') ?_ ?_
    (fun _ _ span span' hspan hspan' hsame => ⟨span, span', hspan, hspan', hsame⟩) ?_
  · intro f hf
    rcases List.mem_append.1 hf with hf | hf
    · exact h.sound f hf
    · rw [List.mem_singleton.1 hf]
      exact hlt
  · intro f hf
    rcases List.mem_append.1 hf with hf | hf
    · exact h.sound' f hf
    · rw [List.mem_singleton.1 hf]
      exact hlt'
  · have hends := List.rel_append h.ends (List.Forall₂.cons hp .nil)
    simpa [Journal.endsAmong, hleft, hright] using hends

/-- Both spans of a pair are ended. -/
theorem closed (h : Mirrors brought m j j') (hp : p ∈ m) {span span' : Span}
    (hsame : SameData span span') (current current' : Nat) :
    Mirrors brought m (j.closed p.1 span current) (j'.closed p.2 span' current') := by
  simp only [Journal.closed, hsame.ended, hsame.isSampled]
  split
  · exact h
  · split
    · exact (h.update hp .finished).exported hp current current'
    · exact h.update hp .finished

section

variable {r r' : SpanRef}

/-- The same data is recorded on both spans of a pair. -/
theorem record (h : Mirrors brought m j j') (hp : p ∈ m) (hentry : r.entry = some p.1)
    (hentry' : r'.entry = some p.2) (op : Operation) {f : Span → Span} (hf : DataOnly f) :
    Mirrors brought m (j.settled (j.record r op f)) (j'.settled (j'.record r' op f)) := by
  obtain ⟨span, span', hspan, hspan', hsame, -⟩ := h.span p hp
  have hfound := Journal.find?_of_entry hentry hspan
  have hfound' := Journal.find?_of_entry hentry' hspan'
  by_cases hop : span.refuses op = true
  · simp only [Journal.record, hfound, hfound', hsame.refuses, hop, if_true]
    exact h
  · have hop : span.refuses op = false := by simpa using hop
    rw [Journal.record_of_found f hfound hop,
      Journal.record_of_found f hfound' ((hsame.refuses op).trans hop), hsame.isRecording]
    simp only [Journal.settled]
    split
    · exact (h.noted op r r').update hp hf
    · exact h.noted op r r'

/-- The ends of both spans of a pair are asked for. -/
theorem finish (h : Mirrors brought m j j') (hp : p ∈ m) (hentry : r.entry = some p.1)
    (hentry' : r'.entry = some p.2) (current current' : Nat) :
    Mirrors brought m (j.settled (j.finish r current)) (j'.settled (j'.finish r' current')) := by
  obtain ⟨span, span', hspan, hspan', hsame, -⟩ := h.span p hp
  have hfound := Journal.find?_of_entry hentry hspan
  have hfound' := Journal.find?_of_entry hentry' hspan'
  by_cases hop : span.refuses .finish = true
  · simp only [Journal.finish, hfound, hfound', hsame.refuses, hop, if_true]
    exact h
  · have hop : span.refuses .finish = false := by simpa using hop
    rw [Journal.finish_of_found current hfound hop,
      Journal.finish_of_found current' hfound' ((hsame.refuses _).trans hop)]
    exact (h.noted .finish r r').closed hp hsame current current'

/-- Both spans of a pair are ended as failures. -/
theorem failed (h : Mirrors brought m j j') (hp : p ∈ m) (hentry : r.entry = some p.1)
    (hentry' : r'.entry = some p.2) (description : String) (current current' : Nat) :
    Mirrors brought m (j.failed r description current)
      (j'.failed r' description current') := by
  obtain ⟨span, span', hspan, hspan', hsame, -⟩ := h.span p hp
  have hfound := Journal.find?_of_entry hentry hspan
  have hfound' := Journal.find?_of_entry hentry' hspan'
  by_cases hop : span.refuses .setStatus = true
  · simp only [Journal.failed, Journal.setError, Journal.record, hfound, hfound', hsame.refuses,
      hop, if_true]
    exact h
  · have hop : span.refuses .setStatus = false := by simpa using hop
    have hmarked := h.record hp hentry hentry' .setStatus (.withError description)
    have hok := Journal.record_of_found (·.withError description) hfound hop
    have hok' := Journal.record_of_found (·.withError description) hfound'
      ((hsame.refuses _).trans hop)
    simp only [Journal.failed, Journal.setError]
    rw [hok, hok'] at hmarked ⊢
    exact hmarked.finish hp hentry hentry' current current'

end

/-! ## Starting a span on both sides -/

theorem sameData_newSpan {parent parent' : Context} (t : Tracer) (name : String)
    (attributes : Fields) (hvalid : parent'.identity.isValid = parent.identity.isValid)
    (hflags : parent'.identity.flags = parent.identity.flags)
    (hstate : parent'.identity.state = parent.identity.state) :
    SameData (j.newSpan t name parent .server attributes)
      (j'.newSpan t name parent' .server attributes) := by
  have hidentity : j'.nextIdentity parent'.identity =
      { j.nextIdentity parent.identity with
        traceId := (j'.nextIdentity parent'.identity).traceId
        spanId := (j'.nextIdentity parent'.identity).spanId } := by
    simp only [Journal.nextIdentity, hvalid, hflags, hstate]
    split <;> rfl
  refine ⟨?_, hidentity, Journal.isValid_nextIdentity .., Journal.isValid_nextIdentity ..⟩
  have hsampled : (j'.nextIdentity parent'.identity).isSampled =
      (j.nextIdentity parent.identity).isSampled := by
    rw [hidentity]
    rfl
  simp only [Journal.newSpan, hsampled]

/-- The current spans of contexts that are alike differ in nothing but their ids. -/
theorem identity_of_alike (h : Mirrors brought m j j') {parent parent' : Context}
    (halike : Alike brought m j j' parent parent') :
    parent'.identity.isValid = parent.identity.isValid ∧
      parent'.identity.flags = parent.identity.flags ∧
      parent'.identity.state = parent.identity.state := by
  cases halike with
  | own hp hc hc' =>
    obtain ⟨span, span', hspan, hspan', hsame, -⟩ := h.span _ hp
    have hidentity : span.identity = parent.identity := by
      simpa [Journal.identity?, hspan] using hc.2
    have hidentity' : span'.identity = parent'.identity := by
      simpa [Journal.identity?, hspan'] using hc'.2
    rw [← hidentity, ← hidentity']
    refine ⟨hsame.valid'.trans hsame.valid.symm, ?_, ?_⟩
    · rw [hsame.identity]
    · rw [hsame.identity]
  | given hc => exact ⟨rfl, rfl, rfl⟩

/-- The parents of two spans that are started below contexts that are alike
correspond. -/
theorem sameParent_newSpan (h : Mirrors brought m j j') {parent parent' : Context}
    (halike : Alike brought m j j' parent parent') (t : Tracer) (name : String)
    (attributes : Fields) :
    SameParent brought m j j' (j.newSpan t name parent .server attributes)
      (j'.newSpan t name parent' .server attributes) := by
  cases halike with
  | own hp hc hc' =>
    obtain ⟨span, span', hspan, hspan', hsame, -⟩ := h.span _ hp
    have hidentity : span.identity = parent.identity := by
      simpa [Journal.identity?, hspan] using hc.2
    have hidentity' : span'.identity = parent'.identity := by
      simpa [Journal.identity?, hspan'] using hc'.2
    have hvalid : parent.identity.isValid = true := hidentity ▸ hsame.valid
    have hvalid' : parent'.identity.isValid = true := hidentity' ▸ hsame.valid'
    refine .own hp hc.2 hc'.2 (if_pos hvalid) (if_pos hvalid') ?_ ?_
    · simp only [Journal.newSpan, Journal.nextIdentity, hvalid, if_true]
    · simp only [Journal.newSpan, Journal.nextIdentity, hvalid', if_true]
  | given hc =>
    by_cases hvalid : parent.identity.isValid = true
    · have hbrought : brought parent := by
        rcases hc with hc | rfl
        · exact hc
        · exact absurd hvalid (by decide)
      refine .outer hbrought (if_pos hvalid) (if_pos hvalid) ?_ ?_
      · simp only [Journal.newSpan, Journal.nextIdentity, hvalid, if_true]
      · simp only [Journal.newSpan, Journal.nextIdentity, hvalid, if_true]
    · exact .root (if_neg hvalid) (if_neg hvalid)

/-- Spans that are started below contexts that are alike are a new pair. -/
theorem opened (h : Mirrors brought m j j') {parent parent' : Context}
    (halike : Alike brought m j j' parent parent') (t : Tracer) (name : String)
    (attributes : Fields) :
    Mirrors brought (m ++ [(j.spans.length, j'.spans.length)])
      (j.opened t name parent .server attributes).2
      (j'.opened t name parent' .server attributes).2 := by
  have hwrites : j.Writes (fun _ => True) (j.opened t name parent .server attributes).2 :=
    .opened .refl ..
  have hwrites' : j'.Writes (fun _ => True) (j'.opened t name parent' .server attributes).2 :=
    .opened .refl ..
  have hgrow : m ⊆ m ++ [(j.spans.length, j'.spans.length)] := List.subset_append_left ..
  refine ⟨?_, hwrites.sound h.sound, hwrites'.sound h.sound', ?_, ?_⟩
  · refine List.pairwise_append.2 ⟨h.rising, List.pairwise_singleton .., ?_⟩
    intro p hp q hq
    rw [List.mem_singleton.1 hq]
    exact h.lt_length hp
  · intro p hp
    rcases List.mem_append.1 hp with hp | hp
    · obtain ⟨span, span', hspan, hspan', hsame, hparent⟩ := h.span p hp
      obtain ⟨hlt, hlt'⟩ := h.lt_length hp
      refine ⟨span, span', ?_, ?_, hsame, ?_⟩
      · rw [Journal.getElem?_opened, if_neg (Nat.ne_of_lt hlt), hspan]
      · rw [Journal.getElem?_opened, if_neg (Nat.ne_of_lt hlt'), hspan']
      · exact hparent.grow (fun _ hc => hc) hgrow hwrites.retains hwrites'.retains rfl rfl rfl rfl
    · obtain rfl := List.mem_singleton.1 hp
      refine ⟨j.newSpan t name parent .server attributes,
        j'.newSpan t name parent' .server attributes, ?_, ?_, ?_, ?_⟩
      · rw [Journal.getElem?_opened, if_pos rfl]
      · rw [Journal.getElem?_opened, if_pos rfl]
      · obtain ⟨hvalid, hflags, hstate⟩ := h.identity_of_alike halike
        exact sameData_newSpan t name attributes hvalid hflags hstate
      · exact (h.sameParent_newSpan halike t name attributes).grow (fun _ hc => hc) hgrow
          hwrites.retains hwrites'.retains rfl rfl rfl rfl
  · -- No end of the new spans has been recorded yet.
    have hends : (j.opened t name parent .server attributes).2.endsAmong
        (Pairing.left (m ++ [(j.spans.length, j'.spans.length)])) = j.endsAmong m.left := by
      rw [Pairing.left_concat]
      exact h.sound.endsAmong_concat m.left
    have hends' : (j'.opened t name parent' .server attributes).2.endsAmong
        (Pairing.right (m ++ [(j.spans.length, j'.spans.length)])) = j'.endsAmong m.right := by
      rw [Pairing.right_concat]
      exact h.sound'.endsAmong_concat m.right
    rw [hends, hends']
    exact h.ends.imp fun i i' hi => hgrow hi

end Mirrors

end QueryTelemetry.Trace
