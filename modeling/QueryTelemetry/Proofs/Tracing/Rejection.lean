import QueryTelemetry.Proofs.Tracing.Twin

/-!
# Calls that are bounced

A strict session reports a slot that is entered while it is live.  `bounces` says
that a visit raises this fault, and `heeded` is a run without such visits.  A
bounced visit changes no slot (`observer_of_bounces`) and writes to nothing but
the span that it may have started (`writes_of_bounces`).  So the session stays
the twin of one that never saw the visit, by `Twin.frame`, and at every point of a
run it is the twin of the run without bounced visits (`Unstarted.shadowed`).

The span that a bounced visit started is ended as a failure by that visit
(`fails_of_bounces`).  It is in no slot, so nothing is done to it later, and no
span is started below it.
-/

namespace QueryTelemetry.Trace

namespace Journal

variable {j : Journal} {r : SpanRef} {i : Nat} {span : Span}

theorem acts_setError {marked : Journal} (hentry : r.entry = some i)
    (hspan : j.spans[i]? = some span) {description : String}
    (hok : j.setError r description = .ok marked) :
    marked.acts = j.acts ++ [{ operation := .setStatus, span := r }] := by
  simp only [setError, record, find?_of_entry hentry hspan] at hok
  split at hok
  · cases hok
  · obtain rfl := Except.ok.inj hok
    split <;> rfl

/-- To end a span as a failure is to ask for an error status and for its end. -/
theorem acts_failed (hentry : r.entry = some i) (hspan : j.spans[i]? = some span)
    (hstatus : span.refuses .setStatus = false) (hfinish : span.refuses .finish = false)
    (description : String) (current : Nat) :
    (j.failed r description current).acts =
      j.acts ++ [{ operation := .setStatus, span := r }, { operation := .finish, span := r }] := by
  obtain ⟨marked, hok, hspan', -, -⟩ := exists_setError hentry hspan hstatus description
  have hended := finish_of_found current (find?_of_entry hentry hspan') hfinish
  simp only [failed, hok, hended, settled, acts_closed]
  rw [noted, acts_setError hentry hspan hok, List.append_assoc]
  rfl

end Journal

namespace Session

/-- A visit raises the fault of a slot that is entered while it is live. -/
def bounces (s : Session) (v : Visit) : Bool :=
  match (s.answer v).fault with
  | some (.reported (.contextSlot _) ..) => true
  | _ => false

/-- The visits of a run that are not bounced. -/
def heeded (s : Session) : List Visit → List Visit
  | [] => []
  | v :: vs => if s.bounces v then (s.next v).heeded vs else v :: (s.next v).heeded vs

/-- A bounced visit starts the span of an entry. -/
def StartsInVain (i : Nat) (s : Session) (v : Visit) : Prop :=
  s.bounces v = true ∧ Starts i s v

variable {s s₀ s' : Session} {v : Visit} {vs : List Visit} {i n : Nat} {outer : Option Context}

theorem fault_ne_none_of_bounces (h : s.bounces v = true) : (s.answer v).fault ≠ none := by
  intro hnone
  rw [bounces, hnone] at h
  exact absurd h (by decide)

/-! ## What a bounced visit does -/

/-- While the context that requests bring is in the slot of the request, the
session is marked as joined. -/
def Marked (outer : Option Context) (s : Session) : Prop :=
  outer ≠ none → s.tree.isLive .request = true → s.observer.joined = true

theorem Marked.next (h : Marked outer s) (houter : v.outer = outer) : Marked outer (s.next v) := by
  intro hsome hlive
  rw [SlotTree.isLive_eq_isSome_get?] at hlive
  obtain ⟨c, hget⟩ := Option.isSome_iff_exists.1 hlive
  rcases get?_next hget with hold | ⟨name, parent, attributes, hopens, -, -⟩ | ⟨-, -, -, hjoined⟩
  · have hlive : s.tree.isLive .request = true := by
      rw [SlotTree.isLive_eq_isSome_get?, hold]
      rfl
    rw [joined_next, h hsome hlive, Bool.true_or]
  · cases hopens with
    | request _ hnone => exact absurd (houter.symm.trans hnone) hsome
  · exact hjoined

/-- A bounced visit leaves the observer as it was, with all its slots. -/
theorem observer_of_bounces (hmarked : Marked outer s) (houter : v.outer = outer)
    (h : s.bounces v = true) : (s.next v).observer = s.observer := by
  have hfault := fault_ne_none_of_bounces h
  show (s.answer v).observer = s.observer
  cases move_answer s v with
  | rest _ _ _ hobserver => exact hobserver
  | rejected _ _ _ _ hobserver => exact hobserver
  | barred _ hbrought hlive _ hobserver =>
    have hjoined : s.observer.joined = true := by
      refine hmarked ?_ hlive
      rw [← houter, hbrought]
      simp
    rw [hobserver, ← hjoined]
  | opened _ _ _ _ _ hnone | joined _ _ _ _ _ hnone | left _ _ _ _ hnone
  | recorded _ _ _ _ _ hnone | closed _ _ _ hnone => exact absurd hnone hfault

/-- A bounced visit writes only to the span that it starts. -/
theorem writes_of_bounces (h : s.bounces v = true) :
    s.journal.Writes (· = s.journal.spans.length) (s.next v).journal := by
  have hfault := fault_ne_none_of_bounces h
  show s.journal.Writes _ (s.answer v).backend.journal
  cases move_answer s v with
  | rest _ _ _ _ hjournal | barred _ _ _ _ _ hjournal =>
    rw [hjournal]
    exact .refl
  | @rejected k name parent attributes _ _ _ _ _ hjournal =>
    have hopened : s.journal.Writes (· = s.journal.spans.length)
        (s.started name parent attributes).2 := .opened .refl ..
    rw [hjournal]
    exact hopened.trans (Journal.writes_failed (P := (· = s.journal.spans.length))
      (entry_started s name parent attributes) rfl ..)
  | opened _ _ _ _ _ hnone | joined _ _ _ _ _ hnone | left _ _ _ _ hnone
  | recorded _ _ _ _ _ hnone | closed _ _ _ hnone => exact absurd hnone hfault

/-- The span that a bounced visit starts fails in that visit. -/
theorem fails_of_bounces (h : s.bounces v = true) (hstarts : Starts i s v) :
    ∃ name parent attributes,
      (s.started name parent attributes).2.spans[i]? =
        some (s.journal.newSpan s.observer.tracer name parent .server attributes) ∧
      (s.started name parent attributes).2.Fails (s.next v).journal i ∧
      ∃ r : SpanRef, r.entry = some i ∧ (s.next v).journal.acts = s.journal.acts ++
        [{ operation := .setStatus, span := r }, { operation := .finish, span := r }] := by
  obtain rfl := hstarts.eq_length
  obtain ⟨k, name, parent, attributes, hopens, hstart⟩ := hstarts.opens
  have hspan := getElem?_started s name parent attributes
  refine ⟨name, parent, attributes, hspan, ?_⟩
  rcases next_of_opens hopens hstart with ⟨-, -, -, hnone⟩ | ⟨hlive, -, hjournal, -⟩
  · exact absurd hnone (fault_ne_none_of_bounces h)
  · -- The fault is that of the slot, so the backend refused nothing.
    obtain ⟨hlive, hstrict⟩ := Bool.and_eq_true_iff.1 hlive
    obtain ⟨b, hb, hanswer⟩ := answer_of_opens hopens
    have hrejected : s.answer v = s.observer.reject k
        (parent.withSpan (s.started name parent attributes).1)
        { b with journal := (s.started name parent attributes).2 } := by
      rw [hanswer]
      simp only [Observer.begin, Observer.startSpan, Journal.start, hstart, hb, Bool.false_eq_true,
        if_false]
      exact Observer.enter_of_rejected _ hlive hstrict
    have hfault : ∀ refusal : Refusal, (s.observer.reject k
        (parent.withSpan (s.started name parent attributes).1)
        { b with journal := (s.started name parent attributes).2 }).fault ≠
          some refusal.fault := by
      intro refusal hrefusal
      rw [← hrejected] at hrefusal
      rw [bounces, hrefusal] at h
      exact absurd h (by simp [Refusal.fault])
    obtain ⟨hstatus, hfinish⟩ := Observer.refuses_of_reject
      (entry_started s name parent attributes) hspan hfault
    rw [hjournal]
    have hentry := entry_started s name parent attributes
    exact ⟨Journal.fails_failed hentry hspan hstatus hfinish .., _, hentry,
      Journal.acts_failed hentry hspan hstatus hfinish ..⟩

/-! ## Runs without bounced visits -/

theorem heeded_concat (s : Session) (vs : List Visit) (v : Visit) :
    s.heeded (vs ++ [v]) = s.heeded vs ++ if (s.run vs).bounces v then [] else [v] := by
  induction vs generalizing s with
  | nil =>
    simp only [List.nil_append, heeded, run_nil]
    rfl
  | cons w vs ih =>
    rw [List.cons_append, heeded, heeded, ih]
    show (if s.bounces w then _ else _) = (if s.bounces w then _ else _) ++
      if ((s.next w).run vs).bounces v then [] else [v]
    by_cases h : s.bounces w = true
    · rw [if_pos h, if_pos h]
    · rw [if_neg h, if_neg h, List.cons_append]

/-- A run, and the run without its bounced visits.  The spans that are paired are
those that no bounced visit started. -/
structure Shadowed (brought : Context → Prop) (m : Pairing) (s₀ : Session) (vs : List Visit) :
    Prop where
  twin : Twin brought m (s₀.run vs) (s₀.run (s₀.heeded vs))
  right : m.right = s₀.journal.since (s₀.run (s₀.heeded vs)).journal
  left : ∀ i, i ∈ m.left ↔
    i ∈ s₀.journal.since (s₀.run vs).journal ∧ ¬ Occurs s₀ vs (StartsInVain i)

namespace Shadowed

variable {brought : Context → Prop} {m : Pairing}

/-- A visit that is bounced is as good as none. -/
theorem next_of_bounces (h : Shadowed brought m s₀ vs) (hmarked : Marked outer (s₀.run vs))
    (houter : v.outer = outer) (hbounces : (s₀.run vs).bounces v = true) :
    Shadowed brought m s₀ (vs ++ [v]) := by
  have hheeded : s₀.heeded (vs ++ [v]) = s₀.heeded vs := by
    rw [heeded_concat, if_pos hbounces, List.append_nil]
  refine ⟨?_, ?_, ?_⟩
  · rw [hheeded, run_concat]
    exact h.twin.frame (observer_of_bounces hmarked houter hbounces) (writes_of_bounces hbounces)
      fun i hi => Nat.ne_of_lt (h.twin.mirrors.lt_of_mem_left hi)
  · rw [hheeded]
    exact h.right
  · intro i
    rw [h.left, occurs_concat, run_concat, Journal.mem_since, Journal.mem_since]
    have hle : (s₀.run vs).journal.spans.length ≤ ((s₀.run vs).next v).journal.spans.length :=
      length_le_run _ [v]
    constructor
    · rintro ⟨⟨hi, hlt⟩, hnot⟩
      refine ⟨⟨hi, by omega⟩, ?_⟩
      rintro (hoccurs | ⟨-, hstarts⟩)
      · exact hnot hoccurs
      · exact not_starts_of_lt hlt hstarts
    · rintro ⟨⟨hi, hlt⟩, hnot⟩
      refine ⟨⟨hi, Nat.lt_of_not_le fun hge => ?_⟩, fun hoccurs => hnot (.inl hoccurs)⟩
      exact hnot (.inr ⟨hbounces, hge, hlt⟩)

/-- A visit that is not bounced is taken by both sessions. -/
theorem next_of_heeded (h : Shadowed brought m s₀ vs)
    (hbrought : ∀ c, v.outer = some c → brought c) (hbounces : (s₀.run vs).bounces v = false) :
    ∃ m', Shadowed brought m' s₀ (vs ++ [v]) := by
  have hheeded : s₀.heeded (vs ++ [v]) = s₀.heeded vs ++ [v] := by
    rw [heeded_concat, hbounces, if_neg (by decide)]
  obtain ⟨m', htwin, hleft, hright⟩ := h.twin.next (Eq.refl v.call) (Eq.refl v.outer) hbrought
  refine ⟨m', ?_, ?_, ?_⟩
  · rw [hheeded, run_concat, run_concat]
    exact htwin
  · rw [hright, h.right, hheeded, run_concat]
    exact Journal.since_append (length_le_run _ _) (length_le_run _ [v])
  · intro i
    have hle : s₀.journal.spans.length ≤ (s₀.run vs).journal.spans.length := length_le_run ..
    have hle' : (s₀.run vs).journal.spans.length ≤ ((s₀.run vs).next v).journal.spans.length :=
      length_le_run _ [v]
    have hold : Occurs s₀ vs (StartsInVain i) → i < (s₀.run vs).journal.spans.length :=
      fun hoccurs => lt_length_of_occurs hoccurs fun _ _ hvain => hvain.2
    rw [hleft, List.mem_append, h.left, occurs_concat, run_concat, Journal.mem_since,
      Journal.mem_since, Journal.mem_since, StartsInVain, hbounces]
    constructor
    · rintro (⟨⟨hi, hlt⟩, hnot⟩ | ⟨hi, hlt⟩)
      · refine ⟨⟨hi, by omega⟩, ?_⟩
        simpa using hnot
      · refine ⟨⟨by omega, hlt⟩, ?_⟩
        rintro (hoccurs | ⟨hfalse, -⟩)
        · have := hold hoccurs
          omega
        · exact absurd hfalse (by decide)
    · rintro ⟨⟨hi, hlt⟩, hnot⟩
      rcases Nat.lt_or_ge i (s₀.run vs).journal.spans.length with hlt' | hge
      · exact .inl ⟨⟨hi, hlt'⟩, fun hoccurs => hnot (.inl hoccurs)⟩
      · exact .inr ⟨hge, hlt⟩

/-- A span that a bounced visit started is not among those that are paired. -/
theorem not_mem_left (h : Shadowed brought m s₀ vs) (hvain : Occurs s₀ vs (StartsInVain i)) :
    i ∉ m.left := fun hi => ((h.left i).1 hi).2 hvain

end Shadowed

/-- What a session is before a run without bounced visits can be compared with the
run. -/
structure Unstarted (outer : Option Context) (s : Session) : Prop where
  slots : s.tree.slots = []
  sound : s.journal.Sound
  foreign : Foreign s.journal.spans.length outer

theorem Unstarted.marked (h : Unstarted outer s₀) (houter : ∀ v ∈ vs, v.outer = outer) :
    Marked outer (s₀.run vs) := by
  induction vs using List.reverseRecOn with
  | nil =>
    intro _ hlive
    rw [run_nil, SlotTree.isLive, h.slots] at hlive
    exact absurd hlive (by decide)
  | append_singleton vs v ih =>
    rw [run_concat]
    exact (ih fun w hw => houter w (List.mem_append_left _ hw)).next (houter v (by simp))

theorem Unstarted.shadowed (h : Unstarted outer s₀) (houter : ∀ v ∈ vs, v.outer = outer) :
    ∃ m, Shadowed (outer = some ·) m s₀ vs := by
  induction vs using List.reverseRecOn with
  | nil =>
    refine ⟨[], Twin.create s₀.observer h.slots h.sound h.sound, ?_, fun i => ?_⟩
    · exact Journal.append_since rfl
    · rw [Journal.mem_since]
      constructor
      · exact fun hi => absurd hi List.not_mem_nil
      · rintro ⟨⟨hi, hlt⟩, -⟩
        exact absurd hlt (Nat.not_lt.2 hi)
  | append_singleton vs v ih =>
    have hbefore : ∀ w ∈ vs, w.outer = outer := fun w hw => houter w (List.mem_append_left _ hw)
    have hvisit : v.outer = outer := houter v (by simp)
    obtain ⟨m, hm⟩ := ih hbefore
    cases hbounces : (s₀.run vs).bounces v with
    | true => exact ⟨m, hm.next_of_bounces (h.marked hbefore) hvisit hbounces⟩
    | false => exact hm.next_of_heeded (fun c hc => hvisit.symm.trans hc) hbounces

/-! ## The spans that were started in vain -/

/-- The span that a visit started is ended once as a failure in that visit, which
asks nothing else of any span.  Nothing happens to it for the rest of the run, and no span is started below it. -/
structure Discarded (s₀ : Session) (vs : List Visit) (i : Nat) (s : Session) (v : Visit) :
    Prop where
  failed : ∃ span, (s.next v).journal.spans[i]? = some span ∧ span.ended = true ∧
    (span.identity.isSampled = true → ∃ description, span.status = .error description)
  once : (s.next v).journal.endsOf i = s.journal.endsOf i + 1
  asked : ∃ r : SpanRef, r.entry = some i ∧ (s.next v).journal.acts = s.journal.acts ++
    [{ operation := .setStatus, span := r }, { operation := .finish, span := r }]
  final : (s.next v).journal.Same (s₀.run vs).journal i
  leaf : ∀ before w after, vs = before ++ w :: after → ∀ k name parent attributes,
    Opens (s₀.run before) w k name parent attributes → parent.current.entry ≠ some i

theorem failed_of_bounces (h : s.bounces v = true) (hstarts : Starts i s v) :
    (∃ span, (s.next v).journal.spans[i]? = some span ∧ span.ended = true ∧
      (span.identity.isSampled = true → ∃ description, span.status = .error description)) ∧
    (s.next v).journal.endsOf i = s.journal.endsOf i + 1 := by
  obtain ⟨name, parent, attributes, hspan, hfails, -⟩ := fails_of_bounces h hstarts
  obtain ⟨more, events, description, hfailed⟩ := hfails.span _ hspan rfl
  refine ⟨⟨_, hfailed, rfl, fun hsampled => ⟨description, if_pos hsampled⟩⟩, ?_⟩
  rw [hfails.ends]
  rfl

/-- Nothing happens any more to a span that was started in vain. -/
theorem Unstarted.same_after (h : Unstarted outer s₀) {before after : List Visit}
    (houter : ∀ w ∈ before ++ v :: after, w.outer = outer)
    (hvain : StartsInVain i (s₀.run before) v) :
    ((s₀.run before).next v).journal.Same (s₀.run (before ++ v :: after)).journal i := by
  induction after using List.reverseRecOn with
  | nil =>
    rw [run_concat]
    exact .refl _ i
  | append_singleton after w ih =>
    have hvisits : before ++ v :: (after ++ [w]) = (before ++ v :: after) ++ [w] := by simp
    rw [hvisits] at houter ⊢
    rw [run_concat]
    have hbefore : ∀ u ∈ before ++ v :: after, u.outer = outer :=
      fun u hu => houter u (List.mem_append_left _ hu)
    have hoccurs : Occurs s₀ (before ++ v :: after) (StartsInVain i) :=
      ⟨before, v, after, rfl, hvain⟩
    obtain ⟨m, hm⟩ := h.shadowed hbefore
    have hlt := lt_length_of_occurs hoccurs fun _ _ hvain => hvain.2
    refine (ih hbefore).trans ((hm.twin.writes_next w).same ?_ hlt)
    rintro (hi | rfl)
    · exact hm.not_mem_left hoccurs hi
    · exact absurd hlt (Nat.lt_irrefl _)

/-- The span above a new one is paired, or it was brought from outside. -/
theorem mem_left_of_opens {brought : Context → Prop} {m : Pairing} (h : Twin brought m s s')
    {k : Slot} {name : String} {parent : Context} {attributes : Fields}
    (hopens : Opens s v k name parent attributes) (hentry : parent.current.entry = some i) :
    i ∈ m.left ∨ brought parent := by
  obtain ⟨parent', -, halike⟩ := hopens.transport h.options.includeSource
    h.options.includeVariables h.alike (.given (.inr rfl)) (Eq.refl v.call) (Eq.refl v.outer)
  cases halike with
  | own hp hc _ =>
    obtain rfl := Option.some.inj (hentry.symm.trans hc.1)
    exact .inl (List.mem_map_of_mem hp)
  | given hc =>
    rcases hc with hc | rfl
    · exact .inr hc
    · exact absurd hentry (by simp [Context.current_empty, SpanRef.absent])

/-- No span is started below one that was started in vain. -/
theorem Unstarted.leaf (h : Unstarted outer s₀) {before after before' after' : List Visit}
    {w : Visit} (houter : ∀ u ∈ vs, u.outer = outer) (hvisits : vs = before ++ v :: after)
    (hvain : StartsInVain i (s₀.run before) v) (hvisits' : vs = before' ++ w :: after') {k : Slot}
    {name : String} {parent : Context} {attributes : Fields}
    (hopens : Opens (s₀.run before') w k name parent attributes) :
    parent.current.entry ≠ some i := by
  intro hentry
  have hbefore' : ∀ u ∈ before', u.outer = outer := fun u hu => houter u (by simp [hvisits', hu])
  have hlow : s₀.journal.spans.length ≤ i := Nat.le_trans (length_le_run s₀ before) hvain.2.1
  obtain ⟨m, hm⟩ := h.shadowed hbefore'
  rcases mem_left_of_opens hm.twin hopens hentry with hi | hbrought
  · have hlt : i < (s₀.run before').journal.spans.length := hm.twin.mirrors.lt_of_mem_left hi
    have hlate : (s₀.run before).journal.spans.length ≤ i := hvain.2.1
    -- The span was started before, or it is not there yet.
    rcases List.append_eq_append_iff.1 (hvisits.symm.trans hvisits') with
      ⟨middle, hmiddle, hafter⟩ | ⟨middle, rfl, -⟩
    · cases middle with
      | nil =>
        rw [hmiddle, List.append_nil] at hlt
        omega
      | cons u middle =>
        obtain ⟨rfl, -⟩ := List.cons.inj hafter
        exact hm.not_mem_left ⟨before, v, middle, hmiddle, hvain⟩ hi
    · have hle := length_le_run (s₀.run before') middle
      rw [← run_append] at hle
      omega
  · have hlt := h.foreign parent i hbrought hentry
    omega

/-- A bounced visit leaves the slots as they were, and the run without the bounced
visits starts the same spans up to their ids, except for those that were started
in vain.  Each bounced visit starts at most one such span.  It is ended once, as a
failure, by that visit, and no span is started below it. -/
theorem run_without_bounced (t : Tracer) (includeSource includeVariables strict : Bool)
    (s₀ : Session) (outer : Option Context) (vs : List Visit)
    (hfresh : s₀.observer = .create t includeSource includeVariables strict)
    (hsound : s₀.journal.Sound) (hforeign : Foreign s₀.journal.spans.length outer)
    (houter : ∀ v ∈ vs, v.outer = outer) :
    (∃ own, SameSpans (outer = some ·) (s₀.run vs).journal own
        (s₀.run (s₀.heeded vs)).journal (s₀.journal.since (s₀.run (s₀.heeded vs)).journal) ∧
      ∀ i, i ∈ own ↔
        i ∈ s₀.journal.since (s₀.run vs).journal ∧ ¬ Occurs s₀ vs (StartsInVain i)) ∧
    ∀ before v after, vs = before ++ v :: after → (s₀.run before).bounces v = true →
      ((s₀.run before).next v).tree = (s₀.run before).tree ∧
      ((s₀.run before).next v).journal.spans.length ≤
        (s₀.run before).journal.spans.length + 1 ∧
      ∀ i, Starts i (s₀.run before) v → Discarded s₀ vs i (s₀.run before) v := by
  have hunstarted : Unstarted outer s₀ := by
    refine ⟨?_, hsound, hforeign⟩
    rw [tree, hfresh]
    rfl
  refine ⟨?_, ?_⟩
  · obtain ⟨m, hm⟩ := hunstarted.shadowed houter
    exact ⟨m.left, ⟨m, rfl, hm.right, hm.twin.mirrors⟩, hm.left⟩
  · intro before v after hvisits hbounces
    have hbefore : ∀ w ∈ before, w.outer = outer := fun w hw => houter w (by simp [hvisits, hw])
    have hvisit : v.outer = outer := houter v (by simp [hvisits])
    refine ⟨?_, ?_, ?_⟩
    · have hobserver := observer_of_bounces (hunstarted.marked hbefore) hvisit hbounces
      rw [tree, hobserver]
    · rcases length_next (s₀.run before) v with hlength | ⟨hlength, -⟩ <;> omega
    · intro i hstarts
      obtain ⟨hfailed, honce⟩ := failed_of_bounces hbounces hstarts
      obtain ⟨_, _, _, -, -, hasked⟩ := fails_of_bounces hbounces hstarts
      refine ⟨hfailed, honce, hasked, ?_, ?_⟩
      · subst hvisits
        exact hunstarted.same_after houter ⟨hbounces, hstarts⟩
      · intro before' w after' hvisits' k name parent attributes hopens
        exact hunstarted.leaf houter hvisits ⟨hbounces, hstarts⟩ hvisits' hopens

/-- A request that starts twice, and its execution.  The second start is bounced,
and its span is the only one that the run without it lacks. -/
theorem run_without_second_start :
    let t : Tracer := { provider := "provider", scope := "graphql", refuses := fun _ _ => false }
    let b : Backend := { journal := .empty, current := .empty, notes := [] }
    let s₀ : Session := ⟨.create t false false true, b⟩
    let visit (e : Request.Event) : Visit := { call := .event e, outer := none, current := .empty }
    let vs := [visit .start, visit .start, visit .executionStart]
    s₀.heeded vs = [visit .start, visit .executionStart] ∧
      (∃ own, SameSpans (none = some ·) (s₀.run vs).journal own
          (s₀.run (s₀.heeded vs)).journal [0, 1] ∧
        0 ∈ own ∧ 1 ∉ own) ∧
      Discarded s₀ vs 1 (s₀.run [visit .start]) (visit .start) := by
  intro t b s₀ visit vs
  obtain ⟨⟨own, hsame, hown⟩, hbounced⟩ := run_without_bounced t false false true s₀ none vs rfl
    Journal.sound_empty (fun _ _ h => by simp at h) (by simp [vs, visit])
  have hvain : StartsInVain 1 (s₀.run [visit .start]) (visit .start) :=
    ⟨rfl, Nat.le_refl 1, Nat.lt_succ_self 1⟩
  obtain ⟨-, -, hdiscarded⟩ :=
    hbounced [visit .start] (visit .start) [visit .executionStart] rfl rfl
  refine ⟨rfl, ⟨own, hsame, ?_, ?_⟩, hdiscarded 1 hvain.2⟩
  · refine (hown 0).2 ⟨Journal.mem_since.2 ⟨Nat.le_refl 0, by decide⟩, ?_⟩
    -- Only the first visit starts the first span, and that one is not bounced.
    rintro ⟨before, w, after, hvisits, hbounces, hstarts⟩
    cases before with
    | nil =>
      obtain ⟨rfl, -⟩ := List.cons.inj hvisits
      exact absurd hbounces (by decide)
    | cons u before =>
      obtain ⟨rfl, -⟩ := List.cons.inj hvisits
      have hle := length_le_run (s₀.next (visit .start)) before
      have hzero : ((s₀.next (visit .start)).run before).journal.spans.length ≤ 0 := hstarts.1
      exact absurd (Nat.le_trans hle hzero) (by decide)
  · exact fun hi => ((hown 1).1 hi).2 ⟨_, _, _, rfl, hvain⟩

end Session

end QueryTelemetry.Trace
