import Mathlib.Algebra.Group.Nat.Defs
import QueryTelemetry.Proofs.Request.Service

/-!
# What one observer does not see of the others

Observers of many requests work on one journal.  `Solo` says of an observer that
it is where it would be had it been alone: whatever else the journal holds, its
session is the twin of every session that starts with the same observer and
receives the same visits.  A turn of the observer keeps that (`Solo.turn`), and
so does every turn of another one, for that writes to other spans only
(`Solo.frame`).

`Isolated` is the invariant of all observers of a service.  It adds that the
observers start different spans, and that the ids of spans are their numbers.
-/

namespace QueryTelemetry

/-! ## Ids -/

namespace Trace

namespace Journal

theorem identity?_update (j : Journal) {f : Span → Span} (hf : DataOnly f) (i k : Nat) :
    (j.update i f).identity? k = j.identity? k := by
  have hkeeps : ∀ span, (f span).identity = span.identity := by
    intro span
    obtain ⟨attributes, events, status, ended, hspan⟩ := hf.keeps span
    rw [hspan]
  simp only [identity?, update, List.getElem?_modify]
  split
  · cases j.spans[k]? with
    | none => rfl
    | some span => simp [hkeeps]
  · simp

theorem identity?_closed (j : Journal) (i : Nat) (span : Span) (current k : Nat) :
    (j.closed i span current).identity? k = j.identity? k := by
  simp only [closed]
  split
  · rfl
  · exact j.identity?_update .finished i k

/-- The id of every span from an entry on is its number. -/
def Numbered (n : Nat) (j : Journal) : Prop :=
  ∀ i identity, n ≤ i → j.identity? i = some identity →
    identity.spanId = nextId (Nat.pow 2 64) i

theorem Writes.numbered {P : Nat → Prop} {j j' : Journal} {n : Nat} (h : j.Writes P j')
    (hj : j.Numbered n) : j'.Numbered n := by
  induction h with
  | refl => exact hj
  | noted _ _ _ _ ih => exact ih
  | updated _ hf _ ih =>
    intro i identity hi hidentity
    rw [identity?_update _ hf] at hidentity
    exact ih i identity hi hidentity
  | closed _ _ _ _ ih =>
    intro i identity hi hidentity
    rw [identity?_closed] at hidentity
    exact ih i identity hi hidentity
  | @opened j' _ t name parent kind attributes ih =>
    intro i identity hi hidentity
    by_cases hlast : i = j'.spans.length
    · rw [identity?, getElem?_opened, if_pos hlast] at hidentity
      obtain rfl := Option.some.inj hidentity
      rw [hlast]
      simp only [newSpan, nextIdentity]
      split <;> rfl
    · rw [identity?, getElem?_opened, if_neg hlast] at hidentity
      exact ih i identity hi hidentity

/-- Different numbers give different ids, as long as the ids are not used up. -/
theorem nextId_inj {n i k : Nat} (hi : i + 1 < n) (hk : k + 1 < n)
    (h : nextId n i = nextId n k) : i = k := by
  rw [nextId, nextId, Nat.mod_eq_of_lt (by omega), Nat.mod_eq_of_lt (by omega)] at h
  omega

end Journal

/-- The parent of a span is another one: it has the ids of that. -/
def Span.IsBelow (span above : Span) : Prop :=
  ∃ parent, span.parent = some parent ∧ parent.traceId = above.identity.traceId ∧
    parent.spanId = above.identity.spanId

end Trace

namespace Request

open Trace

/-! ## One observer -/

/-- The contexts that were brought to an observer. -/
def Attended.Brought (w : Attended) (c : Context) : Prop := ∃ v ∈ w.visits, v.outer = some c

/-- Two tracing observers are the same up to ids: the first one shares a journal
with others, and the second one starts from any journal and receives the same
visits. -/
def Attended.Alone (w : Attended) (j : Journal) (o₀ o : Observer) : Prop :=
  ∀ (b b₀ : Backend) (vs : List Visit), b.journal = j → b₀.journal.Sound →
    List.Forall₂ SameVisit w.visits vs →
    ∃ m, Twin w.Brought m ⟨o, b⟩ (Session.run ⟨o₀, b₀⟩ vs) ∧ m.left = w.started ∧
      m.right = b₀.journal.since (Session.run ⟨o₀, b₀⟩ vs).journal

/-- An observer is where it would be had it been alone. -/
inductive Solo (j : Journal) (w : Attended) : Prop where
  | tracing {o₀ o : Observer} (hfresh : w.fresh = .tracing o₀) (hnow : w.observer = .tracing o)
      (halone : w.Alone j o₀ o)
  | other (hfresh : ∀ o, w.fresh ≠ .tracing o) (hnow : ∀ o, w.observer ≠ .tracing o)
      (hstarted : w.started = [])

theorem exists_concat_of_forall₂ {α β : Type} {R : α → β → Prop} {as : List α} {a : α}
    {bs : List β} (h : List.Forall₂ R (as ++ [a]) bs) :
    ∃ bs' b, bs = bs' ++ [b] ∧ List.Forall₂ R as bs' ∧ R a b := by
  rw [← List.forall₂_reverse_iff, List.reverse_append] at h
  obtain ⟨b, rest, hb, hrest, hbs⟩ := List.forall₂_cons_left_iff.1 h
  refine ⟨rest.reverse, b, ?_, ?_, hb⟩
  · rw [← List.reverse_reverse bs, hbs, List.reverse_cons]
  · rw [← List.forall₂_reverse_iff, List.reverse_reverse]
    exact hrest

namespace Solo

variable {j j' : Journal} {w : Attended} {v : Visit} {p' : Participant}

theorem enlist {p : Participant} (hj : j.Sound)
    (hslots : ∀ o, p = .tracing o → o.tree.slots = []) : Solo j (.enlist p) := by
  by_cases hp : ∃ o, p = .tracing o
  · obtain ⟨o, rfl⟩ := hp
    refine .tracing rfl rfl fun b b₀ vs hb hb₀ hvisits => ?_
    obtain rfl := List.forall₂_nil_left_iff.1 hvisits
    refine ⟨[], Twin.create o (hslots o rfl) (hb ▸ hj) hb₀, rfl, ?_⟩
    exact (Journal.since_self _).symm
  · exact .other (fun o h => hp ⟨o, h⟩) (fun o h => hp ⟨o, h⟩) rfl

/-- What is written elsewhere does not concern the observer. -/
theorem frame (h : Solo j w) {P : Nat → Prop} (hwrites : j.Writes P j')
    (hP : ∀ i ∈ w.started, ¬ P i) : Solo j' w := by
  cases h with
  | other hfresh hnow hstarted => exact .other hfresh hnow hstarted
  | @tracing o₀ o hfresh hnow halone =>
    refine .tracing hfresh hnow fun b b₀ vs hb hb₀ hvisits => ?_
    obtain ⟨m, htwin, hleft, hright⟩ := halone { b with journal := j } b₀ vs rfl hb₀ hvisits
    refine ⟨m, htwin.frame rfl ?_ (hleft ▸ hP), hleft, hright⟩
    show j.Writes P b.journal
    rw [hb]
    exact hwrites

/-- The turn of an observer writes to the spans that it has started, and to the
one that it starts. -/
theorem writes (h : Solo j w) (hturn : Turn v w.observer p' j j') :
    j.Writes (fun i => i ∈ w.started ∨ i = j.spans.length) j' := by
  cases h with
  | other _ hnow =>
    cases hturn with
    | tracing hp => exact absurd hp (hnow _)
    | other _ _ hj' =>
      rw [hj']
      exact .refl
  | @tracing o₀ o _ hnow halone =>
    cases hturn with
    | other hp => exact absurd hnow (hp o)
    | @tracing s hp hj _ hj' =>
      obtain rfl := Participant.tracing.inj (hnow.symm.trans hp)
      -- Any session of the observer alone will do.
      obtain ⟨m, htwin, hleft, -⟩ := halone s.backend ⟨.empty, .empty, []⟩ w.visits hj.symm
        Journal.sound_empty (List.forall₂_same.2 fun _ _ => ⟨rfl, rfl⟩)
      rw [hj, hj', ← hleft]
      exact htwin.writes_next v

/-- A turn of the observer is the same visit to its session and to the one alone. -/
theorem turn (h : Solo j w) (hturn : Turn v w.observer p' j j') :
    Solo j' (w.after v p' j j') := by
  cases h with
  | other hfresh hnow hstarted =>
    cases hturn with
    | tracing hp => exact absurd hp (hnow _)
    | other _ hp' hj' =>
      refine .other hfresh hp' ?_
      rw [hj']
      show w.started ++ j.since j = []
      rw [hstarted, Journal.since_self]
      rfl
  | @tracing o₀ o hfresh hnow halone =>
    cases hturn with
    | other hp => exact absurd hnow (hp o)
    | @tracing s hp hj hp' hj' =>
      obtain rfl := Participant.tracing.inj (hnow.symm.trans hp)
      refine .tracing hfresh hp' fun b b₀ vs₁ hb hb₀ hvisits => ?_
      obtain ⟨vs, v', rfl, hbefore, hv'⟩ := exists_concat_of_forall₂ hvisits
      obtain ⟨m, htwin, hleft, hright⟩ := halone s.backend b₀ vs hj.symm hb₀ hbefore
      have hmore : ∀ c, w.Brought c → (w.after v p' j j').Brought c := by
        rintro c ⟨u, hu, hc⟩
        exact ⟨u, List.mem_append_left _ hu, hc⟩
      obtain ⟨m', htwin', hleft', hright'⟩ := (htwin.mono hmore).next hv'.call hv'.outer
        fun c hc => ⟨v, List.mem_append_right _ (List.mem_singleton_self v), hc⟩
      refine ⟨m', ?_, ?_, ?_⟩
      · rw [Session.run_concat]
        refine htwin'.frame (P := fun _ => False) rfl ?_ fun _ _ h => h
        show (s.next v).journal.Writes _ b.journal
        rw [hb, hj']
        exact .refl
      · rw [hleft', hleft, hj, hj']
        rfl
      · rw [hright', hright, Session.run_concat]
        exact Journal.since_append (Session.length_le_run ⟨o₀, b₀⟩ vs)
          (Session.length_le_run (Session.run ⟨o₀, b₀⟩ vs) [v'])

end Solo

/-! ## All observers -/

/-- The invariant of all observers of a service.  The spans that they start are
the entries from `n` on. -/
structure Isolated (n : Nat) (j : Journal) (ws : List Attended) : Prop where
  sound : j.Sound
  numbered : j.Numbered n
  base : n ≤ j.spans.length
  solo : ∀ w ∈ ws, Solo j w
  own : ∀ w ∈ ws, ∀ i ∈ w.started, n ≤ i ∧ i < j.spans.length
  apart : ws.Pairwise fun w w' => List.Disjoint w.started w'.started

namespace Isolated

variable {n : Nat} {j j' : Journal} {ws before after : List Attended} {w : Attended} {v : Visit}
  {p' : Participant}

theorem idle (hj : j.Sound) : Isolated j.spans.length j [] := by
  refine ⟨hj, ?_, Nat.le_refl _, ?_, ?_, .nil⟩
  · intro i identity hi hidentity
    obtain ⟨span, hspan, -⟩ := Option.map_eq_some_iff.1 hidentity
    exact absurd (List.getElem?_eq_some_iff.1 hspan).1 (Nat.not_lt.2 hi)
  · exact fun w hw => absurd hw List.not_mem_nil
  · exact fun w hw => absurd hw List.not_mem_nil

/-- An observer starts no span of another one. -/
theorem disjoint (h : Isolated n j (before ++ w :: after)) :
    ∀ u ∈ before ++ after, List.Disjoint w.started u.started := by
  have hapart := (List.pairwise_middle List.disjoint_symm).1 h.apart
  exact (List.pairwise_cons.1 hapart).1

/-- One observer takes its turn. -/
theorem turn (h : Isolated n j (before ++ w :: after)) (hturn : Turn v w.observer p' j j') :
    Isolated n j' (before ++ w.after v p' j j' :: after) := by
  have hw : w ∈ before ++ w :: after := by simp
  have hothers : ∀ u ∈ before ++ after, u ∈ before ++ w :: after := by
    intro u hu
    simp only [List.mem_append, List.mem_cons] at hu ⊢
    tauto
  have hwrites := (h.solo w hw).writes hturn
  have hlength := hwrites.length_le
  have hmembers : ∀ u ∈ before ++ w.after v p' j j' :: after,
      u = w.after v p' j j' ∨ u ∈ before ++ after := by
    intro u hu
    simp only [List.mem_append, List.mem_cons] at hu ⊢
    tauto
  refine ⟨hwrites.sound h.sound, hwrites.numbered h.numbered, Nat.le_trans h.base hlength,
    ?_, ?_, ?_⟩
  · intro u hu
    rcases hmembers u hu with rfl | hu
    · exact (h.solo w hw).turn hturn
    · refine (h.solo u (hothers u hu)).frame hwrites ?_
      rintro i hi (hi' | rfl)
      · exact h.disjoint u hu hi' hi
      · exact Nat.lt_irrefl _ (h.own u (hothers u hu) _ hi).2
  · intro u hu i hi
    rcases hmembers u hu with rfl | hu
    · rcases List.mem_append.1 hi with hi | hi
      · obtain ⟨hbase, hlt⟩ := h.own w hw i hi
        exact ⟨hbase, Nat.lt_of_lt_of_le hlt hlength⟩
      · obtain ⟨hbase, hlt⟩ := Journal.mem_since.1 hi
        exact ⟨Nat.le_trans h.base hbase, hlt⟩
    · obtain ⟨hbase, hlt⟩ := h.own u (hothers u hu) i hi
      exact ⟨hbase, Nat.lt_of_lt_of_le hlt hlength⟩
  · have hapart := (List.pairwise_middle List.disjoint_symm).1 h.apart
    refine (List.pairwise_middle List.disjoint_symm).2 (List.pairwise_cons.2 ⟨?_, ?_⟩)
    · intro u hu i hi hi'
      rcases List.mem_append.1 hi with hi | hi
      · exact h.disjoint u hu hi hi'
      · have hlt := (h.own u (hothers u hu) i hi').2
        exact absurd (Journal.mem_since.1 hi).1 (Nat.not_le.2 hlt)
    · exact (List.pairwise_cons.1 hapart).2

/-- The observers of one request are told an event. -/
theorem tell (logger : Nat) (e : Event) (data : Data) {t : Telemetry}
    (h : Isolated n t.journal (before ++ (ws ++ after))) :
    Isolated n (Runner.tell logger e ws data t).telemetry.journal
      (before ++ ((Runner.tell logger e ws data t).observers ++ after)) := by
  induction ws generalizing before data t with
  | nil => exact h
  | cons w rest ih =>
    have hturn := h.turn (turn_react w.observer e data t)
    -- Whoever has had the turn stands before those who have not.
    have hrest : ∀ t', t'.journal = (Observing.react w e data t).telemetry.journal →
        ∀ told, told = Runner.tell logger e rest (Observing.react w e data t).data t' →
        Isolated n told.telemetry.journal
          (before ++ ((Observing.react w e data t).observer :: told.observers ++ after)) := by
      rintro t' ht' told rfl
      rw [List.cons_append, List.append_cons]
      refine ih _ ?_
      rw [ht', ← List.append_cons]
      exact hturn
    cases hfault : (Observing.react w e data t).fault with
    | none =>
      simp only [Runner.tell, hfault]
      exact hrest _ rfl _ rfl
    | some f =>
      cases hreport : Runner.reportFailure logger
          (Observing.kind (Observing.react w e data t).observer) e f
          (Observing.react w e data t).telemetry with
      | error f' =>
        simp only [Runner.tell, hfault, hreport]
        exact hturn
      | ok t' =>
        simp only [Runner.tell, hfault, hreport]
        exact hrest _ (Runner.journal_reportFailure hreport) _ rfl

/-- The observers of one request are closed. -/
theorem closeAll (logger : Nat) {t : Telemetry}
    (h : Isolated n t.journal (before ++ (ws ++ after))) :
    Isolated n (Runner.closeAll logger ws t).2.journal
      (before ++ ((Runner.closeAll logger ws t).1 ++ after)) := by
  induction ws generalizing before t with
  | nil => exact h
  | cons w rest ih =>
    have hturn := h.turn (turn_close w.observer t)
    simp only [Runner.closeAll, List.cons_append]
    rw [List.append_cons]
    refine ih ?_
    rw [← List.append_cons]
    split
    · exact hturn
    · rw [Telemetry.journal_say]
      exact hturn

/-- The runner of one request takes a call. -/
theorem next (c : Trace.Call) {r : Runner Attended} {t : Telemetry}
    (h : Isolated n t.journal (before ++ (r.observers ++ after))) :
    Isolated n (Runner.next (r, t) c).2.journal
      (before ++ ((Runner.next (r, t) c).1.observers ++ after)) := by
  cases c with
  | event e =>
    refine tell r.logger e r.data ?_
    rw [Runner.journal_reportOrder]
    exact h
  | close =>
    simp only [Runner.next, Runner.answer, Runner.close]
    split
    · exact h
    · refine closeAll r.logger ?_
      rw [Runner.journal_reportEarly]
      exact h

/-- New observers have started nothing. -/
theorem enlist {ps : List Participant} (h : Isolated n j ws)
    (hslots : ∀ o, .tracing o ∈ ps → o.tree.slots = []) :
    Isolated n j (ws ++ ps.map .enlist) := by
  have hnew : ∀ w ∈ ps.map Attended.enlist, Solo j w ∧ w.started = [] := by
    intro w hw
    obtain ⟨p, hp, rfl⟩ := List.mem_map.1 hw
    exact ⟨Solo.enlist h.sound fun o ho => hslots o (ho ▸ hp), rfl⟩
  refine ⟨h.sound, h.numbered, h.base, ?_, ?_, ?_⟩
  · intro w hw
    rcases List.mem_append.1 hw with hw | hw
    · exact h.solo w hw
    · exact (hnew w hw).1
  · intro w hw i hi
    rcases List.mem_append.1 hw with hw | hw
    · exact h.own w hw i hi
    · rw [(hnew w hw).2] at hi
      exact absurd hi List.not_mem_nil
  · refine List.pairwise_append.2 ⟨h.apart, ?_, ?_⟩
    · refine List.pairwise_of_forall_mem_list fun w _ w' hw' => ?_
      rw [(hnew w' hw').2]
      exact List.disjoint_nil_right _
    · intro w _ w' hw'
      rw [(hnew w' hw').2]
      exact List.disjoint_nil_right _

end Isolated

namespace Service

variable {s : Service Attended} {n : Nat}

/-- The observers of one request stand between those of the others. -/
theorem exists_observers_set {k : Nat} {r : Runner Attended} (hget : s.runners[k]? = some r) :
    ∃ before after, s.observers = before ++ (r.observers ++ after) ∧ ∀ r' t,
      observers { runners := s.runners.set k r', telemetry := t } =
        before ++ (r'.observers ++ after) := by
  obtain ⟨hlt, hr⟩ := List.getElem?_eq_some_iff.1 hget
  have hset : ∀ r' t, observers { runners := s.runners.set k r', telemetry := t } =
      (s.runners.take k).flatMap (·.observers) ++
        (r'.observers ++ (s.runners.drop (k + 1)).flatMap (·.observers)) := by
    intro r' t
    rw [observers, List.set_eq_take_append_cons_drop, if_pos hlt, List.flatMap_append,
      List.flatMap_cons]
  refine ⟨_, _, ?_, hset⟩
  have hself := hset r s.telemetry
  rw [← hr, List.set_getElem_self hlt] at hself
  rw [← hr]
  exact hself

/-- A deed of a caller leaves the observers isolated. -/
theorem isolated_next (h : Isolated n s.telemetry.journal s.observers) (d : Deed) :
    Isolated n (s.next Attended.enlist d).telemetry.journal
      (s.next Attended.enlist d).observers := by
  cases d with
  | create factories data id operationName =>
    have hobservers : (s.next Attended.enlist (.create factories data id operationName)).observers =
        s.observers ++ (Factory.makeAll factories s.telemetry).1.map Attended.enlist := by
      simp [next, observers, Runner.create]
    have hjournal : (s.next Attended.enlist
        (.create factories data id operationName)).telemetry.journal = s.telemetry.journal := by
      refine Eq.trans ?_ (Factory.journal_makeAll factories s.telemetry)
      exact Runner.journal_create (((Factory.makeAll factories s.telemetry).1).map Attended.enlist)
        data id operationName _
    rw [hobservers, hjournal]
    exact h.enlist fun o ho => Factory.slots_makeAll ho
  | call k c ambient =>
    simp only [next]
    cases hget : s.runners[k]? with
    | none => exact h
    | some r =>
      obtain ⟨before, after, hobservers, hset⟩ := exists_observers_set hget
      rw [hobservers] at h
      simp only [hset]
      exact Isolated.next (t := { s.telemetry with ambient }) c h
  | amend k data =>
    simp only [next]
    cases hget : s.runners[k]? with
    | none => exact h
    | some r =>
      obtain ⟨before, after, hobservers, hset⟩ := exists_observers_set hget
      rw [hobservers] at h
      simp only [hset]
      exact h

/-- The observers are isolated at every point of a run. -/
theorem isolated_run {t : Telemetry} (hsound : t.journal.Sound) (ds : List Deed) :
    Isolated t.journal.spans.length ((idle t).run Attended.enlist ds).telemetry.journal
      ((idle t).run Attended.enlist ds).observers := by
  induction ds using List.reverseRecOn with
  | nil => exact .idle hsound
  | append_singleton ds d ih =>
    rw [run, List.foldl_append]
    exact isolated_next ih d

/-! ## The spans of one observer -/

/-- The parent of a span that an observer has started is none, the span of a
context that was brought to the observer, or another span that it has started. -/
theorem parent_of_started {j : Journal} {w : Attended} (h : Solo j w) {i : Nat}
    (hi : i ∈ w.started) {span : Span} (hspan : j.spans[i]? = some span) {parent : Identity}
    (hparent : span.parent = some parent) :
    (∃ c, w.Brought c ∧ parent = c.identity) ∨
      ∃ k ∈ w.started, j.identity? k = some parent := by
  cases h with
  | other _ _ hstarted =>
    rw [hstarted] at hi
    exact absurd hi List.not_mem_nil
  | @tracing o₀ o _ _ halone =>
    obtain ⟨m, htwin, hleft, -⟩ := halone ⟨j, .empty, []⟩ ⟨.empty, .empty, []⟩ w.visits rfl
      Journal.sound_empty (List.forall₂_same.2 fun _ _ => ⟨rfl, rfl⟩)
    rw [← hleft] at hi ⊢
    obtain ⟨p, hp, rfl⟩ := List.mem_map.1 hi
    obtain ⟨span₁, span', hspan₁, -, -, hsame⟩ := htwin.mirrors.span p hp
    obtain rfl := Option.some.inj (hspan.symm.trans hspan₁)
    cases hsame with
    | root hnone => exact absurd (hparent.symm.trans hnone) (by simp)
    | outer hc houter => exact .inl ⟨_, hc, Option.some.inj (hparent.symm.trans houter)⟩
    | own hq habove _ hown =>
      refine .inr ⟨_, List.mem_map_of_mem hq, ?_⟩
      rw [habove, ← hown, hparent]

/-- The parent of a span is a span of another observer only if the context of that
span was brought, as long as the ids are not used up. -/
theorem brought_of_isBelow {j : Journal} {ws : List Attended} {w w' : Attended}
    (h : Isolated n j ws) (hids : j.spans.length < 2 ^ 64) (hw : w ∈ ws) (hw' : w' ∈ ws)
    (hapart : List.Disjoint w.started w'.started) {i k : Nat} (hi : i ∈ w.started)
    (hk : k ∈ w'.started) {span above : Span} (hspan : j.spans[i]? = some span)
    (habove : j.spans[k]? = some above) (hbelow : span.IsBelow above) :
    ∃ c, w.Brought c ∧ span.parent = some c.identity := by
  obtain ⟨parent, hparent, -, hid⟩ := hbelow
  rcases parent_of_started (h.solo w hw) hi hspan hparent with ⟨c, hc, rfl⟩ | ⟨l, hl, hl'⟩
  · exact ⟨c, hc, hparent⟩
  · -- Both spans would have the id of the parent.
    have hlk : l = k := by
      obtain ⟨hbase, hlt⟩ := h.own w hw l hl
      obtain ⟨hbase', hlt'⟩ := h.own w' hw' k hk
      have hidentity : j.identity? k = some above.identity := by
        rw [Journal.identity?, habove]
        rfl
      have hbound : Nat.pow 2 64 = 2 ^ 64 := rfl
      refine Journal.nextId_inj (n := Nat.pow 2 64) (by omega) (by omega) ?_
      rw [← h.numbered l parent hbase hl', ← h.numbered k _ hbase' hidentity, hid]
    exact absurd (hlk ▸ hl) (fun hmem => hapart hmem hk)

/-- However the calls of many requests interleave, the spans that one observer
starts are, up to their ids, those that it starts when it receives the same visits
alone, from any journal and with anything current.  Two observers start different
spans.  The parent of a span is a span of the same observer, or comes in a context
that the data of its own request brought.  So it is a span of another observer only
if that was brought, as long as the ids are not used up. -/
theorem run_isolates_observers (t : Telemetry) (ds : List Deed) (hsound : t.journal.Sound) :
    let done := (idle t).run Attended.enlist ds
    let j := done.telemetry.journal
    done.map Attended.observer = (idle t).run id ds ∧
    (∀ w ∈ done.observers, ∀ o₀, w.fresh = .tracing o₀ →
      ∀ (b₀ : Backend) (vs : List Visit), b₀.journal.Sound →
        List.Forall₂ SameVisit w.visits vs →
        SameSpans w.Brought j w.started (Session.run ⟨o₀, b₀⟩ vs).journal
          (b₀.journal.since (Session.run ⟨o₀, b₀⟩ vs).journal)) ∧
    (∀ w ∈ done.observers, ∀ i ∈ w.started, ∀ span parent,
      j.spans[i]? = some span → span.parent = some parent →
      (∃ c, w.Brought c ∧ parent = c.identity) ∨
        ∃ k ∈ w.started, j.identity? k = some parent) ∧
    ∀ (a a' : Nat) (w w' : Attended), a ≠ a' →
      done.observers[a]? = some w → done.observers[a']? = some w' →
      List.Disjoint w.started w'.started ∧
      (j.spans.length < 2 ^ 64 → ∀ i ∈ w.started, ∀ k ∈ w'.started, ∀ span above : Span,
        j.spans[i]? = some span → j.spans[k]? = some above → span.IsBelow above →
        ∃ c, w.Brought c ∧ span.parent = some c.identity) := by
  intro done j
  have h : Isolated t.journal.spans.length j done.observers := isolated_run hsound ds
  refine ⟨Attended.run_unattended t ds, ?_, ?_, ?_⟩
  · intro w hw o₀ hfresh b₀ vs hb₀ hvisits
    cases h.solo w hw with
    | other hnever => exact absurd hfresh (hnever o₀)
    | tracing hfresh' _ halone =>
      obtain rfl := Participant.tracing.inj (hfresh.symm.trans hfresh')
      obtain ⟨m, htwin, hleft, hright⟩ := halone ⟨j, .empty, []⟩ b₀ vs rfl hb₀ hvisits
      exact ⟨m, hleft, hright, htwin.mirrors⟩
  · intro w hw i hi span parent hspan hparent
    exact parent_of_started (h.solo w hw) hi hspan hparent
  · intro a a' w w' hne hw hw'
    have hapart : List.Disjoint w.started w'.started := by
      obtain ⟨hlt, rfl⟩ := List.getElem?_eq_some_iff.1 hw
      obtain ⟨hlt', rfl⟩ := List.getElem?_eq_some_iff.1 hw'
      rcases Nat.lt_or_gt_of_ne hne with hlt₁ | hlt₁
      · exact List.pairwise_iff_getElem.1 h.apart a a' hlt hlt' hlt₁
      · exact List.disjoint_symm (List.pairwise_iff_getElem.1 h.apart a' a hlt' hlt hlt₁)
    refine ⟨hapart, fun hids i hi k hk span above hspan habove hbelow => ?_⟩
    exact brought_of_isBelow h hids (List.mem_of_getElem? hw) (List.mem_of_getElem? hw') hapart
      hi hk hspan habove hbelow

/-! ### Two requests of one factory -/

/-- A tracer that refuses nothing. -/
def plainTracer : Tracer :=
  { provider := "provider", scope := "graphql", refuses := fun _ _ => false }

/-- The tracing of a request that is new. -/
def plainObserver : Observer := .create plainTracer true false false

/-- A state without spans. -/
def noSpans : Telemetry := .create .initial [] ⟨2024, 1, 15, 10, 30, 45, 0⟩

/-- The start of parsing. -/
def parse : Trace.Call := .event (.parseStart (some "query") (.dict []))

/-- Two requests of one factory are created, with the data of the second one. -/
def createTwo (data : Data) : List Deed :=
  let factory := Factory.tracing plainTracer Settings.Tracing.production
  [.create [factory] .empty (some "first") none, .create [factory] data (some "second") none]

/-- Two requests are started and parsed in turns. -/
def takeTurns : List Deed :=
  [.call 0 (.event .start) .empty, .call 1 (.event .start) .empty, .call 1 parse .empty,
    .call 0 parse .empty]

/-- The two visits that each of the requests is to its observer. -/
def startAndParse : List Visit :=
  [{ call := .event .start, outer := none, current := .empty },
    { call := parse, outer := none, current := .empty }]

/-- The spans of each of the two requests are those of the same request alone. -/
theorem run_isolates_two_requests :
    let done := (idle noSpans).run Attended.enlist (createTwo .empty ++ takeTurns)
    let alone := Session.run ⟨plainObserver, ⟨.empty, .empty, []⟩⟩ startAndParse
    ∃ w w', done.observers = [w, w'] ∧
      SameSpans w.Brought done.telemetry.journal [0, 3] alone.journal [0, 1] ∧
      SameSpans w'.Brought done.telemetry.journal [1, 2] alone.journal [0, 1] ∧
      List.Disjoint [0, 3] [1, 2] := by
  intro done alone
  obtain ⟨-, hsame, -, hapart⟩ :=
    run_isolates_observers noSpans (createTwo .empty ++ takeTurns) Journal.sound_empty
  -- What the two observers have received and started, by evaluation.
  have hfresh : done.observers.map (·.fresh) = List.replicate 2 (.tracing plainObserver) := rfl
  have hvisits : done.observers.map (·.visits) = List.replicate 2 startAndParse := rfl
  have hstarted : done.observers.map (·.started) = [[0, 3], [1, 2]] := rfl
  obtain ⟨w, rest, hobservers, hw, hrest⟩ := List.map_eq_cons_iff.1 hstarted
  obtain ⟨w', rfl, hw'⟩ := List.map_eq_singleton_iff.1 hrest
  rw [hobservers] at hfresh hvisits hapart
  have hw₀ : w ∈ done.observers := hobservers ▸ List.mem_cons_self ..
  have hw₁ : w' ∈ done.observers := hobservers ▸ List.mem_cons_of_mem _ (List.mem_cons_self ..)
  obtain ⟨hfresh₀, hfresh₁⟩ : w.fresh = .tracing plainObserver ∧
      w'.fresh = .tracing plainObserver := by simpa using hfresh
  obtain ⟨hvisits₀, hvisits₁⟩ : w.visits = startAndParse ∧ w'.visits = startAndParse := by
    simpa using hvisits
  have hsame₀ := hsame w hw₀ _ hfresh₀ ⟨.empty, .empty, []⟩ startAndParse Journal.sound_empty
    (hvisits₀ ▸ List.forall₂_same.2 fun _ _ => ⟨rfl, rfl⟩)
  have hsame₁ := hsame w' hw₁ _ hfresh₁ ⟨.empty, .empty, []⟩ startAndParse Journal.sound_empty
    (hvisits₁ ▸ List.forall₂_same.2 fun _ _ => ⟨rfl, rfl⟩)
  have hdisjoint := (hapart 0 1 w w' (by decide) rfl rfl).1
  rw [hw] at hsame₀ hdisjoint
  rw [hw'] at hsame₁ hdisjoint
  exact ⟨w, w', hobservers, hsame₀, hsame₁, hdisjoint⟩

/-- A request joins the trace of another one, by the ids of the span of that
request: its spans have a span of another observer as their parent. -/
theorem joined_span_is_parent_elsewhere :
    let header : Context := Context.empty.withSpan
      { identity := { traceId := 1, spanId := 1, flags := 1, remote := true, state := [] }
        entry := none }
    let done := (idle noSpans).run Attended.enlist
      (createTwo (Data.empty.join { parent := some header }) ++
        [.call 0 (.event .start) .empty, .call 1 (.event .start) .empty, .call 1 parse .empty])
    done.observers.map (·.started) = [[0], [1]] ∧
      ∃ above span, done.telemetry.journal.spans = [above, span] ∧ span.IsBelow above := by
  intro header done
  exact ⟨rfl, _, _, rfl, _, rfl, rfl, rfl⟩

end Service

end Request

end QueryTelemetry
