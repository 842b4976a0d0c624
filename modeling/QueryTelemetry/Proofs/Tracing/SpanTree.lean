import Mathlib.Data.Set.Function
import Mathlib.Order.Interval.Set.Basic
import QueryTelemetry.Proofs.Tracing.Ledger

/-!
# The tree of spans of a request

A request without an outer trace goes through its phases, and its fields come in
any schedule of their forest.  `run_draws_forest` says that its spans are then a
drawing of the forest (`Draws`): one for the request, for each phase and for each
field that is not orphaned, all ended once without a status, in one trace, each
under the span of the piece of work above it.  Two schedules of a forest give
drawings that differ in the order and the identities of the spans only
(`SameTree`).

`Progress` is the invariant of the run.  It says which lines the ledger has and
which slots are live after a part of the events.
-/

namespace QueryTelemetry.Trace

open Request (Event)

/-! ## The invariant -/

/-- The pieces of work of a ledger. -/
def Lines.works (book : Lines) : List Work := book.map (·.1)

/-- What a session needs to trace a request in full. -/
structure Willing (q : Query) (s₀ : Session) : Prop where
  joined : s₀.observer.joined = false
  start : s₀.observer.tracer.Allows .start
  finish : s₀.observer.tracer.Allows .finish
  shown : ∃ shown, s₀.observer.shownVariables q.bindings = .ok shown

/-- After a part of its events, the ledger of a request lists the traced pieces of
work that have started, and those of them that have not ended are live. -/
structure Progress (f : Forest) (q : Query) (trace : Nat) (s₀ : Session) (done : List Half)
    (book : Lines) (s : Session) : Prop where
  ledger : Ledger f q trace s₀ book s
  requested : .opens .request ∈ done
  begun : ∀ w, w ∈ book.works ↔ f.Traced w ∧ .opens w ∈ done
  live : ∀ w, f.Traced w →
    (s.tree.isLive w.slot = true ↔ .opens w ∈ done ∧ .closes w ∉ done)

/-- The call of an event of a request. -/
def Half.call (q : Query) (e : Half) : Call := .event (e.event q)

theorem left?_closes (q : Query) (w : Work) :
    ((Half.closes w).call q).left? = some w.slot := by
  cases w <;> rfl

namespace Journal

/-- A child of a valid span is recorded if its parent is. -/
theorem isSampled_nextIdentity (j : Journal) {parent : Identity} (h : parent.isValid = true) :
    (j.nextIdentity parent).isSampled = parent.isSampled := by
  rw [nextIdentity, if_pos h]
  simp only [Identity.isSampled]
  congr 1
  omega

theorem traceId_nextIdentity (j : Journal) {parent : Identity} (h : parent.isValid = true) :
    (j.nextIdentity parent).traceId = parent.traceId := by
  rw [nextIdentity, if_pos h]

end Journal

namespace Ledger

variable {f : Forest} {q : Query} {trace : Nat} {s₀ s : Session} {book : Lines} {v : Visit}
  {a w : Work}

theorem shownVariables_eq (h : Ledger f q trace s₀ book s) (bindings : Value) :
    s.observer.shownVariables bindings = s₀.observer.shownVariables bindings := by
  rw [h.observer]
  rfl

/-- A piece of work starts under the live one above it. -/
theorem opens_of_above (h : Ledger f q trace s₀ book s) (hwilling : Willing q s₀)
    (habove : f.Above a w) {parent : Context} (hget : s.tree.get? a.slot = some parent)
    (hcall : v.call = (Half.opens w).call q) :
    Opens s v w.slot w.name parent (w.attributes s₀.observer q false) := by
  cases habove with
  | parse =>
    obtain ⟨⟨shown, notes⟩, hshown⟩ := hwilling.shown
    have hopens := Opens.parse (s := s) hcall hget ((h.shownVariables_eq _).trans hshown)
    rw [h.observer] at hopens
    simp only [Work.attributes, Observer.variablesText, hshown]
    exact hopens
  | validation => exact .validation hcall hget
  | execution =>
    have hopens := Opens.execution (s := s) hcall
    rw [show s.tree.get? .request = some parent from hget] at hopens
    exact hopens
  | top hparent =>
    rw [Forest.slot_of_above (.top hparent : f.Above _ _)] at hget
    exact .field hcall hget
  | nested hp hencloses =>
    rw [Forest.slot_of_above (.nested hp hencloses)] at hget
    exact .field hcall hget

end Ledger

namespace Progress

variable {f : Forest} {q : Query} {trace : Nat} {s₀ s : Session} {done rest : List Half}
  {book : Lines} {v : Visit} {w : Work} {k : Slot}

/-- Only traced pieces of work that have started and not ended are live. -/
theorem exists_of_live (h : Progress f q trace s₀ done book s) (hlive : s.tree.isLive k = true) :
    ∃ w, w.slot = k ∧ f.Traced w ∧ .opens w ∈ done ∧ .closes w ∉ done := by
  obtain ⟨⟨w, identity⟩, hline, rfl⟩ := List.mem_map.1 (h.ledger.booked k hlive)
  obtain ⟨htraced, -⟩ := (h.begun w).1 (List.mem_map_of_mem hline)
  exact ⟨w, rfl, htraced, (h.live w htraced).1 hlive⟩

/-- A slot that no traced piece of work has is not live. -/
theorem get?_eq_none (h : Progress f q trace s₀ done book s)
    (hk : ∀ w, f.Traced w → w.slot ≠ k) : s.tree.get? k = none := by
  cases hget : s.tree.get? k with
  | none => rfl
  | some c =>
    obtain ⟨w, hslot, htraced, -⟩ :=
      h.exists_of_live (by rw [SlotTree.isLive_eq_isSome_get?, hget]; rfl)
    exact absurd hslot (hk w htraced)

theorem exists_line (h : Progress f q trace s₀ done book s) (htraced : f.Traced w)
    (hopened : .opens w ∈ done) :
    ∃ (j : Nat) (identity : Identity), book[j]? = some (w, identity) := by
  obtain ⟨⟨w', identity⟩, hline, rfl⟩ := List.mem_map.1 ((h.begun w).2 ⟨htraced, hopened⟩)
  obtain ⟨j, hj⟩ := List.mem_iff_getElem?.1 hline
  exact ⟨j, identity, hj⟩

/-- An event of an orphaned field changes nothing. -/
theorem skip (h : Progress f q trace s₀ done book s) {e : Half} {r : Request.Resolution}
    (he : e = .opens (.field r) ∨ e = .closes (.field r)) (hr : f.Orphaned r)
    (hcall : v.call = e.call q) : Progress f q trace s₀ (done ++ [e]) book (s.next v) := by
  have hdead : ∀ k, v.call.Leaves k → s.tree.get? k = none := by
    rintro k (hleft | hclose)
    · rcases he with rfl | rfl
      · rw [hcall] at hleft
        cases hleft
      · rw [hcall, left?_closes] at hleft
        obtain rfl := Option.some.inj hleft
        refine h.get?_eq_none fun w htraced hslot => ?_
        obtain rfl := f.eq_of_slot htraced.has (show f.Has (.field r) from hr.mem) hslot
        exact htraced.2 hr
    · rcases he with rfl | rfl <;> exact absurd (hcall.symm.trans hclose) (by simp [Half.call])
  have hopens : ∀ k name parent attributes, ¬ Opens s v k name parent attributes := by
    intro k name parent attributes hopens
    rcases he with rfl | rfl
    · cases hopens with
      | field hcall' hparent =>
        cases hcall.symm.trans hcall'
        rw [h.get?_eq_none fun w htraced => Forest.slot_ne_of_orphaned hr htraced] at hparent
        cases hparent
      | request hcall' | parse hcall' | validation hcall' | execution hcall' =>
        cases hcall.symm.trans hcall'
    · cases hopens with
      | request hcall' | parse hcall' | validation hcall' | execution hcall' | field hcall' =>
        cases hcall.symm.trans hcall'
  have hne : ∀ w, f.Traced w → .opens w ≠ e ∧ .closes w ≠ e := by
    rintro w htraced
    constructor
    · rintro rfl
      obtain rfl : w = .field r := by simpa using he
      exact htraced.2 hr
    · rintro rfl
      obtain rfl : w = .field r := by simpa using he
      exact htraced.2 hr
  have herror : ∀ err, v.call ≠ .event (.error err) := by
    intro err
    rw [hcall]
    rcases he with rfl | rfl <;> simp [Half.call, Half.event]
  have hstart : v.call ≠ .event .start := by
    rw [hcall]
    rcases he with rfl | rfl <;> simp [Half.call, Half.event]
  have hclose : v.call ≠ .close := by
    rw [hcall]
    simp [Half.call]
  obtain ⟨hobserver, hjournal⟩ :=
    Session.next_of_rest (Visit.joins_of_ne hstart) hopens hdead herror hclose
  refine ⟨h.ledger.rest hobserver hjournal, List.mem_append_left _ h.requested, ?_, ?_⟩
  · intro w
    rw [h.begun]
    refine and_congr_right fun htraced => ?_
    simp [(hne w htraced).1]
  · intro w htraced
    rw [Session.tree, hobserver, h.live w htraced]
    simp [(hne w htraced).1, (hne w htraced).2]

/-- The start of a traced piece of work adds its line. -/
theorem opens (h : Progress f q trace s₀ done book s) (hwilling : Willing q s₀)
    (hnested : f.Nested (done ++ .opens w :: rest)) (htraced : f.Traced w)
    (hcall : v.call = (Half.opens w).call q) :
    ∃ book', Progress f q trace s₀ (done ++ [.opens w]) book' (s.next v) := by
  obtain ⟨hw, hopened, hclosed, habove⟩ := hnested.at_opens
  obtain ⟨a, ha, hatraced⟩ := Forest.exists_above htraced (fun hw => hopened (hw ▸ h.requested))
  obtain ⟨haopened, haclosed⟩ := habove a ha
  have halive := (h.live a hatraced).2 ⟨haopened, haclosed⟩
  rw [SlotTree.isLive_eq_isSome_get?] at halive
  obtain ⟨parent, hget⟩ := Option.isSome_iff_exists.1 halive
  obtain ⟨j, identity, hline⟩ := h.exists_line hatraced haopened
  have haline := h.ledger.line j a identity hline
  have hidentity : parent.identity = identity := by
    rw [Context.identity, haline.context parent hget]
  have hvalid : parent.identity.isValid = true := hidentity ▸ haline.valid
  have hslot : ∀ w', f.Traced w' → w'.slot = w.slot → w' = w :=
    fun w' htraced' => f.eq_of_slot htraced'.has hw
  have hnew : w.slot ∉ book.slots := by
    intro hmem
    obtain ⟨⟨w', identity'⟩, hline', hslot'⟩ := List.mem_map.1 hmem
    obtain ⟨htraced', hopened'⟩ := (h.begun w').1 (List.mem_map_of_mem hline')
    exact hopened (hslot w' htraced' hslot' ▸ hopened')
  have hsampled : (s.journal.nextIdentity parent.identity).isSampled = true := by
    rw [Journal.isSampled_nextIdentity _ hvalid, hidentity]
    exact haline.sampled
  have htrace : (s.journal.nextIdentity parent.identity).traceId = trace := by
    rw [Journal.traceId_nextIdentity _ hvalid, hidentity]
    exact haline.trace
  have hparent : book.Parent f w
      (if parent.identity.isValid then some parent.identity else none) := by
    rw [if_pos hvalid, hidentity]
    exact .above ha (List.mem_of_getElem? hline)
  obtain ⟨hledger, hlive⟩ := h.ledger.opens (h.ledger.opens_of_above hwilling ha hget hcall)
    (hwilling.start _) hnew hsampled htrace hparent
  refine ⟨_, hledger, List.mem_append_left _ h.requested, ?_, ?_⟩
  · intro w'
    have hmem : w' ∈ Lines.works (book ++ [(w, s.journal.nextIdentity parent.identity)]) ↔
        w' ∈ book.works ∨ w' = w := by
      simp [Lines.works]
    rw [hmem, h.begun]
    by_cases hw' : w' = w
    · simp [hw', htraced]
    · simp [hw']
  · intro w' htraced'
    rw [hlive, h.live w' htraced']
    by_cases hw' : w' = w
    · simp [hw', hclosed]
    · have hne : w'.slot ≠ w.slot := fun heq => hw' (hslot w' htraced' heq)
      simp [hw', hne]

/-- The end of a traced piece of work ends its span. -/
theorem closes (h : Progress f q trace s₀ done book s) (hwilling : Willing q s₀)
    (hnested : f.Nested (done ++ .closes w :: rest)) (htraced : f.Traced w)
    (hcall : v.call = (Half.closes w).call q) :
    Progress f q trace s₀ (done ++ [.closes w]) book (s.next v) := by
  obtain ⟨hw, hopened, hclosed⟩ := hnested.at_closes
  obtain ⟨j, identity, hline⟩ := h.exists_line htraced hopened
  have hleft : v.call.left? = some w.slot := by rw [hcall, left?_closes]
  have hvalidation : w = .validation →
      v.call = .event (.validationEnd q.complexity q.depth) := by
    rintro rfl
    exact hcall
  obtain ⟨hledger, hlive⟩ := h.ledger.closes hline ((h.live w htraced).2 ⟨hopened, hclosed⟩) hleft
    hvalidation (hwilling.finish _) hwilling.joined
  refine ⟨hledger, List.mem_append_left _ h.requested, ?_, ?_⟩
  · intro w'
    rw [h.begun]
    simp
  · intro w' htraced'
    rw [hlive, h.live w' htraced']
    by_cases hw' : w' = w
    · simp [hw']
    · have hne : w'.slot ≠ w.slot := fun heq => hw' (f.eq_of_slot htraced'.has hw heq)
      simp [hw', hne]

/-- An event of a request keeps the invariant. -/
theorem next (h : Progress f q trace s₀ done book s) (hwilling : Willing q s₀) {e : Half}
    (hnested : f.Nested (done ++ e :: rest)) (hcall : v.call = e.call q) :
    ∃ book', Progress f q trace s₀ (done ++ [e]) book' (s.next v) := by
  cases e with
  | opens w =>
    by_cases htraced : f.Traced w
    · exact h.opens hwilling hnested htraced hcall
    · obtain ⟨r, rfl, hr⟩ := Forest.exists_orphaned hnested.at_opens.1 htraced
      exact ⟨book, h.skip (.inl rfl) hr hcall⟩
  | closes w =>
    by_cases htraced : f.Traced w
    · exact ⟨book, h.closes hwilling hnested htraced hcall⟩
    · obtain ⟨r, rfl, hr⟩ := Forest.exists_orphaned hnested.at_closes.1 htraced
      exact ⟨book, h.skip (.inr rfl) hr hcall⟩

/-- The events of a request keep the invariant. -/
theorem run (h : Progress f q trace s₀ done book s) (hwilling : Willing q s₀) {es : List Half}
    {vs : List Visit} (hnested : f.Nested (done ++ es))
    (hcalls : vs.map (·.call) = es.map (·.call q)) :
    ∃ book', Progress f q trace s₀ (done ++ es) book' (s.run vs) := by
  induction es generalizing done book s vs with
  | nil =>
    obtain rfl := List.map_eq_nil_iff.1 hcalls
    exact ⟨book, by simpa using h⟩
  | cons e es ih =>
    obtain ⟨v, vs, rfl, hv, hcalls⟩ := List.map_eq_cons_iff.1 hcalls
    obtain ⟨book', h'⟩ := h.next hwilling hnested hv
    rw [List.append_cons] at hnested ⊢
    exact ih h' hnested hcalls

/-- The start of a request without an outer trace makes the first line. -/
theorem start (hwilling : Willing q s₀) (htree : s₀.tree.slots = [])
    (hcall : v.call = (Half.opens .request).call q) (houter : v.outer = none) :
    Progress f q (s₀.journal.nextIdentity Identity.invalid).traceId s₀ [.opens .request]
      [(.request, s₀.journal.nextIdentity Identity.invalid)] (s₀.next v) := by
  have hopens : Opens s₀ v Work.request.slot Work.request.name .empty
      (Work.request.attributes s₀.observer q false) := .request hcall houter
  have hledger : Ledger f q (s₀.journal.nextIdentity Identity.invalid).traceId s₀ [] s₀ :=
    .nil htree
  obtain ⟨hledger, hlive⟩ := hledger.opens hopens (hwilling.start _) List.not_mem_nil rfl rfl
    .request
  have hdead : ∀ k, s₀.tree.isLive k = false := by
    intro k
    rw [SlotTree.isLive, htree]
    rfl
  refine ⟨hledger, List.mem_singleton.2 rfl, ?_, ?_⟩
  · intro w
    simp only [Lines.works, List.map_cons, List.map_nil, List.mem_singleton, Half.opens.injEq]
    exact ⟨fun hw => ⟨hw ▸ trivial, hw⟩, fun hw => hw.2⟩
  · intro w htraced
    rw [hlive, hdead]
    simp only [Bool.false_eq_true, or_false, List.mem_singleton, Half.opens.injEq]
    constructor
    · intro hslot
      exact ⟨f.eq_of_slot htraced.has (show f.Has .request from trivial) hslot, by simp⟩
    · rintro ⟨rfl, -⟩
      rfl

end Progress

/-! ## Drawings -/

/-- The spans that a session has started are a drawing of a forest.  The ledger
tells which piece of work each of them belongs to. -/
structure Draws (f : Forest) (q : Query) (s₀ : Session) (book : Lines) (s : Session) : Prop where
  /-- Every traced piece of work has one span, and there are no others. -/
  works : ∀ w, w ∈ book.works ↔ f.Traced w
  once : book.works.Nodup
  length : s.journal.spans.length = s₀.journal.spans.length + book.length
  /-- The span is ended, has no status and stands below that of the piece of work
  above it. -/
  span : ∀ j w identity, book[j]? = some (w, identity) → ∃ parent, book.Parent f w parent ∧
    s.journal.spans[s₀.journal.spans.length + j]? =
      some (w.span s₀.observer q identity parent true)
  /-- It was ended once, and handed on once. -/
  ends : ∀ j, j < book.length →
    s.journal.endsOf (s₀.journal.spans.length + j) =
        s₀.journal.endsOf (s₀.journal.spans.length + j) + 1 ∧
      s.journal.exportsOf (s₀.journal.spans.length + j) =
        s₀.journal.exportsOf (s₀.journal.spans.length + j) + 1
  trace : ∃ trace, ∀ w identity, (w, identity) ∈ book → identity.traceId = trace
  idle : ∀ k, s.tree.get? k = none

/-- In the end of a request the invariant is a drawing. -/
theorem Progress.draws {f : Forest} {q : Query} {trace : Nat} {s₀ s : Session} {es : List Half}
    {book : Lines} (h : Progress f q trace s₀ es book s) (hnested : f.Nested es) :
    Draws f q s₀ book s := by
  have hdead : ∀ w, f.Traced w → s.tree.isLive w.slot = false := by
    intro w htraced
    refine Bool.eq_false_iff.2 fun hlive => ?_
    exact ((h.live w htraced).1 hlive).2 (hnested.at_end htraced.has).2
  have htraced : ∀ w, w ∈ book.works → f.Traced w := fun w hw => ((h.begun w).1 hw).1
  have hmem : ∀ (j : Nat) w identity, book[j]? = some (w, identity) → w ∈ book.works :=
    fun j w identity hline => List.mem_map_of_mem (List.mem_of_getElem? hline)
  refine ⟨?_, ?_, h.ledger.length, ?_, ?_, ⟨trace, ?_⟩, ?_⟩
  · intro w
    rw [h.begun]
    exact ⟨fun hw => hw.1, fun hw => ⟨hw, (hnested.at_end hw.has).1⟩⟩
  · refine List.Nodup.of_map Work.slot ?_
    rw [Lines.works, List.map_map]
    exact h.ledger.slots
  · intro j w identity hline
    obtain ⟨parent, hparent, hspan⟩ := (h.ledger.line j w identity hline).span
    rw [hdead w (htraced w (hmem j w identity hline)), Bool.not_false] at hspan
    exact ⟨parent, hparent, hspan⟩
  · intro j hj
    obtain ⟨⟨w, identity⟩, hline⟩ : ∃ e, book[j]? = some e := ⟨_, List.getElem?_eq_getElem hj⟩
    have hline' := h.ledger.line j w identity hline
    have hends := hline'.ends
    have hexports := hline'.exports
    rw [hdead w (htraced w (hmem j w identity hline))] at hends hexports
    exact ⟨hends, hexports⟩
  · intro w identity hline
    obtain ⟨j, hj⟩ := List.mem_iff_getElem?.1 hline
    exact (h.ledger.line j w identity hj).trace
  · intro k
    cases hget : s.tree.get? k with
    | none => rfl
    | some c =>
      obtain ⟨w, -, hw, -, hclosed⟩ :=
        h.exists_of_live (by rw [SlotTree.isLive_eq_isSome_get?, hget]; rfl)
      exact absurd (hnested.at_end hw.has).2 hclosed

/-- The entries of the spans that a session has started since another one. -/
def Session.startedSince (s₀ s : Session) : Set Nat :=
  Set.Ico s₀.journal.spans.length s.journal.spans.length

/-- Two spans of two sessions differ in their identities only, and stand below
spans that correspond. -/
structure SameBranch (s₀ s s' : Session) (m : Nat → Nat) (span span' : Span) : Prop where
  same : span' = { span with identity := span'.identity, parent := span'.parent }
  below : span.parent = none ∧ span'.parent = none ∨
    ∃ i ∈ s₀.startedSince s, ∃ above above', s.journal.spans[i]? = some above ∧
      s'.journal.spans[m i]? = some above' ∧ span.parent = some above.identity ∧
      span'.parent = some above'.identity

/-- Two sessions have started the same tree of spans. -/
def SameTree (s₀ s s' : Session) : Prop :=
  ∃ m : Nat → Nat, Set.BijOn m (s₀.startedSince s) (s₀.startedSince s') ∧
    ∀ i ∈ s₀.startedSince s, ∃ span span', s.journal.spans[i]? = some span ∧
      s'.journal.spans[m i]? = some span' ∧ SameBranch s₀ s s' m span span'

namespace Draws

variable {f : Forest} {q : Query} {s₀ s s' : Session} {book book' : Lines} {w : Work} {i j : Nat}
  {identity : Identity}

/-- The entry of the span of a piece of work. -/
def entry (s₀ : Session) (book : Lines) (w : Work) : Nat :=
  s₀.journal.spans.length + book.works.idxOf w

/-- The piece of work of an entry. -/
def work (s₀ : Session) (book : Lines) (i : Nat) : Work :=
  (book.works[i - s₀.journal.spans.length]?).getD .request

theorem entry_of_line (h : Draws f q s₀ book s) (hline : book[j]? = some (w, identity)) :
    entry s₀ book w = s₀.journal.spans.length + j := by
  have hwork : book.works[j]? = some w := by rw [Lines.works, List.getElem?_map, hline]; rfl
  obtain ⟨hj, rfl⟩ := List.getElem?_eq_some_iff.1 hwork
  rw [entry, h.once.idxOf_getElem]

theorem work_of_line (s₀ : Session) (hline : book[j]? = some (w, identity)) :
    work s₀ book (s₀.journal.spans.length + j) = w := by
  rw [work, Nat.add_sub_cancel_left, Lines.works, List.getElem?_map, hline]
  rfl

/-- Every traced piece of work has a line. -/
theorem exists_line (h : Draws f q s₀ book s) (hw : f.Traced w) :
    ∃ (j : Nat) (identity : Identity), book[j]? = some (w, identity) := by
  obtain ⟨⟨w, identity⟩, hline, rfl⟩ := List.mem_map.1 ((h.works w).2 hw)
  obtain ⟨j, hj⟩ := List.mem_iff_getElem?.1 hline
  exact ⟨j, identity, hj⟩

/-- Every new span has a line. -/
theorem exists_line_of_mem (h : Draws f q s₀ book s) (hi : i ∈ s₀.startedSince s) :
    ∃ (j : Nat) (w : Work) (identity : Identity), i = s₀.journal.spans.length + j ∧
      f.Traced w ∧ book[j]? = some (w, identity) := by
  obtain ⟨hle, hlt⟩ := Set.mem_Ico.1 hi
  rw [h.length] at hlt
  have hline := List.getElem?_eq_getElem (l := book) (i := i - s₀.journal.spans.length) (by omega)
  refine ⟨i - s₀.journal.spans.length, _, _, by omega, ?_, hline⟩
  exact (h.works _).1 (List.mem_map_of_mem (List.mem_of_getElem? hline))

/-- The entries of the traced pieces of work are those of the new spans. -/
theorem bijOn (h : Draws f q s₀ book s) :
    Set.BijOn (entry s₀ book) { w | f.Traced w } (s₀.startedSince s) ∧
      Set.BijOn (work s₀ book) (s₀.startedSince s) { w | f.Traced w } := by
  have hentry : Set.MapsTo (entry s₀ book) { w | f.Traced w } (s₀.startedSince s) := by
    intro w hw
    obtain ⟨j, identity, hline⟩ := h.exists_line hw
    have hj := (List.getElem?_eq_some_iff.1 hline).1
    rw [h.entry_of_line hline]
    exact Set.mem_Ico.2 ⟨by omega, by rw [h.length]; omega⟩
  have hwork : Set.MapsTo (work s₀ book) (s₀.startedSince s) { w | f.Traced w } := by
    intro i hi
    obtain ⟨j, w, identity, rfl, hw, hline⟩ := h.exists_line_of_mem hi
    rw [work_of_line s₀ hline]
    exact hw
  have hinv : Set.InvOn (work s₀ book) (entry s₀ book) { w | f.Traced w } (s₀.startedSince s) := by
    constructor
    · intro w hw
      obtain ⟨j, identity, hline⟩ := h.exists_line hw
      rw [h.entry_of_line hline, work_of_line s₀ hline]
    · intro i hi
      obtain ⟨j, w, identity, rfl, hw, hline⟩ := h.exists_line_of_mem hi
      rw [work_of_line s₀ hline, h.entry_of_line hline]
  exact ⟨hinv.bijOn hentry hwork, hinv.symm.bijOn hwork hentry⟩

/-- Two drawings of a forest are the same tree. -/
theorem sameTree (h : Draws f q s₀ book s) (h' : Draws f q s₀ book' s') : SameTree s₀ s s' := by
  refine ⟨entry s₀ book' ∘ work s₀ book, h'.bijOn.1.comp h.bijOn.2, ?_⟩
  -- What corresponds to the entry of a line is the entry of the same piece of work.
  have hmatch : ∀ {j j' : Nat} {w : Work} {identity identity' : Identity},
      book[j]? = some (w, identity) → book'[j']? = some (w, identity') →
      (entry s₀ book' ∘ work s₀ book) (s₀.journal.spans.length + j) =
        s₀.journal.spans.length + j' := by
    intro j j' w identity identity' hline hline'
    rw [Function.comp_apply, work_of_line s₀ hline, h'.entry_of_line hline']
  intro i hi
  obtain ⟨j, w, identity, rfl, hw, hline⟩ := h.exists_line_of_mem hi
  obtain ⟨j', identity', hline'⟩ := h'.exists_line hw
  obtain ⟨parent, hparent, hspan⟩ := h.span j w identity hline
  obtain ⟨parent', hparent', hspan'⟩ := h'.span j' w identity' hline'
  refine ⟨_, _, hspan, by rw [hmatch hline hline', hspan'], rfl, ?_⟩
  cases hparent with
  | request =>
    cases hparent' with
    | request => exact .inl ⟨rfl, rfl⟩
    | above habove => cases habove
  | @above a _ above habove hbooked =>
    cases hparent' with
    | request => cases habove
    | @above a' _ above' habove' hbooked' =>
      obtain rfl := habove.unique habove'
      obtain ⟨k, hk⟩ := List.mem_iff_getElem?.1 hbooked
      obtain ⟨k', hk'⟩ := List.mem_iff_getElem?.1 hbooked'
      obtain ⟨_, -, haspan⟩ := h.span k a above hk
      obtain ⟨_, -, haspan'⟩ := h'.span k' a above' hk'
      have hlt := (List.getElem?_eq_some_iff.1 haspan).1
      exact .inr ⟨_, Set.mem_Ico.2 ⟨by omega, hlt⟩, _, _, haspan, by rw [hmatch hk hk', haspan'],
        rfl, rfl⟩

end Draws

/-! ## Every schedule draws its forest -/

/-- The visits tell a request with the events of its fields, which brings no outer
trace. -/
def Tells (q : Query) (es : List Half) (vs : List Visit) : Prop :=
  vs.map (·.call) = (requestOf es).map (·.call q) ∧ ∀ v ∈ vs, v.outer = none

theorem exists_draws {f : Forest} {q : Query} {s₀ : Session} {es : List Half} {vs : List Visit}
    (hwilling : Willing q s₀) (htree : s₀.tree.slots = []) (hschedule : f.Schedule es)
    (htells : Tells q es vs) : ∃ book, Draws f q s₀ book (s₀.run vs) := by
  obtain ⟨hcalls, houter⟩ := htells
  obtain ⟨v, vs, rfl, hcall, hcalls⟩ := List.map_eq_cons_iff.1 hcalls
  have hnested := hschedule.request
  have hstart := Progress.start (f := f) hwilling htree hcall (houter v (List.mem_cons_self ..))
  obtain ⟨book, hprogress⟩ := hstart.run hwilling hnested hcalls
  exact ⟨book, hprogress.draws hnested⟩

/-- Whatever the schedule of the fields of a request, its spans are a drawing of
the forest, and another schedule gives the same tree of spans. -/
theorem run_draws_forest (f : Forest) (q : Query) (t : Tracer)
    (includeSource includeVariables strict : Bool) (s₀ : Session) (es : List Half)
    (vs : List Visit) (hfresh : s₀.observer = .create t includeSource includeVariables strict)
    (hstart : t.Allows .start) (hfinish : t.Allows .finish)
    (hshown : ∃ shown, s₀.observer.shownVariables q.bindings = .ok shown)
    (hschedule : f.Schedule es) (htells : Tells q es vs) :
    (∃ book, Draws f q s₀ book (s₀.run vs)) ∧
      ∀ es' vs', f.Schedule es' → Tells q es' vs' → SameTree s₀ (s₀.run vs) (s₀.run vs') := by
  have hwilling : Willing q s₀ := by
    refine ⟨by rw [hfresh]; rfl, ?_, ?_, hshown⟩
    · rw [hfresh]
      exact hstart
    · rw [hfresh]
      exact hfinish
  have htree : s₀.tree.slots = [] := by
    rw [Session.tree, hfresh]
    rfl
  obtain ⟨book, hdraws⟩ := exists_draws hwilling htree hschedule htells
  refine ⟨⟨book, hdraws⟩, fun es' vs' hschedule' htells' => ?_⟩
  obtain ⟨book', hdraws'⟩ := exists_draws hwilling htree hschedule' htells'
  exact hdraws.sameTree hdraws'

/-- Two fields with one field each below them, and an orphan: one branch after the
other, or all at once. -/
theorem run_draws_both_branches :
    let t : Tracer := { provider := "provider", scope := "graphql", refuses := fun _ _ => false }
    let b : Backend := { journal := .empty, current := .empty, notes := [] }
    let s₀ : Session := ⟨.create t true false true, b⟩
    let q : Query :=
      { source := none, bindings := .dict [], document := .null, complexity := 0, depth := 2 }
    let field (id : Int) (parent : Option Int) : Request.Resolution :=
      .make ⟨id, parent⟩ none "Query" "Int"
    let left := field 1 none
    let right := field 2 (some 0)
    let below := field 3 (some 1)
    let beneath := field 4 (some 2)
    let orphan := field 5 (some 9)
    let visits (es : List Half) : List Visit :=
      (requestOf es).map fun e => { call := e.call q, outer := none, current := .empty }
    let apart := halvesOf orphan ++ [.opens (.field left)] ++ halvesOf below ++
      [.closes (.field left), .opens (.field right)] ++ halvesOf beneath ++
      [.closes (.field right)]
    let mixed := [.opens (.field left), .opens (.field right), .opens (.field orphan),
      .opens (.field below), .opens (.field beneath), .closes (.field below),
      .closes (.field left), .closes (.field orphan), .closes (.field beneath),
      .closes (.field right)]
    (s₀.run (visits apart)).journal.spans.length = 8 ∧
      (s₀.run (visits mixed)).journal.spans.length = 8 ∧
      SameTree s₀ (s₀.run (visits apart)) (s₀.run (visits mixed)) := by
  intro t b s₀ q field left right below beneath orphan visits apart mixed
  let f : Forest :=
    { fields := [left, right, below, beneath, orphan]
      distinct := by decide
      nonzero := by decide }
  have hschedule : ∀ es, es = apart ∨ es = mixed → f.Schedule es := by
    rintro es (rfl | rfl)
    · decide
    · decide
  have htells : ∀ es, Tells q es (visits es) := by
    intro es
    refine ⟨?_, ?_⟩
    · simp [visits]
    · simp [visits]
  obtain ⟨-, hsame⟩ := run_draws_forest f q t true false true s₀ apart (visits apart) rfl
    (fun _ => rfl) (fun _ => rfl) ⟨_, rfl⟩ (hschedule _ (.inl rfl)) (htells _)
  exact ⟨by decide, by decide, hsame mixed _ (hschedule _ (.inr rfl)) (htells _)⟩

end QueryTelemetry.Trace
