import QueryTelemetry.Proofs.Tracing.Conservation
import QueryTelemetry.Proofs.Tracing.Writes

/-!
# The span of an outer trace

A request may bring a context to join, and the span of that context is not the
observer's.  It is kept in the slot of the request, beside the slots of spans
that the observer ends.  `Sheltered` is the invariant that keeps it from them:
the slot of the request holds the outer context and nothing else, the observer
does not own it then, and every other slot holds a span of the session.

So a run writes to the spans of the session only (`Sheltered.run`).  Nothing is
asked of the outer span, and the phases that start while the slot of the request
is live are its children (`outer_span_left_alone`).
-/

namespace QueryTelemetry.Trace.Session

/-- The invariant of the slots of a session whose requests bring an outer context.
The spans of the session are the entries from `n` on. -/
structure Sheltered (n : Nat) (outer : Context) (s : Session) : Prop where
  base : n ≤ s.journal.spans.length
  nodup : s.tree.keys.Nodup
  request : ∀ c, s.tree.get? .request = some c → c = outer ∧ s.observer.joined = true
  own : ∀ k c, k ≠ .request → s.tree.get? k = some c →
    ∃ i, c.current.entry = some i ∧ n ≤ i

namespace Sheltered

variable {n : Nat} {outer : Context} {s : Session} {v : Visit}

/-- The owned slots hold spans of the session. -/
theorem holdsOnly (h : Sheltered n outer s) :
    ∀ e ∈ s.tree.slots, s.observer.HoldsOnly (n ≤ ·) e := by
  intro e he hown
  have hget : s.tree.get? e.1 = some e.2 := Assoc.get?_of_mem h.nodup he
  by_cases hk : e.1 = .request
  · rw [hk] at hget hown
    obtain ⟨-, hjoined⟩ := h.request e.2 hget
    simp [Observer.owns, hjoined] at hown
  · exact h.own e.1 e.2 hk hget

/-- A visit that brings the outer context starts no span for the slot of the
request. -/
theorem ne_request (houter : v.outer = some outer) {k : Slot} {name : String} {parent : Context}
    {attributes : Fields} (hopens : Opens s v k name parent attributes) : k ≠ .request := by
  cases hopens with
  | request _ hnone =>
    rw [houter] at hnone
    exact absurd hnone (by simp)
  | parse | validation | execution | field => simp

protected theorem next (h : Sheltered n outer s) (houter : v.outer = some outer) :
    Sheltered n outer (s.next v) := by
  refine ⟨?_, nodup_next h.nodup v, ?_, ?_⟩
  · have hbase := h.base
    rcases length_next s v with hlength | ⟨hlength, -⟩ <;> omega
  · intro c hget
    rcases get?_next hget with hget | ⟨name, parent, attributes, hopens, -, -⟩ |
      ⟨-, -, hc, hjoined⟩
    · obtain ⟨hc, hjoined⟩ := h.request c hget
      refine ⟨hc, ?_⟩
      rw [joined_next, hjoined, Bool.true_or]
    · exact absurd rfl (ne_request houter hopens)
    · exact ⟨Option.some.inj (hc.symm.trans houter), hjoined⟩
  · intro k c hk hget
    rcases get?_next hget with hget | ⟨name, parent, attributes, -, rfl, -⟩ | ⟨hrequest, -⟩
    · exact h.own k c hk hget
    · exact ⟨s.journal.spans.length, entry_started .., h.base⟩
    · exact absurd hrequest hk

/-- A run keeps the outer context apart, and writes to spans of the session only. -/
theorem run (h : Sheltered n outer s) (vs : List Visit)
    (houter : ∀ v ∈ vs, v.outer = some outer) :
    Sheltered n outer (s.run vs) ∧ s.journal.Writes (n ≤ ·) (s.run vs).journal := by
  induction vs generalizing s with
  | nil => exact ⟨h, .refl⟩
  | cons v vs ih =>
    have hvisit : v.outer = some outer := houter v (List.mem_cons_self ..)
    have hwrites := writes_next h.holdsOnly h.base v
    obtain ⟨hrun, hrest⟩ := ih (h.next hvisit) fun w hw => houter w (List.mem_cons_of_mem _ hw)
    exact ⟨hrun, hwrites.trans hrest⟩

/-- A phase that starts while the slot of the request is live is a child of the
outer span. -/
theorem parent_of_opens (h : Sheltered n outer s) (hlive : s.tree.isLive .request = true)
    {k : Slot} {name : String} {parent : Context} {attributes : Fields}
    (hopens : Opens s v k name parent attributes) (hrequest : k ≠ .request)
    (hfield : ∀ id, k ≠ .field id) : parent = outer := by
  rw [SlotTree.isLive_eq_isSome_get?] at hlive
  obtain ⟨c, hget⟩ := Option.isSome_iff_exists.1 hlive
  obtain ⟨rfl, -⟩ := h.request c hget
  cases hopens with
  | request => exact absurd rfl hrequest
  | parse _ hparent | validation _ hparent => exact Option.some.inj (hparent.symm.trans hget)
  | execution => rw [hget, Option.getD_some]
  | field => exact absurd rfl (hfield _)

end Sheltered

/-- In a run whose requests all bring the context of one valid span, nothing is
asked of that span, neither its end nor data.  No span is started for a request,
and every span of parsing, validation or execution that is started while the slot
of the request is live is a child of the outer span, in its trace. -/
theorem outer_span_left_alone (t : Tracer) (includeSource includeVariables strict : Bool)
    (s₀ : Session) (outer : Context) (vs : List Visit)
    (hfresh : s₀.observer = .create t includeSource includeVariables strict)
    (hvalid : outer.identity.isValid = true)
    (hforeign : Foreign s₀.journal.spans.length (some outer))
    (houter : ∀ v ∈ vs, v.outer = some outer) :
    (∃ more, (s₀.run vs).journal.acts = s₀.journal.acts ++ more ∧
      ∀ a ∈ more, a.span.entry ≠ outer.current.entry) ∧
    (∀ i, outer.current.entry = some i → i < s₀.journal.spans.length →
      s₀.journal.Same (s₀.run vs).journal i) ∧
    ∀ i span, s₀.journal.spans.length ≤ i → (s₀.run vs).journal.spans[i]? = some span →
      Occurs s₀ vs fun s v => Starts i s v ∧ ∃ k name parent attributes,
        Opens s v k name parent attributes ∧ k ≠ .request ∧
          ((∀ id, k ≠ .field id) → s.tree.isLive .request = true →
            span.parent = some outer.identity ∧
              span.identity.traceId = outer.identity.traceId) := by
  have hsheltered : Sheltered s₀.journal.spans.length outer s₀ := by
    refine ⟨Nat.le_refl _, ?_, ?_, ?_⟩
    · rw [tree, hfresh]
      exact List.nodup_nil
    · intro c hget
      rw [tree, hfresh] at hget
      exact absurd hget (by simp [Observer.create, SlotTree.empty, SlotTree.get?, Assoc.get?])
    · intro k c _ hget
      rw [tree, hfresh] at hget
      exact absurd hget (by simp [Observer.create, SlotTree.empty, SlotTree.get?, Assoc.get?])
  obtain ⟨-, hwrites⟩ := hsheltered.run vs houter
  refine ⟨?_, ?_, ?_⟩
  · obtain ⟨more, hacts, hmore⟩ := hwrites.acts
    refine ⟨more, hacts, fun a ha hentry => ?_⟩
    obtain ⟨i, hi, hle⟩ := hmore a ha
    have hlt := hforeign outer i rfl (hentry.symm.trans hi)
    omega
  · intro i _ hlt
    exact hwrites.same (Nat.not_le.2 hlt) hlt
  · intro i span hi hspan
    have hlt := (List.getElem?_eq_some_iff.1 hspan).1
    obtain ⟨before, v, after, rfl, hstarts⟩ := occurs_starts hi hlt
    refine ⟨before, v, after, rfl, hstarts, ?_⟩
    obtain ⟨hmiddle, -⟩ := hsheltered.run before fun w hw => houter w (by simp [hw])
    have hvisit : v.outer = some outer := houter v (by simp)
    obtain ⟨k, name, parent, attributes, hopens, _, _, _, _, hstarted⟩ := span_of_starts hstarts
    -- What was said of the span at its start stands until the end of the run.
    obtain ⟨-, hwrites'⟩ := (hmiddle.next hvisit).run after fun w hw => houter w (by simp [hw])
    obtain ⟨_, _, _, _, hspan'⟩ := hwrites'.retains i _ hstarted
    rw [run_append] at hspan
    obtain rfl := Option.some.inj (hspan.symm.trans hspan')
    have hrequest := Sheltered.ne_request hvisit hopens
    refine ⟨k, name, parent, attributes, hopens, hrequest, fun hfield hlive => ?_⟩
    obtain rfl := hmiddle.parent_of_opens hlive hopens hrequest hfield
    constructor
    · exact if_pos hvalid
    · simp only [Journal.newSpan, Journal.nextIdentity, hvalid, if_true]

/-- A request that joins the trace of a local span, and starts twice. -/
theorem server_span_left_alone :
    let t : Tracer := { provider := "provider", scope := "graphql", refuses := fun _ _ => false }
    let started := Journal.empty.opened t "server" .empty .internal []
    let server := Context.empty.withSpan started.1
    let s₀ : Session :=
      ⟨.create t false false true, { journal := started.2, current := .empty, notes := [] }⟩
    let visit (call : Call) : Visit := { call, outer := some server, current := .empty }
    let vs := [visit (.event .start), visit (.event .start), visit (.event .executionStart),
      visit (.event .finish), visit .close]
    started.2.Same (s₀.run vs).journal 0 ∧
      (∀ a ∈ (s₀.run vs).journal.acts, a.span.entry ≠ some 0) ∧
      (s₀.run vs).journal.spans.map (·.parent) = [none, some server.identity] := by
  intro t started server s₀ visit vs
  obtain ⟨⟨more, hacts, hmore⟩, hsame, -⟩ := outer_span_left_alone t false false true s₀ server
    vs rfl (by decide) (fun c i hc hi => by cases hc; cases hi; decide) (by simp [vs, visit])
  refine ⟨hsame 0 rfl (by decide), ?_, by decide +kernel⟩
  rw [hacts]
  exact hmore

end QueryTelemetry.Trace.Session
