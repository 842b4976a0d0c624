import QueryTelemetry.Proofs.Tracing.Move

/-!
# Calls that come late

Workers may outlive a request, and then their calls reach the observer after the
close.  A hook looks for the context that it needs in a slot, and a close leaves
none.  So the hook of a late call rests (`hook_of_no_slots`), unless it is the
start of a request or of its execution: these two need no slot, and they are the
calls that `Call.revives` names.

`late_calls_rest` says it for runs.  From a close on, calls that do not revive the
session change nothing and raise nothing, in any order and however often, whatever
happened before the close.
-/

namespace QueryTelemetry.Trace

/-- A call starts work even where no slot is live. -/
def Call.revives : Call → Bool
  | .event .start => true
  | .event .executionStart => true
  | _ => false

theorem SlotTree.get?_of_no_slots {t : SlotTree} (h : t.slots = []) (k : Slot) :
    t.get? k = none := by
  rw [get?, h]
  rfl

/-! ## Hooks without a slot -/

namespace Observer

variable {o : Observer}

theorem release_of_dead {k : Slot} (h : o.tree.get? k = none) (b : Backend) :
    o.release k b = o.idle b := by
  simp only [release, SlotTree.exit, h]

theorem annotate_of_dead {k : Slot} (h : o.tree.get? k = none) (attributes : Fields)
    (b : Backend) : o.annotate k attributes b = b := by
  simp only [annotate, h]

/-- Where no slot is live, the hook of an event rests, unless it starts the request
or its execution. -/
theorem hook_of_no_slots (h : o.tree.slots = []) {e : Request.Event}
    (hlate : Call.revives (.event e) = false) (outer : Option Context) (b : Backend) :
    o.hook outer e b = o.idle b := by
  have hdead := SlotTree.get?_of_no_slots h
  cases e with
  | start | executionStart => exact absurd hlate (by simp [Call.revives])
  | parseStart query bindings => simp only [hook, onParseStart, hdead]
  | validationStart => simp only [hook, onValidationStart, hdead]
  | resolveStart r => simp only [hook, onResolveStart, hdead]
  | error err => simp only [hook, onError, hdead]
  | parseEnd _ | executionEnd | resolveEnd _ | finish => exact release_of_dead (hdead _) b
  | validationEnd complexity depth =>
    simp only [hook, annotate_of_dead (hdead _)]
    exact release_of_dead (hdead _) b

theorem close_of_no_slots (h : o.tree.slots = []) (b : Backend) : o.close b = o.idle b := by
  simp only [close, SlotTree.drain, h, List.reverse_nil]

end Observer

/-! ## Sessions without a slot -/

namespace Session

variable {s : Session} {v : Visit}

/-- Where no slot is live, a visit that does not revive the session does nothing. -/
theorem answer_of_no_slots (h : s.tree.slots = []) (hlate : v.call.revives = false) :
    s.answer v = s.observer.idle { s.backend with current := v.current } := by
  unfold answer
  cases hcall : v.call with
  | event e =>
    rw [hcall] at hlate
    exact Observer.hook_of_no_slots h hlate ..
  | close => exact Observer.close_of_no_slots h _

/-- Where no slot is live, visits that do not revive the session change nothing but the
current context. -/
theorem run_of_no_slots (h : s.tree.slots = []) {late : List Visit}
    (hlate : ∀ w ∈ late, w.call.revives = false) :
    ∃ current, s.run late = ⟨s.observer, { s.backend with current }⟩ := by
  induction late using List.reverseRecOn with
  | nil => exact ⟨s.backend.current, rfl⟩
  | append_singleton late w ih =>
    obtain ⟨current, hrun⟩ := ih fun w' hw' => hlate w' (List.mem_append_left _ hw')
    have hanswer := answer_of_no_slots (s := s.run late) (by rw [hrun]; exact h)
      (hlate w (by simp))
    refine ⟨w.current, ?_⟩
    rw [run_concat, next, hanswer, hrun]
    rfl

/-- An outcome raises nothing and leaves a session as it is, up to the current
context. -/
structure Rests (s : Session) (out : Outcome) : Prop where
  fault : out.fault = none
  observer : out.observer = s.observer
  journal : out.backend.journal = s.journal
  notes : out.backend.notes = s.backend.notes

/-- After any visits that end with a close no slot is live, and visits that start
neither the request nor its execution leave everything as the close left it.  They raise
no fault, and the slots stay empty.  In the journal no span is started or ended, and
nothing is recorded of one or asked of it; no note is left either. -/
theorem late_calls_rest (s₀ : Session) (vs late : List Visit) (v : Visit)
    (hclose : v.call = .close) (hlate : ∀ w ∈ late, w.call.revives = false) :
    let s := s₀.run (vs ++ [v])
    s.tree.keys = [] ∧
      ∀ before w after, late = before ++ w :: after → s.Rests ((s.run before).answer w) := by
  intro s
  have hslots : s.tree.slots = [] := by
    show (s₀.run (vs ++ [v])).tree.slots = []
    rw [run_concat, tree, next, (answer_close _ hclose).1]
  refine ⟨by rw [SlotTree.keys, hslots]; rfl, ?_⟩
  rintro before w after rfl
  obtain ⟨current, hrun⟩ := run_of_no_slots hslots
    fun w' hw' => hlate w' (List.mem_append_left _ hw')
  rw [answer_of_no_slots (by rw [hrun]; exact hslots) (hlate w (by simp)), hrun]
  exact ⟨rfl, rfl, rfl, rfl⟩

/-- A request is closed while a field is resolved.  Then the workers report a nested
field, an error, the end of the field and the ends of all phases. -/
theorem late_calls_rest_after_abandoned_field :
    let t : Tracer := { provider := "provider", scope := "graphql", refuses := fun _ _ => false }
    let b : Backend := { journal := .empty, current := .empty, notes := [] }
    let s₀ : Session := ⟨.create t true true true, b⟩
    let visit (call : Call) : Visit := { call, outer := none, current := .empty }
    let field (current parent : Int) : Request.Resolution :=
      { id := { current, parent := some parent }, path := "user", parentType := "Query"
        returnType := "User" }
    let vs := [visit (.event .start), visit (.event .executionStart),
      visit (.event (.resolveStart (field 1 0)))]
    let workers := [visit (.event (.resolveStart (field 2 1))),
      visit (.event (.error (.text "late"))), visit (.event (.resolveEnd (field 1 0))),
      visit (.event (.validationEnd 3 2)), visit (.event .finish)]
    let s := s₀.run (vs ++ [visit .close])
    s.journal.spans.length = 3 ∧ s.Rests ((s.run workers).answer (visit .close)) := by
  intro t b s₀ visit field vs workers s
  have hlate : ∀ w ∈ workers ++ [visit .close], w.call.revives = false := by
    simp [workers, visit, Call.revives]
  have hrest := (late_calls_rest s₀ vs (workers ++ [visit .close]) (visit .close) rfl hlate).2
  exact ⟨by decide +kernel, hrest workers (visit .close) [] rfl⟩

end Session

end QueryTelemetry.Trace
