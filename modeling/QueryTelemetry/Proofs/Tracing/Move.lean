import Mathlib.Data.List.Induction
import QueryTelemetry.Proofs.Tracing.Entry

/-!
# What one visit can do

`Move` lists everything that one visit can do to the slots, to the mark of an
outer trace and to the journal.  `Opens` says for which visits, slots and
contexts a span is started, and `Call.left?` which slot a call leaves.
`move_answer` says that every visit makes one of the moves.  Invariants of runs
are proved by cases on the move.  A move says nothing about the current context:
only what concerns that unfolds the hooks once more.
-/

namespace QueryTelemetry.Trace

open Request (Event)

/-! ## Which slots a call concerns -/

/-- The slot that a call leaves at the end of a piece of work. -/
def Call.left? : Call → Option Slot
  | .event (.parseEnd _) => some .parse
  | .event (.validationEnd ..) => some .validation
  | .event .executionEnd => some .execution
  | .event (.resolveEnd r) => some (.field r.id.current)
  | .event .finish => some .request
  | _ => none

/-- A call leaves a slot: at the end of its piece of work, or because every slot
is left. -/
def Call.Leaves (call : Call) (k : Slot) : Prop := call.left? = some k ∨ call = .close

/-- The span that a visit starts: its slot, its name, the context above it and
its attributes. -/
inductive Opens (s : Session) (v : Visit) : Slot → String → Context → Fields → Prop where
  | request (hcall : v.call = .event .start) (houter : v.outer = none) :
      Opens s v .request requestName .empty []
  | parse {query : Option String} {bindings : Value} {shown : Option String}
      {notes : List Log.HostRecord} {parent : Context}
      (hcall : v.call = .event (.parseStart query bindings))
      (hparent : s.tree.get? .request = some parent)
      (hshown : s.observer.shownVariables bindings = .ok (shown, notes)) :
      Opens s v .parse parseName parent
        (parseAttributes (if s.observer.includeSource then query else none) shown)
  | validation {parent : Context} (hcall : v.call = .event .validationStart)
      (hparent : s.tree.get? .request = some parent) :
      Opens s v .validation validationName parent []
  | execution (hcall : v.call = .event .executionStart) :
      Opens s v .execution executeName ((s.tree.get? .request).getD .empty) []
  | field {r : Request.Resolution} {parent : Context}
      (hcall : v.call = .event (.resolveStart r))
      (hparent : s.tree.get? (Observer.enclosingSlot r.id) = some parent) :
      Opens s v (.field r.id.current) r.path parent
        (resolveAttributes r.id.current r.parentType r.returnType)

theorem Opens.not_leaves {s : Session} {v : Visit} {k k' : Slot} {name : String}
    {parent : Context} {attributes : Fields} (h : Opens s v k name parent attributes) :
    ¬ v.call.Leaves k' := by
  cases h with
  | request hcall | parse hcall | validation hcall | execution hcall | field hcall =>
    rw [hcall]
    simp [Call.Leaves, Call.left?]

/-- A visit starts at most one span. -/
theorem Opens.unique {s : Session} {v : Visit} {k k' : Slot} {name name' : String}
    {parent parent' : Context} {attributes attributes' : Fields}
    (h : Opens s v k name parent attributes) (h' : Opens s v k' name' parent' attributes') :
    k' = k ∧ name' = name ∧ parent' = parent ∧ attributes' = attributes := by
  cases h <;> cases h' <;> simp_all

/-- A visit brings an outer context to the start of a request. -/
def Visit.joins (v : Visit) : Bool :=
  match v.call with
  | .event .start => v.outer.isSome
  | _ => false

theorem Visit.joins_of_ne {v : Visit} (h : v.call ≠ .event .start) : v.joins = false := by
  unfold joins
  split
  · next hcall => exact absurd hcall h
  · rfl

theorem Visit.exists_outer_of_joins {v : Visit} (h : v.joins = true) :
    v.call = .event .start ∧ ∃ c, v.outer = some c := by
  unfold joins at h
  split at h
  · next hcall => exact ⟨hcall, Option.isSome_iff_exists.1 h⟩
  · exact absurd h (by decide)

theorem Visit.outer_ne_none_of_joins {v : Visit} (h : v.joins = true) : v.outer ≠ none := by
  rintro houter
  unfold joins at h
  split at h
  · rw [houter] at h
    exact absurd h (by decide)
  · exact absurd h (by decide)

theorem Opens.joins {s : Session} {v : Visit} {k : Slot} {name : String} {parent : Context}
    {attributes : Fields} (h : Opens s v k name parent attributes) : v.joins = false := by
  cases h with
  | request hcall houter => simp only [Visit.joins, hcall, houter, Option.isSome_none]
  | parse hcall | validation hcall | execution hcall | field hcall =>
    exact Visit.joins_of_ne (by rw [hcall]; simp)

theorem Call.joins_of_left? {v : Visit} {k : Slot} (h : v.call.left? = some k) :
    v.joins = false := by
  refine Visit.joins_of_ne fun hcall => ?_
  rw [hcall] at h
  exact absurd h (by simp [left?])

/-! ## The moves -/

/-- The span that a session starts next, and the journal with it. -/
abbrev Session.started (s : Session) (name : String) (parent : Context) (attributes : Fields) :
    SpanRef × Journal :=
  s.journal.opened s.observer.tracer name parent .server attributes

/-- Everything that one visit can do. -/
inductive Move (s : Session) (v : Visit) (out : Outcome) : Prop where
  /-- Nothing happens to the slots and to the journal, for nothing is to be
  started and nothing to be left. -/
  | rest (hjoins : v.joins = false)
      (hidle : ∀ k name parent attributes, Opens s v k name parent attributes →
        s.observer.tracer.refuses .start name = true)
      (hdead : ∀ k, v.call.Leaves k → s.tree.get? k = none)
      (hobserver : out.observer = s.observer) (hjournal : out.backend.journal = s.journal)
  /-- A span is started and kept in its slot. -/
  | opened {k : Slot} {name : String} {parent : Context} {attributes : Fields}
      (hopens : Opens s v k name parent attributes)
      (hstart : s.observer.tracer.refuses .start name = false)
      (haccepted : (s.tree.isLive k && s.tree.strict) = false)
      (hobserver : out.observer = { s.observer with
        tree := s.tree.put k (parent.withSpan (s.started name parent attributes).1) })
      (hjournal : out.backend.journal = (s.started name parent attributes).2)
      (hfault : out.fault = none)
  /-- A span is started for a live slot of a strict tree and ended at once. -/
  | rejected {k : Slot} {name : String} {parent : Context} {attributes : Fields}
      (hopens : Opens s v k name parent attributes)
      (hstart : s.observer.tracer.refuses .start name = false)
      (hlive : s.tree.isLive k = true) (hstrict : s.tree.strict = true)
      (hobserver : out.observer = s.observer)
      (hjournal : out.backend.journal =
        (s.started name parent attributes).2.failed (s.started name parent attributes).1
          ("context slot " ++ k.label ++ " already live") v.current.identity.spanId)
      (hfault : s.observer.tracer.refuses .setStatus name = false →
        s.observer.tracer.refuses .finish name = false →
        out.fault = some (SlotTree.alreadyLive k))
  /-- The context that the request brings is kept in the slot of the request. -/
  | joined {c : Context} (hcall : v.call = .event .start) (houter : v.outer = some c)
      (haccepted : (s.tree.isLive .request && s.tree.strict) = false)
      (hobserver : out.observer =
        { s.observer with tree := s.tree.put .request c, joined := true })
      (hjournal : out.backend.journal = s.journal)
      (hfault : out.fault = none)
  /-- The context that the request brings comes to a live slot of a strict
  tree.  The mark of an outer trace is set all the same. -/
  | barred {c : Context} (hcall : v.call = .event .start) (houter : v.outer = some c)
      (hlive : s.tree.isLive .request = true) (hstrict : s.tree.strict = true)
      (hobserver : out.observer = { s.observer with joined := true })
      (hjournal : out.backend.journal = s.journal)
      (hfault : out.fault = some (SlotTree.alreadyLive .request))
  /-- A live slot is left, and its span is ended if it is owned. -/
  | left {k : Slot} {c : Context} (hleft : v.call.left? = some k)
      (hlive : s.tree.get? k = some c)
      (hobserver : out.observer = { s.observer with tree := (s.tree.exit k).2 })
      (hjournal : out.backend.journal =
        if s.observer.owns k then (s.journal.annotated v c).released c
        else s.journal.annotated v c)
      (hfault : out.fault = none)
  /-- An error is written to the span of execution. -/
  | recorded {c : Context} {err : Value} {attributes : Fields}
      (hcall : v.call = .event (.error err)) (hlive : s.tree.get? .execution = some c)
      (hevent : errorEvent err = .ok attributes)
      (hobserver : out.observer = s.observer)
      (hjournal : out.backend.journal =
        s.journal.settled (s.journal.addEvent c.current errorName attributes))
      (hfault : out.fault = none)
  /-- Every live slot is left, and the spans that are owned are ended. -/
  | closed (hcall : v.call = .close)
      (hobserver : out.observer = { s.observer with tree := { s.tree with slots := [] } })
      (hjournal : out.backend.journal =
        s.observer.abandonAll v.current.identity.spanId s.journal s.tree.slots.reverse)
      (hfault : out.fault = none)

/-! ## Every visit makes a move -/

namespace Observer

theorem enter_of_accepted {o : Observer} {k : Slot} {c : Context} (b : Backend)
    (h : (o.tree.isLive k && o.tree.strict) = false) :
    ∃ notes, o.enter k c b =
      idle { o with tree := o.tree.put k c } (b.noteAll notes) := by
  have htree := SlotTree.enter_of_accepted (c := c) h
  rcases he : o.tree.enter k c with ⟨entered, tree⟩
  rw [he] at htree
  subst htree
  cases entered with
  | rejected => exact absurd (SlotTree.enter_rejected he).2 (by simpa [Bool.and_comm] using h)
  | fresh => exact ⟨SlotTree.notesOf k .fresh, by simp only [enter, he]⟩
  | replaced => exact ⟨SlotTree.notesOf k .replaced, by simp only [enter, he]⟩

theorem enter_of_rejected {o : Observer} {k : Slot} {c : Context} (b : Backend)
    (hlive : o.tree.isLive k = true) (hstrict : o.tree.strict = true) :
    o.enter k c b = o.reject k c b := by
  simp only [enter, SlotTree.enter, hlive, hstrict, if_true]

theorem join_of_accepted {o : Observer} {c : Context} (b : Backend)
    (h : (o.tree.isLive .request && o.tree.strict) = false) :
    ∃ notes, o.join c b =
      idle { o with joined := true, tree := o.tree.put .request c } (b.noteAll notes) := by
  have htree := SlotTree.enter_of_accepted (c := c) h
  rcases he : o.tree.enter .request c with ⟨entered, tree⟩
  rw [he] at htree
  subst htree
  cases entered with
  | rejected => exact absurd (SlotTree.enter_rejected he).2 (by simpa [Bool.and_comm] using h)
  | fresh => exact ⟨SlotTree.notesOf .request .fresh, by simp only [join, he]⟩
  | replaced => exact ⟨SlotTree.notesOf .request .replaced, by simp only [join, he]⟩

theorem join_of_rejected {o : Observer} {c : Context} (b : Backend)
    (hlive : o.tree.isLive .request = true) (hstrict : o.tree.strict = true) :
    o.join c b = raise { o with joined := true } b (SlotTree.alreadyLive .request) := by
  simp only [join, SlotTree.enter, hlive, hstrict, if_true]

/-- Rejecting a new span ends it as a failure. -/
theorem journal_reject (o : Observer) (k : Slot) (c : Context) (b : Backend) :
    (o.reject k c b).backend.journal =
      b.journal.failed c.current ("context slot " ++ k.label ++ " already live")
        b.current.identity.spanId := by
  simp only [reject, Journal.failed]
  split
  · next h =>
    simp only [h]
    rfl
  · next journal h =>
    simp only [h]
    split
    · next hfinish =>
      have hfinish : journal.finish c.current b.current.identity.spanId = _ := hfinish
      rw [hfinish]
      rfl
    · next hfinish =>
      have hfinish : journal.finish c.current b.current.identity.spanId = _ := hfinish
      rw [hfinish]
      rfl

theorem observer_reject (o : Observer) (k : Slot) (c : Context) (b : Backend) :
    (o.reject k c b).observer = o := by
  simp only [reject]
  split
  · rfl
  · split <;> rfl

/-- A rejected span that refuses neither its status nor its end is reported
as a live slot. -/
theorem fault_reject {o : Observer} {k : Slot} {c : Context} {b : Backend} {i : Nat} {span : Span}
    (hentry : c.current.entry = some i) (hspan : b.journal.spans[i]? = some span)
    (hstatus : span.refuses .setStatus = false) (hfinish : span.refuses .finish = false) :
    (o.reject k c b).fault = some (SlotTree.alreadyLive k) := by
  obtain ⟨marked, hok, hspan', -, -⟩ := Journal.exists_setError hentry hspan hstatus
    ("context slot " ++ k.label ++ " already live")
  have hended := Journal.finish_of_found b.current.identity.spanId
    (Journal.find?_of_entry hentry hspan') hfinish
  simp only [reject, hok, Backend.finishSpan, hended]
  rfl

/-- A rejection that is not itself a refusal of the backend was refused nothing. -/
theorem refuses_of_reject {o : Observer} {k : Slot} {c : Context} {b : Backend} {i : Nat}
    {span : Span} (hentry : c.current.entry = some i) (hspan : b.journal.spans[i]? = some span)
    (hfault : ∀ refusal : Refusal, (o.reject k c b).fault ≠ some refusal.fault) :
    span.refuses .setStatus = false ∧ span.refuses .finish = false := by
  have hfound := Journal.find?_of_entry hentry hspan
  have hstatus : span.refuses .setStatus = false := by
    refine Bool.eq_false_iff.2 fun hop => ?_
    refine hfault { operation := .setStatus, span := span.name } ?_
    simp only [reject, Journal.setError, Journal.record, hfound, hop, if_true]
    rfl
  refine ⟨hstatus, Bool.eq_false_iff.2 fun hop => ?_⟩
  obtain ⟨marked, hok, hspan', -, -⟩ := Journal.exists_setError hentry hspan hstatus
    ("context slot " ++ k.label ++ " already live")
  have hfound' := Journal.find?_of_entry hentry hspan'
  have hop' : ∀ status, Span.refuses { span with status } .finish = true := fun _ => hop
  refine hfault { operation := .finish, span := span.name } ?_
  simp only [reject, hok, Backend.finishSpan, Journal.finish, hfound', hop', if_true]
  rfl

end Observer

/-- What starting a span for a slot does. -/
theorem move_begin {s : Session} {v : Visit} {b : Backend} {k : Slot} {name : String}
    {parent : Context} {attributes : Fields} (hopens : Opens s v k name parent attributes)
    (hjournal : b.journal = s.journal) (hcurrent : b.current = v.current) :
    Move s v (s.observer.begin k name parent attributes b) := by
  by_cases hstart : s.observer.tracer.refuses .start name = true
  · have hnone : s.observer.startSpan name parent attributes b =
        (none, b.note .warning ("Failed to start span '" ++ name ++ "': " ++
          Refusal.message { operation := .start, span := name })) := by
      simp only [Observer.startSpan, Journal.start, hstart, if_true]
    simp only [Observer.begin, hnone]
    refine .rest hopens.joins ?_ (fun k hleaves => absurd hleaves hopens.not_leaves) rfl hjournal
    intro k' name' parent' attributes' hopens'
    obtain ⟨-, rfl, -, -⟩ := hopens.unique hopens'
    exact hstart
  · have hallowed : s.observer.tracer.refuses .start name = false := by simpa using hstart
    have hsome : s.observer.startSpan name parent attributes b =
        (some (parent.withSpan (s.started name parent attributes).1),
          { b with journal := (s.started name parent attributes).2 }) := by
      simp only [Observer.startSpan, Journal.start, hallowed, hjournal, Bool.false_eq_true,
        if_false]
    simp only [Observer.begin, hsome]
    by_cases haccepted : (s.tree.isLive k && s.tree.strict) = false
    · obtain ⟨notes, henter⟩ := Observer.enter_of_accepted
        (c := parent.withSpan (s.started name parent attributes).1)
        { b with journal := (s.started name parent attributes).2 } haccepted
      rw [henter]
      exact .opened hopens hallowed haccepted rfl rfl rfl
    · obtain ⟨hlive, hstrict⟩ : s.tree.isLive k = true ∧ s.tree.strict = true := by
        simpa using haccepted
      rw [Observer.enter_of_rejected _ hlive hstrict]
      refine .rejected hopens hallowed hlive hstrict (Observer.observer_reject ..) ?_ ?_
      · rw [Observer.journal_reject, hcurrent]
        rfl
      · intro hstatus hfinish
        have hspan : (s.started name parent attributes).2.spans[s.journal.spans.length]? =
            some (s.journal.newSpan s.observer.tracer name parent .server attributes) := by
          rw [Journal.getElem?_opened, if_pos rfl]
        exact Observer.fault_reject rfl hspan hstatus hfinish

/-- What leaving a slot does, after its last attributes were written. -/
theorem move_release {s : Session} {v : Visit} {b : Backend} {k : Slot}
    (hleft : v.call.left? = some k)
    (hjournal : ∀ c, s.tree.get? k = some c → b.journal = s.journal.annotated v c)
    (hnone : s.tree.get? k = none → b.journal = s.journal) :
    Move s v (s.observer.release k b) := by
  cases hget : s.tree.get? k with
  | none =>
    simp only [Observer.release, SlotTree.exit, hget]
    refine .rest (Call.joins_of_left? hleft) ?_ ?_ rfl (hnone hget)
    · exact fun _ _ _ _ hopens => absurd (.inl hleft) hopens.not_leaves
    · rintro k' (hleft' | hclose)
      · obtain rfl := Option.some.inj (hleft.symm.trans hleft')
        exact hget
      · rw [hclose] at hleft
        exact absurd hleft (by simp [Call.left?])
  | some c =>
    simp only [Observer.release, SlotTree.exit, hget]
    by_cases howns : s.observer.owns k = true
    · simp only [howns, if_true]
      refine .left hleft hget rfl ?_ rfl
      rw [if_pos howns]
      show (Backend.attempt _ _ _).journal = _
      rw [journal_attempt, ← hjournal c hget]
      rfl
    · simp only [howns]
      refine .left hleft hget rfl ?_ rfl
      rw [if_neg howns]
      exact hjournal c hget

/-- A visit that starts no span, leaves no slot and brings no outer context does
nothing to the slots and to the journal. -/
theorem move_rest {s : Session} {v : Visit} {out : Outcome} (hcall : v.call ≠ .event .start)
    (hleaves : ∀ k, ¬ v.call.Leaves k)
    (hopens : ∀ k name parent attributes, ¬ Opens s v k name parent attributes)
    (hobserver : out.observer = s.observer) (hjournal : out.backend.journal = s.journal) :
    Move s v out :=
  .rest (Visit.joins_of_ne hcall)
    (fun k name parent attributes h => absurd h (hopens k name parent attributes))
    (fun k h => absurd h (hleaves k)) hobserver hjournal

theorem move_start (s : Session) {v : Visit} (hcall : v.call = .event .start) :
    Move s v (s.observer.onStart v.outer { s.backend with current := v.current }) := by
  cases houter : v.outer with
  | none => exact move_begin (.request hcall houter) rfl rfl
  | some c =>
    simp only [Observer.onStart]
    by_cases haccepted : (s.tree.isLive .request && s.tree.strict) = false
    · obtain ⟨notes, hjoin⟩ := Observer.join_of_accepted (c := c)
        { s.backend with current := v.current } haccepted
      rw [hjoin]
      exact .joined hcall houter haccepted rfl rfl rfl
    · obtain ⟨hlive, hstrict⟩ : s.tree.isLive .request = true ∧ s.tree.strict = true := by
        simpa using haccepted
      rw [Observer.join_of_rejected _ hlive hstrict]
      exact .barred hcall houter hlive hstrict rfl rfl rfl

theorem move_parseStart (s : Session) {v : Visit} {query : Option String} {bindings : Value}
    (hcall : v.call = .event (.parseStart query bindings)) :
    Move s v
      (s.observer.onParseStart query bindings { s.backend with current := v.current }) := by
  simp only [Observer.onParseStart]
  split
  · next hparent =>
    refine move_rest (by rw [hcall]; simp) (by rw [hcall]; simp [Call.Leaves, Call.left?]) ?_
      rfl rfl
    intro k name parent attributes hopens
    cases hopens <;> simp_all
  · next parent hparent =>
    split
    · next hshown =>
      refine move_rest (by rw [hcall]; simp) (by rw [hcall]; simp [Call.Leaves, Call.left?]) ?_
        rfl rfl
      intro k name parent attributes hopens
      cases hopens <;> simp_all
    · next shown notes hshown => exact move_begin (.parse hcall hparent hshown) rfl rfl

theorem move_validationStart (s : Session) {v : Visit}
    (hcall : v.call = .event .validationStart) :
    Move s v (s.observer.onValidationStart { s.backend with current := v.current }) := by
  simp only [Observer.onValidationStart]
  split
  · next hparent =>
    refine move_rest (by rw [hcall]; simp) (by rw [hcall]; simp [Call.Leaves, Call.left?]) ?_
      rfl rfl
    intro k name parent attributes hopens
    cases hopens <;> simp_all
  · next parent hparent => exact move_begin (.validation hcall hparent) rfl rfl

theorem move_resolveStart (s : Session) {v : Visit} {r : Request.Resolution}
    (hcall : v.call = .event (.resolveStart r)) :
    Move s v (s.observer.onResolveStart r { s.backend with current := v.current }) := by
  simp only [Observer.onResolveStart]
  split
  · next hparent =>
    refine move_rest (by rw [hcall]; simp) (by rw [hcall]; simp [Call.Leaves, Call.left?]) ?_
      rfl rfl
    intro k name parent attributes hopens
    cases hopens <;> simp_all
  · next parent hparent => exact move_begin (.field hcall hparent) rfl rfl

theorem move_error (s : Session) {v : Visit} {err : Value}
    (hcall : v.call = .event (.error err)) :
    Move s v (s.observer.onError err { s.backend with current := v.current }) := by
  have hleaves : ∀ k, ¬ v.call.Leaves k := by
    rw [hcall]
    simp [Call.Leaves, Call.left?]
  have hopens : ∀ k name parent attributes, ¬ Opens s v k name parent attributes := by
    intro k name parent attributes hopens
    cases hopens <;> simp_all
  simp only [Observer.onError]
  split
  · exact move_rest (by rw [hcall]; simp) hleaves hopens rfl rfl
  · next c hlive =>
    split
    · next attributes hevent =>
      exact .recorded hcall hlive hevent rfl (journal_attempt ..) rfl
    · split
      · exact move_rest (by rw [hcall]; simp) hleaves hopens rfl rfl
      · exact move_rest (by rw [hcall]; simp) hleaves hopens rfl rfl

/-- The end events that bring no attributes. -/
theorem move_end {s : Session} {v : Visit} {k : Slot} (hleft : v.call.left? = some k)
    (hplain : ∀ c, s.journal.annotated v c = s.journal) :
    Move s v (s.observer.release k { s.backend with current := v.current }) :=
  move_release hleft (fun c _ => (hplain c).symm) (fun _ => rfl)

theorem move_validationEnd (s : Session) {v : Visit} {complexity depth : Int}
    (hcall : v.call = .event (.validationEnd complexity depth)) :
    Move s v (s.observer.release .validation (s.observer.annotate .validation
      (validationAttributes complexity depth) { s.backend with current := v.current })) := by
  refine move_release (by rw [hcall]; rfl) ?_ ?_
  · intro c hget
    simp only [Observer.annotate, hget, journal_attempt, Journal.annotated, hcall]
  · intro hget
    simp only [Observer.annotate, hget]

/-- What a close does. -/
theorem answer_close (s : Session) {v : Visit} (hcall : v.call = .close) :
    (s.answer v).observer = { s.observer with tree := { s.tree with slots := [] } } ∧
      (s.answer v).backend.journal =
        s.observer.abandonAll v.current.identity.spanId s.journal s.tree.slots.reverse ∧
      (s.answer v).fault = none := by
  simp only [Session.answer, hcall, Observer.close, SlotTree.drain]
  split
  · next tree hdrain =>
    obtain ⟨hslots, -⟩ := Prod.mk.inj hdrain
    have hnil : s.tree.slots = [] := List.reverse_eq_nil_iff.1 hslots
    refine ⟨?_, ?_, rfl⟩
    · rw [← hnil]
      rfl
    · rw [hslots]
      rfl
  · next abandoned tree hne hdrain =>
    obtain ⟨hslots, htree⟩ := Prod.mk.inj hdrain
    refine ⟨by rw [htree]; rfl, ?_, rfl⟩
    show (List.foldl s.observer.abandon _ abandoned).journal = _
    rw [Observer.journal_foldl_abandon, hslots]
    rfl

/-- Every visit makes a move. -/
theorem move_answer (s : Session) (v : Visit) : Move s v (s.answer v) := by
  cases hcall : v.call with
  | close =>
    obtain ⟨hobserver, hjournal, hfault⟩ := answer_close s hcall
    exact .closed hcall hobserver hjournal hfault
  | event e =>
    simp only [Session.answer, hcall]
    cases e with
    | start => exact move_start s hcall
    | parseStart query bindings => exact move_parseStart s hcall
    | parseEnd document =>
      exact move_end (by rw [hcall]; rfl) (fun c => by simp only [Journal.annotated, hcall])
    | validationStart => exact move_validationStart s hcall
    | validationEnd complexity depth => exact move_validationEnd s hcall
    | executionStart => exact move_begin (.execution hcall) rfl rfl
    | executionEnd =>
      exact move_end (by rw [hcall]; rfl) (fun c => by simp only [Journal.annotated, hcall])
    | resolveStart r => exact move_resolveStart s hcall
    | resolveEnd r =>
      exact move_end (by rw [hcall]; rfl) (fun c => by simp only [Journal.annotated, hcall])
    | error err => exact move_error s hcall
    | finish =>
      exact move_end (by rw [hcall]; rfl) (fun c => by simp only [Journal.annotated, hcall])

/-- A visit that has a span to start begins it, on a backend with the same
journal. -/
theorem answer_of_opens {s : Session} {v : Visit} {k : Slot} {name : String} {parent : Context}
    {attributes : Fields} (hopens : Opens s v k name parent attributes) :
    ∃ b : Backend, b.journal = s.journal ∧
      s.answer v = s.observer.begin k name parent attributes b := by
  cases hopens with
  | request hcall houter =>
    refine ⟨{ s.backend with current := v.current }, rfl, ?_⟩
    simp only [Session.answer, hcall, houter]
    rfl
  | @parse query bindings shown notes parent hcall hparent hshown =>
    refine ⟨Backend.noteAll { s.backend with current := v.current } notes, rfl, ?_⟩
    simp only [Session.answer, hcall, Observer.hook, Observer.onParseStart, hparent, hshown]
  | validation hcall hparent =>
    refine ⟨{ s.backend with current := v.current }, rfl, ?_⟩
    simp only [Session.answer, hcall, Observer.hook, Observer.onValidationStart, hparent]
  | execution hcall =>
    refine ⟨{ s.backend with current := v.current }, rfl, ?_⟩
    simp only [Session.answer, hcall]
    rfl
  | field hcall hparent =>
    refine ⟨{ s.backend with current := v.current }, rfl, ?_⟩
    simp only [Session.answer, hcall, Observer.hook, Observer.onResolveStart, hparent]

/-! ## What a visit leaves -/

theorem Observer.length_abandonAll (o : Observer) (current : Nat) (j : Journal)
    (left : List (Slot × Context)) :
    (o.abandonAll current j left).spans.length = j.spans.length := by
  induction left generalizing j with
  | nil => rfl
  | cons e left ih =>
    rw [abandonAll, List.foldl_cons]
    refine (ih _).trans ?_
    split
    · exact Journal.length_failed ..
    · rfl

namespace Journal

theorem length_left (j : Journal) (v : Visit) (c : Context) (owns : Bool) :
    (if owns then (j.annotated v c).released c else j.annotated v c).spans.length =
      j.spans.length := by
  have hannotated : (j.annotated v c).spans.length = j.spans.length := by
    simp only [annotated]
    split
    · exact length_settled_record ..
    · rfl
  split
  · rw [released, length_settled_finish, hannotated]
  · exact hannotated

end Journal

namespace Session

variable {s : Session} {v : Visit}

/-- A visit that has a span to start, and may start it, keeps it in its slot or
rejects it. -/
theorem next_of_opens {k : Slot} {name : String} {parent : Context} {attributes : Fields}
    (hopens : Opens s v k name parent attributes)
    (hstart : s.observer.tracer.refuses .start name = false) :
    (s.tree.isLive k && s.tree.strict) = false ∧
        (s.next v).observer = { s.observer with
          tree := s.tree.put k (parent.withSpan (s.started name parent attributes).1) } ∧
        (s.next v).journal = (s.started name parent attributes).2 ∧
        (s.answer v).fault = none ∨
      (s.tree.isLive k && s.tree.strict) = true ∧ (s.next v).observer = s.observer ∧
        (s.next v).journal =
          (s.started name parent attributes).2.failed (s.started name parent attributes).1
            ("context slot " ++ k.label ++ " already live") v.current.identity.spanId ∧
        (s.observer.tracer.refuses .setStatus name = false →
          s.observer.tracer.refuses .finish name = false →
          (s.answer v).fault = some (SlotTree.alreadyLive k)) := by
  cases move_answer s v with
  | rest _ hidle => exact absurd (hidle _ _ _ _ hopens) (by simp [hstart])
  | opened hopens' _ haccepted hobserver hjournal hfault =>
    obtain ⟨rfl, rfl, rfl, rfl⟩ := hopens.unique hopens'
    exact .inl ⟨haccepted, hobserver, hjournal, hfault⟩
  | rejected hopens' _ hlive hstrict hobserver hjournal hfault =>
    obtain ⟨rfl, rfl, rfl, rfl⟩ := hopens.unique hopens'
    exact .inr ⟨by rw [hlive, hstrict]; rfl, hobserver, hjournal, hfault⟩
  | joined hcall houter | barred hcall houter =>
    have hjoins := hopens.joins
    simp [Visit.joins, hcall, houter] at hjoins
  | left hleft => exact absurd (.inl hleft) hopens.not_leaves
  | recorded hcall => exact absurd hopens (by rintro ⟨⟩ <;> simp_all)
  | closed hcall => exact absurd (Or.inr hcall : v.call.Leaves k) hopens.not_leaves

/-- A visit that ends a piece of work leaves its slot, if it is live, and ends the
span there if it is owned. -/
theorem next_of_left {k : Slot} {c : Context} (hleft : v.call.left? = some k)
    (hget : s.tree.get? k = some c) :
    (s.next v).observer = { s.observer with tree := (s.tree.exit k).2 } ∧
      (s.next v).journal =
        if s.observer.owns k then (s.journal.annotated v c).released c
        else s.journal.annotated v c := by
  cases move_answer s v with
  | rest _ _ hdead => exact absurd (hget.symm.trans (hdead k (.inl hleft))) (by simp)
  | opened hopens | rejected hopens => exact absurd (.inl hleft) hopens.not_leaves
  | joined hcall | barred hcall | recorded hcall | closed hcall =>
    rw [hcall] at hleft
    exact absurd hleft (by simp [Call.left?])
  | left hleft' hlive hobserver hjournal =>
    obtain rfl := Option.some.inj (hleft.symm.trans hleft')
    obtain rfl := Option.some.inj (hget.symm.trans hlive)
    exact ⟨hobserver, hjournal⟩

/-- The end of a piece of work whose slot is not live changes neither the slots nor
the journal. -/
theorem next_of_dead {k : Slot} (hleft : v.call.left? = some k) (hget : s.tree.get? k = none) :
    (s.next v).observer = s.observer ∧ (s.next v).journal = s.journal := by
  cases move_answer s v with
  | rest _ _ _ hobserver hjournal => exact ⟨hobserver, hjournal⟩
  | opened hopens | rejected hopens => exact absurd (.inl hleft) hopens.not_leaves
  | joined hcall | barred hcall | recorded hcall | closed hcall =>
    rw [hcall] at hleft
    exact absurd hleft (by simp [Call.left?])
  | left hleft' hlive =>
    obtain rfl := Option.some.inj (hleft.symm.trans hleft')
    exact absurd (hget.symm.trans hlive) (by simp)

/-- A visit that has a span to start, and may not start it, changes neither the
slots nor the journal. -/
theorem next_of_refused {k : Slot} {name : String} {parent : Context} {attributes : Fields}
    (hopens : Opens s v k name parent attributes)
    (hstart : s.observer.tracer.refuses .start name = true) :
    (s.next v).observer = s.observer ∧ (s.next v).journal = s.journal := by
  cases move_answer s v with
  | rest _ _ _ hobserver hjournal => exact ⟨hobserver, hjournal⟩
  | opened hopens' hstart' | rejected hopens' hstart' =>
    obtain ⟨-, rfl, -, -⟩ := hopens.unique hopens'
    exact absurd (hstart.symm.trans hstart') (by decide)
  | joined hcall houter | barred hcall houter =>
    have hjoins := hopens.joins
    simp [Visit.joins, hcall, houter] at hjoins
  | left hleft => exact absurd (.inl hleft) hopens.not_leaves
  | recorded hcall => exact absurd hopens (by rintro ⟨⟩ <;> simp_all)
  | closed hcall => exact absurd (Or.inr hcall : v.call.Leaves k) hopens.not_leaves

/-- The start of a request that brings a context marks the session as joined, and
keeps the context in the slot of the request unless a strict tree has it live. -/
theorem next_of_joins {c : Context} (hcall : v.call = .event .start) (houter : v.outer = some c) :
    (s.tree.isLive .request && s.tree.strict) = false ∧
        (s.next v).observer =
          { s.observer with tree := s.tree.put .request c, joined := true } ∧
        (s.next v).journal = s.journal ∧ (s.answer v).fault = none ∨
      (s.tree.isLive .request && s.tree.strict) = true ∧
        (s.next v).observer = { s.observer with joined := true } ∧
        (s.next v).journal = s.journal ∧
        (s.answer v).fault = some (SlotTree.alreadyLive .request) := by
  have hjoins : v.joins = true := by simp [Visit.joins, hcall, houter]
  cases move_answer s v with
  | rest hjoins' => exact absurd (hjoins.symm.trans hjoins') (by decide)
  | opened hopens | rejected hopens => exact absurd (hjoins.symm.trans hopens.joins) (by decide)
  | joined _ houter' haccepted hobserver hjournal hfault =>
    obtain rfl := Option.some.inj (houter.symm.trans houter')
    exact .inl ⟨haccepted, hobserver, hjournal, hfault⟩
  | barred _ _ hlive hstrict hobserver hjournal hfault =>
    exact .inr ⟨by rw [hlive, hstrict]; rfl, hobserver, hjournal, hfault⟩
  | left hleft => exact absurd (hjoins.symm.trans (Call.joins_of_left? hleft)) (by decide)
  | recorded hcall' | closed hcall' => simp [hcall] at hcall'

/-- An error with a text is written to the span of execution while that is live. -/
theorem next_of_recorded {c : Context} {err : Value} {attributes : Fields}
    (hcall : v.call = .event (.error err)) (hlive : s.tree.get? .execution = some c)
    (hevent : errorEvent err = .ok attributes) :
    (s.next v).observer = s.observer ∧
      (s.next v).journal =
        s.journal.settled (s.journal.addEvent c.current errorName attributes) := by
  have hanswer : s.answer v = s.observer.onError err { s.backend with current := v.current } := by
    simp only [answer, hcall]
    rfl
  simp only [next, journal, hanswer, Observer.onError, hlive, hevent]
  exact ⟨rfl, journal_attempt ..⟩

/-- An error without a text, or outside execution, changes neither the slots nor
the journal. -/
theorem next_of_unrecorded {err : Value} (hcall : v.call = .event (.error err))
    (hnone : ∀ c attributes, s.tree.get? .execution = some c → errorEvent err ≠ .ok attributes) :
    (s.next v).observer = s.observer ∧ (s.next v).journal = s.journal := by
  cases move_answer s v with
  | rest _ _ _ hobserver hjournal => exact ⟨hobserver, hjournal⟩
  | opened hopens | rejected hopens => cases hopens <;> simp_all
  | joined hcall' | barred hcall' | closed hcall' => simp [hcall] at hcall'
  | left hleft => simp [hcall, Call.left?] at hleft
  | recorded hcall' hlive hevent =>
    obtain rfl : err = _ := by simpa using hcall.symm.trans hcall'
    exact absurd hevent (hnone _ _ hlive)

/-- A visit that has nothing to start, to leave, to join or to record changes
neither the slots nor the journal. -/
theorem next_of_rest (hjoins : v.joins = false)
    (hopens : ∀ k name parent attributes, ¬ Opens s v k name parent attributes)
    (hdead : ∀ k, v.call.Leaves k → s.tree.get? k = none)
    (herror : ∀ err, v.call ≠ .event (.error err)) (hclose : v.call ≠ .close) :
    (s.next v).observer = s.observer ∧ (s.next v).journal = s.journal := by
  cases move_answer s v with
  | rest _ _ _ hobserver hjournal => exact ⟨hobserver, hjournal⟩
  | opened h | rejected h => exact absurd h (hopens _ _ _ _)
  | joined hcall houter | barred hcall houter => simp [Visit.joins, hcall, houter] at hjoins
  | left hleft hlive => exact absurd (hlive.symm.trans (hdead _ (.inl hleft))) (by simp)
  | recorded hcall => exact absurd hcall (herror _)
  | closed hcall => exact absurd hcall hclose

/-- A visit starts at most one span, and only one that it has to start. -/
theorem length_next (s : Session) (v : Visit) :
    (s.next v).journal.spans.length = s.journal.spans.length ∨
      (s.next v).journal.spans.length = s.journal.spans.length + 1 ∧
        ∃ k name parent attributes, Opens s v k name parent attributes ∧
          s.observer.tracer.refuses .start name = false := by
  show (s.answer v).backend.journal.spans.length = _ ∨
    (s.answer v).backend.journal.spans.length = _ ∧ _
  cases move_answer s v with
  | rest _ _ _ _ hjournal => exact .inl (by rw [hjournal])
  | opened hopens hstart _ _ hjournal =>
    exact .inr ⟨by rw [hjournal, Journal.length_opened], _, _, _, _, hopens, hstart⟩
  | rejected hopens hstart _ _ _ hjournal =>
    exact .inr ⟨by rw [hjournal, Journal.length_failed, Journal.length_opened], _, _, _, _,
      hopens, hstart⟩
  | joined _ _ _ _ hjournal => exact .inl (by rw [hjournal])
  | barred _ _ _ _ _ hjournal => exact .inl (by rw [hjournal])
  | left _ _ _ hjournal => exact .inl (by rw [hjournal, Journal.length_left])
  | recorded _ _ _ _ hjournal =>
    exact .inl (by rw [hjournal]; exact Journal.length_settled_record ..)
  | closed _ _ hjournal => exact .inl (by rw [hjournal, Observer.length_abandonAll])

theorem tracer_next (s : Session) (v : Visit) :
    (s.next v).observer.tracer = s.observer.tracer := by
  show (s.answer v).observer.tracer = _
  cases move_answer s v <;> simp only [*]

theorem strict_next (s : Session) (v : Visit) : (s.next v).tree.strict = s.tree.strict := by
  show (s.answer v).observer.tree.strict = _
  cases move_answer s v <;> simp only [*] <;> rfl

theorem tracer_run (s₀ : Session) (vs : List Visit) :
    (s₀.run vs).observer.tracer = s₀.observer.tracer := by
  induction vs using List.reverseRecOn with
  | nil => rfl
  | append_singleton vs v ih => rw [run_concat, tracer_next, ih]

theorem strict_run (s₀ : Session) (vs : List Visit) :
    (s₀.run vs).tree.strict = s₀.tree.strict := by
  induction vs using List.reverseRecOn with
  | nil => rfl
  | append_singleton vs v ih => rw [run_concat, strict_next, ih]

/-- Where the contexts of the slots come from: they were there before, or they
are of the span that the visit starts, or the request brings them. -/
theorem get?_next {k : Slot} {c : Context} (hget : (s.next v).tree.get? k = some c) :
    s.tree.get? k = some c ∨
      (∃ name parent attributes, Opens s v k name parent attributes ∧
        c = parent.withSpan (s.started name parent attributes).1 ∧
        (s.next v).journal = (s.started name parent attributes).2) ∨
      k = .request ∧ v.call = .event .start ∧ v.outer = some c ∧
        (s.next v).observer.joined = true := by
  have hget : (s.answer v).observer.tree.get? k = some c := hget
  cases move_answer s v with
  | rest _ _ _ hobserver | rejected _ _ _ _ hobserver | barred _ _ _ _ hobserver
  | recorded _ _ _ hobserver =>
    rw [hobserver] at hget
    exact .inl hget
  | @opened k' name parent attributes hopens _ _ hobserver hjournal =>
    rw [hobserver, SlotTree.get?, SlotTree.put, Assoc.get?_put] at hget
    by_cases hk : k = k'
    · subst hk
      rw [if_pos (beq_self_eq_true k)] at hget
      exact .inr (.inl ⟨name, parent, attributes, hopens, (Option.some.inj hget).symm, hjournal⟩)
    · rw [if_neg (by simpa using hk)] at hget
      exact .inl hget
  | joined hcall hcontext _ hobserver =>
    rw [hobserver, SlotTree.get?, SlotTree.put, Assoc.get?_put] at hget
    by_cases hk : k = .request
    · subst hk
      rw [if_pos (beq_self_eq_true _)] at hget
      refine .inr (.inr ⟨rfl, hcall, by rw [hcontext, hget], ?_⟩)
      show (s.answer v).observer.joined = true
      rw [hobserver]
    · rw [if_neg (by simpa using hk)] at hget
      exact .inl hget
  | @left k' _ _ _ hobserver =>
    rw [hobserver, SlotTree.get?_exit] at hget
    by_cases hk : k = k'
    · simp [hk] at hget
    · rw [if_neg hk] at hget
      exact .inl hget
  | closed _ hobserver =>
    rw [hobserver] at hget
    simp [SlotTree.get?, Assoc.get?] at hget

/-- The mark of an outer trace is set when the request brings one, and is never
taken back. -/
theorem joined_next (s : Session) (v : Visit) :
    (s.next v).observer.joined = (s.observer.joined || v.joins) := by
  show (s.answer v).observer.joined = _
  cases move_answer s v with
  | rest hjoins _ _ hobserver => rw [hobserver, hjoins, Bool.or_false]
  | opened hopens _ _ hobserver | rejected hopens _ _ _ hobserver =>
    rw [hobserver, hopens.joins, Bool.or_false]
  | joined hcall hcontext _ hobserver | barred hcall hcontext _ _ hobserver =>
    rw [hobserver, Visit.joins, hcall, hcontext]
    exact (Bool.or_true _).symm
  | left hleft _ hobserver => rw [hobserver, Call.joins_of_left? hleft, Bool.or_false]
  | recorded hcall _ _ hobserver | closed hcall hobserver =>
    rw [hobserver, Visit.joins_of_ne (by rw [hcall]; simp), Bool.or_false]

theorem nodup_next (h : s.tree.keys.Nodup) (v : Visit) : (s.next v).tree.keys.Nodup := by
  show (s.answer v).observer.tree.keys.Nodup
  cases move_answer s v with
  | rest _ _ _ hobserver | rejected _ _ _ _ hobserver | barred _ _ _ _ hobserver
  | recorded _ _ _ hobserver =>
    rw [hobserver]
    exact h
  | opened _ _ _ hobserver | joined _ _ _ hobserver =>
    rw [hobserver]
    exact Assoc.nodup_keys_put h ..
  | left _ _ hobserver =>
    rw [hobserver]
    exact SlotTree.nodup_keys_exit h _
  | closed _ hobserver =>
    rw [hobserver]
    exact List.nodup_nil

/-- A slot that is left is not live afterwards. -/
theorem get?_next_of_leaves {k : Slot} (hleaves : v.call.Leaves k) :
    (s.next v).tree.get? k = none := by
  show (s.answer v).observer.tree.get? k = none
  cases move_answer s v with
  | rest _ _ hdead hobserver =>
    rw [hobserver]
    exact hdead k hleaves
  | opened hopens | rejected hopens => exact absurd hleaves hopens.not_leaves
  | joined hcall | barred hcall | recorded hcall =>
    rw [hcall] at hleaves
    exact absurd hleaves (by simp [Call.Leaves, Call.left?])
  | @left k' _ hleft _ hobserver =>
    obtain rfl : k = k' := by
      rcases hleaves with hleft' | hclose
      · exact Option.some.inj (hleft'.symm.trans hleft)
      · rw [hclose] at hleft
        exact absurd hleft (by simp [Call.left?])
    rw [hobserver, SlotTree.get?_exit, if_pos rfl]
  | closed _ hobserver =>
    rw [hobserver]
    rfl

/-- A live slot that is not left keeps its context, unless another context takes
it. -/
theorem get?_next_of_not_leaves {k : Slot} {c : Context} (hget : s.tree.get? k = some c)
    (hleaves : ¬ v.call.Leaves k) :
    (s.next v).tree.get? k = some c ∨
      s.tree.strict = false ∧ ∃ c', (s.next v).tree.get? k = some c' ∧
        (c'.current.entry = some s.journal.spans.length ∨ k = .request ∧ v.outer = some c') := by
  have hlive : s.tree.isLive k = true := by
    rw [SlotTree.isLive_eq_isSome_get?, hget]
    rfl
  show (s.answer v).observer.tree.get? k = _ ∨
    _ ∧ ∃ c', (s.answer v).observer.tree.get? k = _ ∧ _
  cases move_answer s v with
  | rest _ _ _ hobserver | rejected _ _ _ _ hobserver | barred _ _ _ _ hobserver
  | recorded _ _ _ hobserver =>
    rw [hobserver]
    exact .inl hget
  | @opened k' name parent attributes hopens _ haccepted hobserver =>
    rw [hobserver, SlotTree.get?, SlotTree.put, Assoc.get?_put]
    by_cases hk : k = k'
    · subst hk
      refine .inr ⟨by simpa [hlive] using haccepted, _, if_pos (beq_self_eq_true k), .inl rfl⟩
    · rw [if_neg (by simpa using hk)]
      exact .inl hget
  | joined _ hcontext haccepted hobserver =>
    rw [hobserver, SlotTree.get?, SlotTree.put, Assoc.get?_put]
    by_cases hk : k = .request
    · subst hk
      exact .inr ⟨by simpa [hlive] using haccepted, _, if_pos (beq_self_eq_true _),
        .inr ⟨rfl, hcontext⟩⟩
    · rw [if_neg (by simpa using hk)]
      exact .inl hget
  | @left k' _ hleft _ hobserver =>
    have hk : k ≠ k' := fun hk => hleaves (.inl (hk ▸ hleft))
    rw [hobserver, SlotTree.get?_exit, if_neg hk]
    exact .inl hget
  | closed hcall => exact absurd (.inr hcall) hleaves

/-- A visit that neither leaves a slot nor starts something for it keeps its context. -/
theorem get?_next_of_idle {k : Slot} (hleaves : ¬ v.call.Leaves k)
    (hopens : ∀ name parent attributes, Opens s v k name parent attributes →
      s.observer.tracer.refuses .start name = true)
    (hjoins : k = .request → v.joins = false) : (s.next v).tree.get? k = s.tree.get? k := by
  show (s.answer v).observer.tree.get? k = _
  cases move_answer s v with
  | rest _ _ _ hobserver | rejected _ _ _ _ hobserver | barred _ _ _ _ hobserver
  | recorded _ _ _ hobserver => rw [hobserver]
  | @opened k' name parent attributes hopens' hstart _ hobserver =>
    have hk : k ≠ k' := by
      rintro rfl
      exact absurd (hstart.symm.trans (hopens _ _ _ hopens')) (by decide)
    rw [hobserver, SlotTree.get?, SlotTree.put, Assoc.get?_put, if_neg (by simpa using hk)]
    rfl
  | joined hcall houter _ hobserver =>
    have hk : k ≠ .request := by
      intro hk
      have hjoins := hjoins hk
      simp [Visit.joins, hcall, houter] at hjoins
    rw [hobserver, SlotTree.get?, SlotTree.put, Assoc.get?_put, if_neg (by simpa using hk)]
    rfl
  | @left k' _ hleft _ hobserver =>
    have hk : k ≠ k' := fun hk => hleaves (.inl (hk ▸ hleft))
    rw [hobserver, SlotTree.get?_exit, if_neg hk]
  | closed hcall => exact absurd (.inr hcall) hleaves

theorem get?_next_of_strict {k : Slot} (hleaves : ¬ v.call.Leaves k)
    (hlive : s.tree.isLive k = true) (hstrict : s.tree.strict = true) :
    (s.next v).tree.get? k = s.tree.get? k := by
  rw [SlotTree.isLive_eq_isSome_get?] at hlive
  obtain ⟨c, hget⟩ := Option.isSome_iff_exists.1 hlive
  rcases get?_next_of_not_leaves hget hleaves with hget' | ⟨hstrict', -⟩
  · exact hget'.trans hget.symm
  · exact absurd (hstrict.symm.trans hstrict') (by decide)

/-- An accepted start that brings a context keeps it in the slot of the request. -/
theorem get?_next_of_joins {c : Context} (hcall : v.call = .event .start)
    (houter : v.outer = some c) (haccepted : (s.tree.isLive .request && s.tree.strict) = false) :
    (s.next v).tree.get? .request = some c := by
  show (s.answer v).observer.tree.get? _ = _
  have hjoins : v.joins = true := by simp [Visit.joins, hcall, houter]
  cases move_answer s v with
  | rest hjoins' => exact absurd (hjoins.symm.trans hjoins') (by decide)
  | opened hopens | rejected hopens => exact absurd (hjoins.symm.trans hopens.joins) (by decide)
  | joined _ houter' _ hobserver =>
    rw [hobserver, SlotTree.get?, SlotTree.put, Assoc.get?_put, if_pos (beq_self_eq_true _)]
    exact houter'.symm.trans houter
  | barred _ _ hlive hstrict => simp [hlive, hstrict] at haccepted
  | left hleft => exact absurd (hjoins.symm.trans (Call.joins_of_left? hleft)) (by decide)
  | recorded hcall' | closed hcall' => simp [hcall] at hcall'
end Session

end QueryTelemetry.Trace
