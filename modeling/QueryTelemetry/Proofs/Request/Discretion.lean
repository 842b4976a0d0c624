import Mathlib.Data.List.Forall2
import QueryTelemetry.Proofs.Request.Runs
import QueryTelemetry.Proofs.Tracing.Move
import QueryTelemetry.Request.Participant

/-!
# What is not to be shown does not show

The source and the variables of a query come with the start of parsing.  A `Veil`
says which of the two is hidden, and `Veils` relates events that are the same but
for what is hidden.

`Blind` is about any observers: related observers react to such events in the same
way and stay related.  Then two runs of such calls leave the same state of telemetry
(`Runner.Related.run`).  The observers of this library are blind to what none of them
is told to show: tracing does not read it, and a reporter keeps the source for the
errors that come later and never writes it.
-/

namespace QueryTelemetry

/-- What is hidden of a query. -/
structure Veil where
  source : Bool
  bindings : Bool

/-- Two events that are the same but for what is hidden. -/
inductive Request.Event.Veils (v : Veil) : Request.Event → Request.Event → Prop
  | same (e : Request.Event) : Veils v e e
  | parsing {query query' : Option String} {bindings bindings' : Value}
      (hquery : v.source = false → query = query')
      (hbindings : v.bindings = false → bindings = bindings') :
      Veils v (.parseStart query bindings) (.parseStart query' bindings')

/-- Two calls that are the same but for what is hidden. -/
inductive Trace.Call.Veils (v : Veil) : Trace.Call → Trace.Call → Prop
  | event {e e' : Request.Event} (h : e.Veils v e') : Veils v (.event e) (.event e')
  | close : Veils v .close .close

namespace Request

variable {ι : Type} {A : ι → ι → Prop} {v : Veil}

/-! ## Observers that do not see what is hidden -/

namespace Event.Veils

variable {e e' : Event}

theorem name (h : e.Veils v e') : e.name = e'.name := by cases h <;> rfl

theorem fits (h : e.Veils v e') (s : Stage) : e.fits s = e'.fits s := by cases h <;> rfl

theorem next (h : e.Veils v e') (s : Stage) : e.next s = e'.next s := by cases h <;> rfl

end Event.Veils

/-- Two reactions with related observers that agree in everything else. -/
structure Reaction.Related (A : ι → ι → Prop) (r r' : Reaction ι) : Prop where
  observer : A r.observer r'.observer
  data : r.data = r'.data
  telemetry : r.telemetry = r'.telemetry
  fault : r.fault = r'.fault

/-- Related observers react in the same way to events that are the same but for what is
hidden, and stay related. -/
structure Blind [Observing ι] (v : Veil) (A : ι → ι → Prop) : Prop where
  kind : ∀ {o o'}, A o o' → Observing.kind o = Observing.kind o'
  react : ∀ {o o' e e'}, A o o' → e.Veils v e' → ∀ data t,
    (Observing.react o e data t).Related A (Observing.react o' e' data t)
  close : ∀ {o o'}, A o o' → ∀ t,
    A (Observing.close o t).1 (Observing.close o' t).1 ∧
      (Observing.close o t).2 = (Observing.close o' t).2

/-- Two outcomes of telling an event with related observers that agree in everything
else. -/
structure Told.Related (A : ι → ι → Prop) (told told' : Told ι) : Prop where
  observers : List.Forall₂ A told.observers told'.observers
  data : told.data = told'.data
  telemetry : told.telemetry = told'.telemetry
  fault : told.fault = told'.fault

namespace Runner

/-- Two requests with related observers that agree in everything else. -/
inductive Related (A : ι → ι → Prop) (r : Runner ι) : Runner ι → Prop
  | intro (os : List ι) (hos : List.Forall₂ A r.observers os) :
    Related A r { r with observers := os }

variable [Observing ι] (hA : Blind v A) {os os' : List ι} {e e' : Event} {r r' : Runner ι}
include hA

theorem tell_related (hos : List.Forall₂ A os os') (he : e.Veils v e') (logger : Nat)
    (data : Data) (t : Telemetry) :
    (tell logger e os data t).Related A (tell logger e' os' data t) := by
  induction hos generalizing data t with
  | nil => exact ⟨.nil, rfl, rfl, rfl⟩
  | @cons o o' rest rest' ho hrest ih =>
    have hreact := hA.react ho he data t
    simp only [tell]
    generalize Observing.react o e data t = done at hreact ⊢
    generalize Observing.react o' e' data t = done' at hreact ⊢
    obtain ⟨o₁, d₁, t₁, f₁⟩ := done
    obtain ⟨o₂, d₂, t₂, f₂⟩ := done'
    obtain ⟨hobserver, rfl : d₁ = d₂, rfl : t₁ = t₂, rfl : f₁ = f₂⟩ := hreact
    have hreport : ∀ f, reportFailure logger (Observing.kind o₁) e f t₁ =
        reportFailure logger (Observing.kind o₂) e' f t₁ := by
      intro f
      rw [reportFailure, reportFailure, hA.kind hobserver, he.name]
    have htold : ∀ reached, (tell logger e rest d₁ reached).Related A
        (tell logger e' rest' d₁ reached) := ih d₁
    cases f₁ with
    | none =>
      obtain ⟨hobservers, hdata, htelemetry, hfault⟩ := htold t₁
      exact ⟨.cons hobserver hobservers, hdata, htelemetry, hfault⟩
    | some f =>
      simp only [hreport]
      split
      · exact ⟨.cons hobserver hrest, rfl, rfl, rfl⟩
      · next reached _ =>
        obtain ⟨hobservers, hdata, htelemetry, hfault⟩ := htold reached
        exact ⟨.cons hobserver hobservers, hdata, htelemetry, hfault⟩

theorem closeAll_related (hos : List.Forall₂ A os os') (logger : Nat) (t : Telemetry) :
    List.Forall₂ A (closeAll logger os t).1 (closeAll logger os' t).1 ∧
      (closeAll logger os t).2 = (closeAll logger os' t).2 := by
  induction hos generalizing t with
  | nil => exact ⟨.nil, rfl⟩
  | cons ho _ ih =>
    obtain ⟨hobserver, hleft⟩ := hA.close ho t
    simp only [closeAll, hleft, hA.kind hobserver]
    obtain ⟨hothers, htelemetry⟩ := ih _
    exact ⟨.cons hobserver hothers, htelemetry⟩

theorem dispatch_related (h : Related A r r') (he : e.Veils v e') (t : Telemetry) :
    Related A (r.dispatch e t).1 (r'.dispatch e' t).1 ∧
      (r.dispatch e t).2 = (r'.dispatch e' t).2 := by
  obtain ⟨os, hos⟩ := h
  have hreported : reportOrder { r with observers := os } e' (entered { r with observers := os } t) =
      r.reportOrder e (r.entered t) := by
    simp only [reportOrder, he.fits, he.name]
    rfl
  have htold := tell_related hA hos he r.logger r.data (r.reportOrder e (r.entered t))
  simp only [dispatch, hreported, htold.data, htold.telemetry, htold.fault, he.next, and_true]
  exact .intro _ htold.observers

theorem close_related (h : Related A r r') (t : Telemetry) :
    Related A (r.close t).1 (r'.close t).1 ∧ (r.close t).2 = (r'.close t).2 := by
  by_cases hclosed : r.closed = true
  · obtain ⟨os, hos⟩ := h
    rw [close_of_closed hclosed, close_of_closed (r := { r with observers := os }) hclosed]
    exact ⟨.intro os hos, rfl⟩
  · obtain ⟨os, hos⟩ := h
    obtain ⟨hobservers, htelemetry⟩ :=
      closeAll_related hA hos r.logger (r.reportEarly (r.entered t))
    rw [close, close, if_neg hclosed, if_neg hclosed]
    exact ⟨.intro _ hobservers, congrArg (fun after : Telemetry => after.withLogging _) htelemetry⟩

theorem answer_related {p p' : Runner ι × Telemetry} (h : Related A p.1 p'.1) (ht : p.2 = p'.2)
    {c c' : Trace.Call} (hc : c.Veils v c') :
    Related A (answer p c).1 (answer p' c').1 ∧ (answer p c).2 = (answer p' c').2 := by
  cases hc with
  | event he =>
    simp only [answer, ← ht]
    exact dispatch_related hA h he p.2
  | close =>
    obtain ⟨hleft, htelemetry⟩ := close_related hA h p.2
    simp only [answer, ← ht]
    exact ⟨hleft, congrArg (·, none) htelemetry⟩

/-- Runs of calls that are the same but for what is hidden leave the same state of
telemetry, and related requests. -/
theorem run_related {p p' : Runner ι × Telemetry} (h : Related A p.1 p'.1) (ht : p.2 = p'.2)
    {calls calls' : List Trace.Call} (hcalls : List.Forall₂ (Trace.Call.Veils v) calls calls') :
    Related A (run p calls).1 (run p' calls').1 ∧ (run p calls).2 = (run p' calls').2 := by
  induction hcalls generalizing p p' with
  | nil => exact ⟨h, ht⟩
  | cons hc _ ih =>
    obtain ⟨hnext, hanswer⟩ := answer_related hA h ht hc
    exact ih hnext (congrArg (·.1) hanswer)

end Runner

end Request

/-! ## The observers of this library -/

/-- Nothing that is hidden is to be shown. -/
structure Veil.Respected (v : Veil) (showsSource showsBindings : Bool) : Prop where
  source : v.source = true → showsSource = false
  bindings : v.bindings = true → showsBindings = false

variable {v : Veil} {e e' : Request.Event}

/-- Tracing does the same at events that are the same but for what it is not to show. -/
theorem Trace.Observer.hook_veils {o : Trace.Observer}
    (ho : v.Respected o.includeSource o.includeVariables) (he : e.Veils v e')
    (parent : Option Trace.Context) (b : Trace.Backend) : o.hook parent e b = o.hook parent e' b := by
  cases he with
  | same => rfl
  | @parsing query query' bindings bindings' hquery hbindings =>
    have hsource : (if o.includeSource then query else none) =
        if o.includeSource then query' else none := by
      cases hhidden : v.source with
      | true => simp only [ho.source hhidden, Bool.false_eq_true, if_false]
      | false => rw [hquery hhidden]
    have hshown : o.shownVariables bindings = o.shownVariables bindings' := by
      cases hhidden : v.bindings with
      | true => simp only [shownVariables, ho.bindings hhidden, Bool.false_eq_true, if_false]
      | false => rw [hbindings hhidden]
    simp only [hook, onParseStart, hsource, hshown]

/-- A visit does not change what is to be shown. -/
theorem Trace.Move.respected {s : Trace.Session} {visit : Trace.Visit} {out : Trace.Outcome}
    (h : Trace.Move s visit out)
    (hs : v.Respected s.observer.includeSource s.observer.includeVariables) :
    v.Respected out.observer.includeSource out.observer.includeVariables := by
  cases h with
  | rest _ _ _ hobserver | opened _ _ _ hobserver | rejected _ _ _ _ hobserver
  | joined _ _ _ hobserver | barred _ _ _ _ hobserver | left _ _ hobserver
  | recorded _ _ _ hobserver | closed _ hobserver =>
    rw [hobserver]
    exact hs

namespace Request

namespace Reporter

variable {r : Reporter}

/-- An event does not change what is to be shown. -/
theorem respected_handle (hr : v.Respected r.showsQuery r.showsVariables) (e : Event)
    (t : Telemetry) :
    v.Respected (r.handle e t).1.showsQuery (r.handle e t).1.showsVariables := by
  cases e <;> exact hr

theorem queryFields_veils (hr : v.Respected r.showsQuery r.showsVariables)
    {query query' : Option String} {bindings bindings' : Value}
    (hquery : v.source = false → query = query')
    (hbindings : v.bindings = false → bindings = bindings') :
    r.queryFields query bindings = r.queryFields query' bindings' := by
  have hsource : (if r.showsQuery then [("query", Value.ofText? query)] else []) =
      if r.showsQuery then [("query", Value.ofText? query')] else [] := by
    cases hhidden : v.source with
    | true => simp only [hr.source hhidden, Bool.false_eq_true, if_false]
    | false => rw [hquery hhidden]
  simp only [queryFields, hsource]
  cases hhidden : v.bindings with
  | true => simp only [hr.bindings hhidden, Bool.false_eq_true, if_false]
  | false => rw [hbindings hhidden]

/-- The source that a reporter keeps does not show if it is not to be shown. -/
theorem sourceFields_keeping (hr : v.Respected r.showsQuery r.showsVariables)
    {query : Option String} (hquery : v.source = false → r.query = query) :
    sourceFields { r with query } = r.sourceFields := by
  cases hhidden : v.source with
  | false => rw [← hquery hhidden]
  | true =>
    have hnone : ∀ k : Reporter, k.showsQuery = false → k.sourceFields = [] := by
      intro k hk
      simp only [sourceFields, hk, Bool.false_eq_true, if_false]
      split <;> rfl
    rw [hnone r (hr.source hhidden)]
    exact hnone { r with query } (hr.source hhidden)

/-- A reporter that keeps another source logs the same, and ends up the same but for the
source. -/
theorem handle_veils (hr : v.Respected r.showsQuery r.showsVariables) (he : e.Veils v e')
    {query : Option String} (hquery : v.source = false → r.query = query) (t : Telemetry) :
    ∃ kept, (v.source = false → (r.handle e t).1.query = kept) ∧
      handle { r with query } e' t =
        ({ (r.handle e t).1 with query := kept }, (r.handle e t).2) := by
  cases he with
  | @parsing source source' bindings bindings' hsource hbindings =>
    refine ⟨source', hsource, ?_⟩
    have hfields : queryFields { r with query } source' bindings' =
        r.queryFields source bindings := (queryFields_veils hr hsource hbindings).symm
    rw [handle, hfields]
    rfl
  | same e =>
    cases e with
    | parseStart source bindings => exact ⟨source, fun _ => rfl, rfl⟩
    | error err =>
      have hfields : errorFields { r with query } err = r.errorFields err := by
        rw [errorFields, errorFields, sourceFields_keeping hr hquery]
      refine ⟨query, hquery, ?_⟩
      rw [handle, hfields]
      rfl
    | _ => exact ⟨query, hquery, rfl⟩

end Reporter

namespace Participant

/-- An observer is not told to show what is hidden. -/
def Conceals (v : Veil) : Participant → Prop
  | reporter r => v.Respected r.showsQuery r.showsVariables
  | tracing o => v.Respected o.includeSource o.includeVariables
  | bystander | recorder _ => True

/-- Two observers that are not told to show what is hidden and are the same but for what
they remember of it. -/
inductive Alike (v : Veil) : Participant → Participant → Prop
  | bystander : Alike v bystander bystander
  | recorder {r r' : Recorder} (h : r.failOn = r'.failOn) : Alike v (recorder r) (recorder r')
  | reporter {r : Reporter} (h : v.Respected r.showsQuery r.showsVariables)
      {query : Option String} (hquery : v.source = false → r.query = query) :
      Alike v (reporter r) (reporter { r with query })
  | tracing {o : Trace.Observer} (h : v.Respected o.includeSource o.includeVariables) :
      Alike v (tracing o) (tracing o)

theorem Conceals.alike {p : Participant} (h : p.Conceals v) : Alike v p p := by
  cases p with
  | bystander => exact .bystander
  | recorder r => exact .recorder rfl
  | reporter r => exact .reporter h fun _ => rfl
  | tracing o => exact .tracing h

/-- The tracing of a request shows what its settings say. -/
theorem conceals_ofSettings (tracer : Trace.Tracer) {s : Settings.Tracing}
    (h : v.Respected s.includeSource s.includeVariables) :
    (ofSettings tracer s).Conceals v := by
  rw [ofSettings]
  split
  · exact h
  · trivial

theorem react_alike {p p' : Participant} (h : Alike v p p') (he : e.Veils v e') (data : Data)
    (t : Telemetry) :
    (p.react e data t).Related (Alike v) (p'.react e' data t) := by
  cases h with
  | bystander => exact ⟨.bystander, rfl, rfl, rfl⟩
  | @recorder r r' hfail =>
    have hfault : r.failure e.name = r'.failure e'.name := by
      rw [Recorder.failure, Recorder.failure, hfail, he.name]
    exact ⟨.recorder hfail, rfl, rfl, hfault⟩
  | @reporter r hr query hquery =>
    obtain ⟨kept, hkept, hhandle⟩ := Reporter.handle_veils hr he hquery t
    simp only [react, lift, Observing.react, hhandle]
    exact ⟨.reporter (Reporter.respected_handle hr e t) hkept, rfl, rfl, rfl⟩
  | @tracing o ho =>
    have hmove : Trace.Move ⟨o, t.backend⟩ ⟨.event e, data.parent?, t.backend.current⟩
        (o.hook data.parent? e t.backend) := Trace.move_answer _ _
    simp only [react, lift, Observing.react, ← Trace.Observer.hook_veils ho he]
    exact ⟨.tracing (hmove.respected ho), rfl, rfl, rfl⟩

theorem close_alike {p p' : Participant} (h : Alike v p p') (t : Telemetry) :
    Alike v (p.close t).1 (p'.close t).1 ∧ (p.close t).2 = (p'.close t).2 := by
  cases h with
  | bystander => exact ⟨.bystander, rfl⟩
  | @recorder r r' hfail =>
    have hfault : r.failure Recorder.closing = r'.failure Recorder.closing := by
      rw [Recorder.failure, Recorder.failure, hfail]
    exact ⟨.recorder hfail, congrArg (t, ·) hfault⟩
  | reporter hr hquery => exact ⟨.reporter hr hquery, rfl⟩
  | @tracing o ho =>
    have hmove : Trace.Move ⟨o, t.backend⟩ ⟨.close, none, t.backend.current⟩
        (o.close t.backend) := Trace.move_answer _ _
    exact ⟨.tracing (hmove.respected ho), rfl⟩

theorem blind_alike (v : Veil) : Blind v (Alike v) where
  kind h := by cases h <;> rfl
  react h he data t := react_alike h he data t
  close h t := close_alike h t

end Participant

namespace Runner

variable {calls calls' : List Trace.Call}

/-- No source and no variables of a query get into the spans, the records and the faults
of a request if none of its observers is told to show them: two runs of calls that are
the same but for what is hidden leave the same state of telemetry, and so does every call
after them. -/
theorem run_veils {r : Runner Participant} (hr : ∀ p ∈ r.observers, p.Conceals v)
    (hcalls : List.Forall₂ (Trace.Call.Veils v) calls calls') (t : Telemetry) :
    (run (r, t) calls).2 = (run (r, t) calls').2 ∧
      ∀ {c c'}, Trace.Call.Veils v c c' →
        (answer (run (r, t) calls) c).2 = (answer (run (r, t) calls') c').2 := by
  have hself : List.Forall₂ (Participant.Alike v) r.observers r.observers :=
    List.forall₂_same.2 fun p hp => (hr p hp).alike
  have hblind : Blind v (Participant.Alike v) := Participant.blind_alike v
  obtain ⟨hrunner, htelemetry⟩ :=
    run_related hblind (p := (r, t)) (.intro r.observers hself) rfl hcalls
  exact ⟨htelemetry, fun hc => (answer_related hblind hrunner htelemetry hc).2⟩

/-- A request that is traced and logged, and of whose query neither the source nor the
variables are to be shown. -/
def discreet : Runner Participant × Telemetry :=
  let (reporter, t) :=
    Reporter.create none false false (.create .initial [] ⟨2024, 1, 15, 10, 30, 45, 0⟩)
  let tracer : Trace.Tracer := { provider := "sdk", scope := "gqlext", refuses := fun _ _ => false }
  let settings := { Settings.Tracing.production with includeSource := false }
  create [.ofSettings tracer settings, .reporter reporter] .empty (some "r-1") none t

/-- A query is parsed, and an error is found. -/
def parseAndFail (query : String) (bindings : Value) : List Trace.Call :=
  [.event .start, .event (.parseStart (some query) bindings), .event (.parseEnd .null),
    .event (.error (.queryError "Unknown field" [.text "user"] [] .null)), .event .finish]

/-- What is left of two queries is the same. -/
theorem run_veils_discreet :
    (run discreet (parseAndFail "{ user }" (.dict []))).2 =
      (run discreet (parseAndFail "{ secret }" (.list []))).2 := by
  refine (run_veils (v := ⟨true, true⟩) ?_ ?_ discreet.2).1
  · rintro p (_ | ⟨_, _ | ⟨_, ⟨⟩⟩⟩)
    · exact Participant.conceals_ofSettings _ ⟨fun _ => rfl, fun _ => rfl⟩
    · exact ⟨fun _ => rfl, fun _ => rfl⟩
  · refine .cons (.event (.same _)) (.cons (.event (.parsing ?_ ?_)) (List.forall₂_same.2 ?_))
    · exact fun h => nomatch h
    · exact fun h => nomatch h
    · simp only [List.mem_cons, List.not_mem_nil, or_false, forall_eq_or_imp, forall_eq]
      exact ⟨.event (.same _), .event (.same _), .event (.same _)⟩

end Runner

end Request

end QueryTelemetry
