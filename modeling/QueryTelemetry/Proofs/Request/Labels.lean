import QueryTelemetry.Proofs.Request.Conduct
import QueryTelemetry.Proofs.Text.Hexadecimal

/-!
# The labels of a request

A request has an id that is not empty, and it may have the name of its operation; neither
changes while it is told events.  Both are the fields of its log scope.  So a record that is
logged in a call of the request carries the id, unless a scope that was opened inside the call
says another one, and the same holds of the name (`Runner.answer_labels`).

The context of records that the caller has is the same after the call, whatever the observers
do.
-/

namespace QueryTelemetry

namespace Log.Context

/-- Scopes that do not give a value leave the one around them. -/
theorem foldl_merge_of_not_given {get : Context → Value}
    (hget : ∀ outer inner, get (outer.merge inner) = prefer (get inner) (get outer))
    {scopes : List Context} (h : ∀ fields ∈ scopes, (get fields).isGiven = false) (c : Context) :
    get (scopes.foldl merge c) = get c := by
  induction scopes generalizing c with
  | nil => rfl
  | cons fields scopes ih =>
    rw [List.foldl_cons, ih fun s hs => h s (List.mem_cons_of_mem _ hs), hget, prefer,
      h fields List.mem_cons_self, if_neg Bool.false_ne_true]

end Log.Context

theorem Value.isGiven_text {s : String} (h : s ≠ "") : (Value.text s).isGiven = true := by
  simp only [isGiven, Bool.not_eq_true', String.isEmpty_eq_false_iff]
  exact h

namespace Request.Runner

variable {ι : Type}

/-- The id of a request is the one that it is given, or a new one, and never empty. -/
theorem requestId_create_ne_empty (observers : List ι) (data : Data) (id name : Option String)
    (t : Telemetry) : (create observers data id name t).1.requestId ≠ "" := by
  change (chooseId id t).1 ≠ ""
  cases id with
  | none => exact Text.hex_ne_empty 32 _
  | some given =>
    simp only [chooseId]
    split
    · exact Text.hex_ne_empty 32 _
    · next hgiven => simpa using hgiven

variable [Observing ι]

/-- The request after a call, made in any state of telemetry. -/
def met (r : Runner ι) (visit : Trace.Call × Telemetry) : Runner ι := (answer (r, visit.2) visit.1).1

/-- No call changes the labels of a request. -/
theorem scopeFields_met (r : Runner ι) (visit : Trace.Call × Telemetry) :
    (r.met visit).scopeFields = r.scopeFields := by
  obtain ⟨c, t⟩ := visit
  cases c with
  | event e => rfl
  | close =>
    simp only [met, answer, close]
    split <;> rfl

theorem scopeFields_foldl_met (r : Runner ι) (visits : List (Trace.Call × Telemetry)) :
    (visits.foldl met r).scopeFields = r.scopeFields := by
  induction visits generalizing r with
  | nil => rfl
  | cons visit visits ih => rw [List.foldl_cons, ih, scopeFields_met]

theorem conduct_answer (h : Orderly ι) (r : Runner ι) (c : Trace.Call) (t : Telemetry) :
    ∃ told : List Remark, Conduct t (told.map (·.under r.scopeFields)) (answer (r, t) c).2.1 := by
  cases c with
  | event e => exact conduct_dispatch h r e t
  | close => exact conduct_close h r t

/-- In every call of a request, every record that the request or an observer logs carries the id
of the request, and the name of its operation if it has one that is not empty, unless a scope
that was opened inside the call gives the record another one.  All records that are handed
over or kept in a buffer are among them.  The context of records is after the call what it was
before. -/
theorem answer_labels (h : Orderly ι) (observers : List ι) (data : Data)
    (id name : Option String) (made : Telemetry) (visits : List (Trace.Call × Telemetry))
    (c : Trace.Call) (t : Telemetry) :
    let r := visits.foldl met (create observers data id name made).1
    let after := (answer (r, t) c).2.1
    after.ambient.logging = t.ambient.logging ∧
      ∃ told, Conduct t told after ∧
        (∀ record, record ∈ t.handedOver after ∨ (record ∈ after.kept ∧ record ∉ t.kept) →
          ∃ m ∈ told, m.record = record) ∧
        ∀ m ∈ told, ∃ own, m.scopes = r.scopeFields :: own ∧
          m.record.context =
            own.foldl Log.Context.merge (t.ambient.logging.merge r.scopeFields) ∧
          ((∀ fields ∈ own, fields.requestId.isGiven = false) →
            m.record.context.requestId = .text r.requestId) ∧
          ∀ n, name = some n → n ≠ "" →
            (∀ fields ∈ own, fields.operationName.isGiven = false) →
              m.record.context.operationName = .text n := by
  intro r after
  have hfields : r.scopeFields = (create observers data id name made).1.scopeFields :=
    scopeFields_foldl_met _ visits
  have hid : r.requestId ≠ "" := by
    have heq : r.requestId = (create observers data id name made).1.requestId :=
      Value.text.inj (congrArg Log.Context.requestId hfields)
    rw [heq]
    exact requestId_create_ne_empty observers data id name made
  have hname : r.scopeFields.operationName = .ofText? name := by
    rw [hfields]
    rfl
  obtain ⟨inner, hinner⟩ := conduct_answer h r c t
  refine ⟨hinner.logging_eq, _, hinner, ?_, ?_⟩
  · rintro record (hrecord | ⟨hrecord, hnew⟩)
    · exact hinner.mem_of_handedOver hrecord
    · exact (hinner.mem_of_kept hrecord).resolve_left hnew
  · intro m hm
    obtain ⟨own, -, rfl⟩ := List.mem_map.1 hm
    have hcontext : own.record.context =
        own.scopes.foldl Log.Context.merge (t.ambient.logging.merge r.scopeFields) :=
      hinner.context_eq _ hm
    refine ⟨own.scopes, rfl, hcontext, fun hown => ?_, fun n hn hne hown => ?_⟩
    · change own.record.context.requestId = .text r.requestId
      rw [hcontext, Log.Context.foldl_merge_of_not_given (fun _ _ => rfl) hown]
      exact Log.Context.prefer_of_isGiven (Value.isGiven_text hid) _
    · change own.record.context.operationName = .text n
      rw [hcontext, Log.Context.foldl_merge_of_not_given (fun _ _ => rfl) hown]
      change Log.Context.prefer r.scopeFields.operationName _ = _
      rw [hname, hn]
      exact Log.Context.prefer_of_isGiven (Value.isGiven_text hne) _

/-- An observer that tells a request of its own about every event, in a log scope, and fails
afterwards. -/
def passingOn : Delegate Participant × Telemetry :=
  let (reporter, t) :=
    Reporter.create none true true (.create relaying [] ⟨2024, 1, 15, 10, 30, 45, 0⟩)
  let (inner, t) := create [.reporter reporter] .empty (some "r-8") none t
  let fields := { Log.Context.empty with extra := [("path", .text "user")] }
  ({ inner, fields, fault := some (.ofRuntime "broken") }, t)

/-- A request with that observer. -/
def passed : Runner (Delegate Participant) × Telemetry :=
  create [passingOn.1] .empty (some "r-7") (some "GetUser") passingOn.2

/-- The state of a caller who has a log scope of his own. -/
def called : Telemetry := passed.2.withLogging { Log.Context.empty with requestId := .text "r-0" }

/-- The request that is told in its turn labels its own records, and the name of the operation
gets through to them. -/
theorem answer_labels_passed :
    let after := (answer (passed.1, called) (.event .finish)).2.1
    after.ambient.logging = called.ambient.logging ∧
      (called.handedOver after).map (·.context.requestId) = [.text "r-8", .text "r-7"] ∧
      ∃ told, Conduct called told after ∧
        (∀ record ∈ called.handedOver after, ∃ m ∈ told, m.record = record) ∧
        ∀ m ∈ told, (∀ fields ∈ m.scopes.tail, fields.operationName.isGiven = false) →
          m.record.context.operationName = .text "GetUser" := by
  obtain ⟨hlogging, told, htold, hhanded, hlabels⟩ :=
    answer_labels (orderly_delegate orderly_participant) [passingOn.1] .empty (some "r-7")
      (some "GetUser") passingOn.2 [] (.event .finish) called
  refine ⟨hlogging, rfl, told, htold, fun record hrecord => hhanded record (.inl hrecord), ?_⟩
  intro m hm hown
  obtain ⟨own, hscopes, -, -, hname⟩ := hlabels m hm
  rw [hscopes] at hown
  exact hname "GetUser" rfl (by decide) hown

/-- In a call of the request with the id r-7 a record carries the id r-8, which the request that
an observer tells in its turn has given it. -/
theorem relabelled_passed :
    let after := (answer (passed.1, called) (.event .finish)).2.1
    passed.1.requestId = "r-7" ∧
      ∃ record ∈ called.handedOver after, record.context.requestId = .text "r-8" := by
  intro after
  have hids : (called.handedOver after).map (·.context.requestId) = [.text "r-8", .text "r-7"] :=
    rfl
  refine ⟨rfl, List.mem_map.1 ?_⟩
  rw [hids]
  exact List.mem_cons_self

end Request.Runner

end QueryTelemetry
