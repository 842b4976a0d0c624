import QueryTelemetry.Proofs.Request.Remarks
import QueryTelemetry.Request.Participant

/-!
# How observers conduct themselves in the log

`Conduct` is what a piece of code may do to telemetry as far as the log goes: it does
something else, it logs a record, it works in a log scope that it opens and leaves, or it
does one after the other.  A `Remark` is a record that is logged, with the scopes that were
open around it.  The code of a scope stands between its two ends, so it leaves the context of
records as it found it (`Conduct.logging_eq`), and every record carries the fields of the
scopes around it, laid over the context outside (`Conduct.context_eq`).

`Orderly` observers conduct themselves so at every event and when they are closed.  Those of
this library are orderly (`orderly_participant`), and so is an observer that passes events on
to another request (`orderly_delegate`), to any depth.  They take nothing back of what was handed
over (`Orderly.lasting`), so what is known of the remarks of a runner holds with all of them.
-/

namespace QueryTelemetry

open Log (Scope)

/-- A record that was logged, and the fields of the scopes around it, the outermost first. -/
structure Remark where
  scopes : List Log.Context
  record : Log.Record

/-- A remark with one more scope around it. -/
def Remark.under (fields : Log.Context) (m : Remark) : Remark :=
  { m with scopes := fields :: m.scopes }

/-- The state inside a log scope. -/
def Telemetry.inside (t : Telemetry) (fields : Log.Context) : Telemetry :=
  t.withLogging ((Scope.ofFields fields).enter t.ambient.logging).2

/-- The state after a log scope that was entered in another one. -/
def Telemetry.outside (t after : Telemetry) (fields : Log.Context) : Telemetry :=
  after.withLogging
    (((Scope.ofFields fields).enter t.ambient.logging).1.leave after.ambient.logging).2

/-- The records that the buffers keep. -/
def Telemetry.kept (t : Telemetry) : List Log.Record := Log.Registry.kept t.registry.handlers

/-- What a piece of code may do from one state to another, with the records that it logs. -/
inductive Conduct : Telemetry → List Remark → Telemetry → Prop
  /-- It does something that does not concern the log. -/
  | aside {t t' : Telemetry} {notes : List Log.Emission}
      (hlogging : t'.ambient.logging = t.ambient.logging)
      (hkept : ∀ r ∈ t'.kept, r ∈ t.kept)
      (htrail : t'.trail = t.trail ++ notes)
      (hnotes : notes.filterMap Log.Emission.record? = []) :
      Conduct t [] t'
  /-- It logs a record. -/
  | logged {t t' : Telemetry} {i : Nat} {l : Log.Logger} {level : Log.Level} {message : String}
      {fields : Fields} {r : Log.Record}
      (hlogger : t.registry.loggers[i]? = some l)
      (hrecord : l.record level message fields t.ambient.logging t.now = .ok r)
      (hlog : t.log i level message fields = .ok t') :
      Conduct t [⟨[], r⟩] t'
  /-- It does something in a log scope. -/
  | enclosed {t t' : Telemetry} {told : List Remark} (fields : Log.Context)
      (h : Conduct (t.inside fields) told t') :
      Conduct t (told.map (·.under fields)) (t.outside t' fields)
  /-- It does one thing after the other. -/
  | followed {t t' t'' : Telemetry} {told told' : List Remark}
      (h : Conduct t told t') (h' : Conduct t' told' t'') :
      Conduct t (told ++ told') t''

namespace Conduct

variable {t t' : Telemetry} {told : List Remark}

theorem refl (t : Telemetry) : Conduct t [] t :=
  .aside rfl (fun _ => id) (List.append_nil _).symm rfl

/-- The context of records is afterwards what it was. -/
theorem logging_eq (h : Conduct t told t') : t'.ambient.logging = t.ambient.logging := by
  induction h with
  | aside hlogging => exact hlogging
  | logged _ _ hlog =>
    obtain ⟨g, out, -, rfl⟩ := Telemetry.log_eq_ok hlog
    rfl
  | enclosed fields => rfl
  | followed _ _ ih ih' => exact ih'.trans ih

/-- Every record carries the fields of the scopes around it, the inner ones over the outer
ones, and all of them over the context outside. -/
theorem context_eq (h : Conduct t told t') :
    ∀ m ∈ told, m.record.context = m.scopes.foldl Log.Context.merge t.ambient.logging := by
  induction h with
  | aside => exact fun _ hm => absurd hm List.not_mem_nil
  | logged _ hrecord =>
    rintro m hm
    obtain rfl := List.mem_singleton.1 hm
    exact Log.Logger.context_record hrecord
  | enclosed fields _ ih =>
    intro m hm
    obtain ⟨inner, hinner, rfl⟩ := List.mem_map.1 hm
    exact ih inner hinner
  | followed h _ ih ih' =>
    intro m hm
    rcases List.mem_append.1 hm with hm | hm
    · exact ih m hm
    · rw [ih' m hm, h.logging_eq]

/-- What is handed over is among the records that are logged. -/
theorem trail_eq (h : Conduct t told t') :
    ∃ out, t'.trail = t.trail ++ out ∧
      ∀ r ∈ out.filterMap Log.Emission.record?, ∃ m ∈ told, m.record = r := by
  induction h with
  | @aside _ _ notes _ _ htrail hnotes =>
    refine ⟨notes, htrail, fun r hr => ?_⟩
    rw [hnotes] at hr
    exact absurd hr List.not_mem_nil
  | logged hlogger hrecord hlog =>
    obtain ⟨g, out, hdone, rfl⟩ := Telemetry.log_eq_ok hlog
    refine ⟨out, rfl, fun r hr => ⟨_, List.mem_singleton_self _, ?_⟩⟩
    rcases Log.Registry.log_eq_ok hdone with ⟨-, rfl⟩ | ⟨l', r', hlogger', -, hrecord', -, rfl⟩
    · exact absurd hr List.not_mem_nil
    · obtain rfl := Option.some.inj (hlogger.symm.trans hlogger')
      obtain rfl := Except.ok.inj (hrecord.symm.trans hrecord')
      exact (Log.Registry.eq_of_mem_offerAll _ _ _ r hr).symm
  | enclosed fields _ ih =>
    obtain ⟨out, htrail, hout⟩ := ih
    refine ⟨out, htrail, fun r hr => ?_⟩
    obtain ⟨m, hm, hrecord⟩ := hout r hr
    exact ⟨m.under fields, List.mem_map_of_mem hm, hrecord⟩
  | followed _ _ ih ih' =>
    obtain ⟨out, htrail, hout⟩ := ih
    obtain ⟨out', htrail', hout'⟩ := ih'
    refine ⟨out ++ out', by rw [htrail', htrail, List.append_assoc], fun r hr => ?_⟩
    rw [List.filterMap_append] at hr
    rcases List.mem_append.1 hr with hr | hr
    · obtain ⟨m, hm, hrecord⟩ := hout r hr
      exact ⟨m, List.mem_append_left _ hm, hrecord⟩
    · obtain ⟨m, hm, hrecord⟩ := hout' r hr
      exact ⟨m, List.mem_append_right _ hm, hrecord⟩

theorem mem_of_handedOver (h : Conduct t told t') {r : Log.Record} (hr : r ∈ t.handedOver t') :
    ∃ m ∈ told, m.record = r := by
  obtain ⟨out, htrail, hout⟩ := h.trail_eq
  rw [Telemetry.handedOver, htrail, List.drop_left] at hr
  exact hout r hr

/-- What the buffers keep was kept before or is among the records that are logged. -/
theorem mem_of_kept (h : Conduct t told t') {r : Log.Record} (hr : r ∈ t'.kept) :
    r ∈ t.kept ∨ ∃ m ∈ told, m.record = r := by
  induction h with
  | aside _ hkept => exact .inl (hkept r hr)
  | @logged t _ _ _ _ _ _ logged hlogger hrecord hlog =>
    obtain ⟨g, out, hdone, rfl⟩ := Telemetry.log_eq_ok hlog
    rcases Log.Registry.log_eq_ok hdone with ⟨rfl, -⟩ | ⟨l', r', hlogger', -, hrecord', rfl, -⟩
    · exact .inl hr
    · obtain rfl := Option.some.inj (hlogger.symm.trans hlogger')
      obtain rfl := Except.ok.inj (hrecord.symm.trans hrecord')
      exact (Log.Registry.mem_kept_offerAll hr).imp_right fun heq =>
        ⟨_, List.mem_singleton_self _, heq.symm⟩
  | enclosed fields _ ih =>
    rcases ih hr with hr | ⟨m, hm, hrecord⟩
    · exact .inl hr
    · exact .inr ⟨m.under fields, List.mem_map_of_mem hm, hrecord⟩
  | followed _ _ ih ih' =>
    rcases ih' hr with hr | ⟨m, hm, hrecord⟩
    · exact (ih hr).imp_right fun ⟨m, hm, hrecord⟩ => ⟨m, List.mem_append_left _ hm, hrecord⟩
    · exact .inr ⟨m, List.mem_append_right _ hm, hrecord⟩

end Conduct

/-- Some conduct leads from one state to the other. -/
def Conducted (t t' : Telemetry) : Prop := ∃ told, Conduct t told t'

namespace Conducted

variable {t t' t'' : Telemetry}

theorem refl (t : Telemetry) : Conducted t t := ⟨[], .refl t⟩

theorem trans (h : Conducted t t') (h' : Conducted t' t'') : Conducted t t'' := by
  obtain ⟨told, h⟩ := h
  obtain ⟨told', h'⟩ := h'
  exact ⟨told ++ told', h.followed h'⟩

/-- What was handed over stays handed over. -/
theorem isPrefix (h : Conducted t t') : t.trail <+: t'.trail := by
  obtain ⟨told, h⟩ := h
  obtain ⟨out, htrail, -⟩ := h.trail_eq
  exact ⟨out, htrail.symm⟩

/-- Logging is logging a record or nothing. -/
theorem of_log {i : Nat} {level : Log.Level} {message : String} {fields : Fields}
    (h : t.log i level message fields = .ok t') : Conducted t t' := by
  obtain ⟨g, out, hdone, rfl⟩ := Telemetry.log_eq_ok h
  rcases Log.Registry.log_eq_ok hdone with ⟨rfl, rfl⟩ | ⟨l, r, hlogger, -, hrecord, -, -⟩
  · exact ⟨[], .aside rfl (fun _ => id) rfl rfl⟩
  · exact ⟨_, .logged hlogger hrecord h⟩

theorem of_say (t : Telemetry) (i : Nat) (level : Log.Level) (message : String)
    (fields : List (String × String)) (exc : Option Fault) :
    Conducted t (t.say i level message fields exc) := by
  simp only [Telemetry.say]
  split
  · next hlog => exact of_log hlog
  · exact refl t

/-- Reading the clock does not concern the log. -/
theorem of_readClock (t : Telemetry) : Conducted t t.readClock.2 := by
  rw [Telemetry.readClock]
  split
  · exact refl t
  · exact ⟨[], .aside rfl (fun _ => id) (List.append_nil _).symm rfl⟩

/-- Neither does tracing, which leaves its notes to the host. -/
theorem of_absorb (t : Telemetry) (b : Trace.Backend) : Conducted t (t.absorb b) := by
  refine ⟨[], .aside rfl (fun _ => id) rfl (List.filterMap_eq_nil_iff.2 fun e he => ?_)⟩
  obtain ⟨note, -, rfl⟩ := List.mem_map.1 he
  rfl

end Conducted

namespace Request

/-! ## Orderly observers -/

/-- Whatever an observer does to the log, it does within its rules. -/
structure Orderly (ι : Type) [Observing ι] : Prop where
  react : ∀ (o : ι) e data t, Conducted t (Observing.react o e data t).telemetry
  close : ∀ (o : ι) t, Conducted t (Observing.close o t).2.1

/-- Orderly observers take nothing back. -/
theorem Orderly.lasting {ι : Type} [Observing ι] (h : Orderly ι) : Runner.Lasting ι where
  react o e data t := (h.react o e data t).isPrefix
  close o t := (h.close o t).isPrefix

theorem Reporter.conducted_logFields (r : Reporter) (level : Log.Level) (message : String)
    (fields : Except Fault Fields) (t : Telemetry) :
    Conducted t (r.logFields level message fields t).1 := by
  simp only [logFields]
  split
  · exact .refl t
  · split
    · next hlog => exact .of_log hlog
    · exact .refl t

theorem Reporter.conducted_handle (r : Reporter) (e : Event) (t : Telemetry) :
    Conducted t (r.handle e t).2.1 := by
  cases e with
  | start => exact .of_readClock t
  | parseStart | validationEnd | error => exact r.conducted_logFields ..
  | finish =>
    have hlasted : Conducted t (r.lasted t).2 := by
      rw [lasted]
      split
      · exact .of_readClock t
      · exact .refl t
    exact hlasted.trans (r.conducted_logFields ..)
  | _ => exact .refl t

/-- The observers of this library are orderly. -/
theorem orderly_participant : Orderly Participant where
  react p e data t := by
    cases p with
    | bystander | recorder => exact .refl t
    | reporter r => exact r.conducted_handle e t
    | tracing o => exact .of_absorb t _
  close p t := by
    cases p with
    | bystander | recorder | reporter => exact .refl t
    | tracing o => exact .of_absorb t _

namespace Runner

variable {ι : Type} [Observing ι]

theorem within_conducted (h : Orderly ι) : Within ι Conducted where
  refl := .refl
  trans := .trans
  say t i := .of_say t i .error
  react := h.react
  close := h.close

/-- Telling an event is a conduct in the log scope of the request. -/
theorem conduct_dispatch (h : Orderly ι) (r : Runner ι) (e : Event) (t : Telemetry) :
    ∃ told : List Remark, Conduct t (told.map (·.under r.scopeFields)) (r.dispatch e t).2.1 := by
  have hreported : Conducted (r.entered t) (r.reportOrder e (r.entered t)) := by
    rw [reportOrder]
    split
    · exact .refl _
    · exact .of_say ..
  obtain ⟨told, htold⟩ := hreported.trans
    ((within_conducted h).tell r.logger e r.observers r.data (r.reportOrder e (r.entered t)))
  exact ⟨told, htold.enclosed r.scopeFields⟩

/-- So is closing it. -/
theorem conduct_close (h : Orderly ι) (r : Runner ι) (t : Telemetry) :
    ∃ told : List Remark, Conduct t (told.map (·.under r.scopeFields)) (r.close t).2 := by
  by_cases hclosed : r.closed = true
  · rw [close_of_closed hclosed]
    exact ⟨[], .refl t⟩
  · have hreported : Conducted (r.entered t) (r.reportEarly (r.entered t)) := by
      rw [reportEarly]
      split
      · exact .refl _
      · exact .of_say ..
    obtain ⟨told, htold⟩ := hreported.trans
      ((within_conducted h).closeAll r.logger r.observers (r.reportEarly (r.entered t)))
    rw [close, if_neg hclosed]
    exact ⟨told, htold.enclosed r.scopeFields⟩

end Runner

/-! ## An observer that tells another request -/

/-- An observer that passes every event on to a request of its own, in a log scope of its own,
and fails if it is told to. -/
structure Delegate (κ : Type) where
  inner : Runner κ
  fields : Log.Context
  fault : Option Fault

instance {κ : Type} [Observing κ] : Observing (Delegate κ) where
  kind _ := "Delegate"
  react o e data t :=
    let (inner, after, fault) := o.inner.dispatch e (t.inside o.fields)
    { observer := { o with inner }, data, telemetry := t.outside after o.fields
      fault := fault.or o.fault }
  close o t :=
    let (inner, after) := o.inner.close (t.inside o.fields)
    ({ o with inner }, t.outside after o.fields, o.fault)

theorem orderly_delegate {κ : Type} [Observing κ] (h : Orderly κ) : Orderly (Delegate κ) where
  react o e data t := by
    obtain ⟨told, htold⟩ := o.inner.conduct_dispatch h e (t.inside o.fields)
    exact ⟨_, htold.enclosed o.fields⟩
  close o t := by
    obtain ⟨told, htold⟩ := o.inner.conduct_close h (t.inside o.fields)
    exact ⟨_, htold.enclosed o.fields⟩

end Request

end QueryTelemetry
