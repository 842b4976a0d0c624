import QueryTelemetry.Proofs.Log.Offers
import QueryTelemetry.Proofs.Request.Runs
import QueryTelemetry.Proofs.Request.Report
import QueryTelemetry.Request.Recorder

/-!
# What a runner remarks

Besides the failures of its observers a runner reports two things: an event that
does not fit the stage of the request, before the observers hear of it
(`Runner.warnings`), and a request that is left before its end
(`Runner.farewell`).  Both are seen by a logger that is captured: one of its
handlers hands every record over as it is.  Then each remark is seen exactly when
it is made, and it names the stage of the request.

The records that a call hands over are these, and what the observers hand over
themselves in their turns (`Runner.handsOver_event`, `Runner.handsOver_close`), apart
from the errors that report failures.  Observers may say what they like for that, as
long as they do not take back what was handed over.

What observers and the reports of their failures do to the state is followed once,
for every relation of states (`Within`).  So observers that say nothing of their own
leave a captured logger captured (`Captured.run`).
-/

namespace QueryTelemetry

/-! ## Statements of a captured logger -/

namespace Telemetry

/-- The records that were handed over between two states. -/
def handedOver (t t' : Telemetry) : List Log.Record :=
  (t'.trail.drop t.trail.length).filterMap Log.Emission.record?

@[simp] theorem handedOver_self (t : Telemetry) : t.handedOver t = [] := by
  rw [handedOver, List.drop_length]
  rfl

variable {t : Telemetry} {logger : Nat} {level : Log.Level} {l : Log.Logger} {message : String}
  {fields : List (String × String)} {exc : Option Fault}

/-- A statement of a captured logger is handed over. -/
theorem mem_handedOver_say (hcaptured : t.registry.Captures logger level l)
    (hnames : ∀ e ∈ fields, e.1 ∉ Log.reservedNames) {r : Log.Record} :
    r ∈ t.handedOver (t.say logger level message fields exc) ↔
      r = l.said level message fields exc t := by
  have hreadable : l.masker.broken = none := by
    rw [hcaptured.masker]
    rfl
  rw [say_of_readable hnames hcaptured.logger hreadable, if_pos hcaptured.enabled, handedOver,
    offered, List.drop_left]
  constructor
  · exact Log.Registry.eq_of_mem_offerAll _ _ _ r
  · rintro rfl
    obtain ⟨h, hmem, hrelay⟩ := hcaptured.relay
    exact Log.Registry.mem_offerAll hrelay _ hmem

/-- A statement of names of programs is handed over as it was made. -/
theorem handedOver_say_of_plain (hcaptured : t.registry.Captures logger level l)
    (hnames : ∀ e ∈ fields, e.1 ∉ Log.reservedNames)
    (hplain : ∀ e ∈ fields, Log.Masker.standard.isSecret e.1 = false ∧
      ∀ c ∈ e.2.toList, Log.Masker.isNamePart c = true)
    (hmessage : Log.Masker.standard.shownText message = message) :
    t.handedOver (t.say logger level message fields none) ≠ [] ∧
      ∀ r ∈ t.handedOver (t.say logger level message fields none),
        r.Says level message fields := by
  refine ⟨List.ne_nil_of_mem ((mem_handedOver_say hcaptured hnames).2 rfl), ?_⟩
  intro r hr
  obtain rfl := (mem_handedOver_say hcaptured hnames).1 hr
  refine ⟨rfl, ?_, ?_⟩
  · rw [Log.Logger.said, hcaptured.masker]
    exact hmessage
  · rw [Log.Logger.said, hcaptured.masker]
    refine List.map_congr_left fun e he => ?_
    obtain ⟨hsecret, hvalue⟩ := hplain e he
    exact Request.Runner.shownField_of_plain hsecret fun c hc =>
      Log.Masker.isMark_of_isNamePart (hvalue c hc)

/-- Some records were handed over between two states, all of one level. -/
def Adds (level : Log.Level) (t t' : Telemetry) : Prop :=
  ∃ out, t'.trail = t.trail ++ out ∧ ∀ r ∈ out.filterMap Log.Emission.record?, r.level = level

theorem Adds.refl (level : Log.Level) (t : Telemetry) : t.Adds level t :=
  ⟨[], (List.append_nil _).symm, fun _ h => absurd h List.not_mem_nil⟩

theorem Adds.trans {t' t'' : Telemetry} (h : t.Adds level t') (h' : t'.Adds level t'') :
    t.Adds level t'' := by
  obtain ⟨out, htrail, hlevel⟩ := h
  obtain ⟨out', htrail', hlevel'⟩ := h'
  refine ⟨out ++ out', by rw [htrail', htrail, List.append_assoc], ?_⟩
  intro r hr
  rw [List.filterMap_append] at hr
  exact (List.mem_append.1 hr).elim (hlevel r) (hlevel' r)

theorem adds_log {i : Nat} {arguments : Fields} {t' : Telemetry}
    (hlog : t.log i level message arguments = .ok t') : t.Adds level t' := by
  obtain ⟨g, out, hdone, rfl⟩ := log_eq_ok hlog
  refine ⟨out, rfl, ?_⟩
  rcases Log.Registry.log_eq_ok hdone with ⟨-, rfl⟩ | ⟨k, r, -, -, hrecord, -, rfl⟩
  · exact fun _ h => absurd h List.not_mem_nil
  · intro r' hr'
    obtain rfl := Log.Registry.eq_of_mem_offerAll _ _ _ r' hr'
    exact Log.Logger.level_record hrecord

theorem adds_say (t : Telemetry) (i : Nat) (level : Log.Level) (message : String)
    (fields : List (String × String)) (exc : Option Fault) :
    t.Adds level (t.say i level message fields exc) := by
  simp only [say]
  split
  · next hlog => exact adds_log hlog
  · exact .refl level t

theorem Adds.isPrefix {t' : Telemetry} (h : t.Adds level t') : t.trail <+: t'.trail := by
  obtain ⟨out, htrail, -⟩ := h
  exact ⟨out, htrail.symm⟩

/-- What is handed over in two steps is handed over in one after the other, if nothing
is taken back. -/
theorem handedOver_trans {t' t'' : Telemetry} (h : t.trail <+: t'.trail)
    (h' : t'.trail <+: t''.trail) : t.handedOver t'' = t.handedOver t' ++ t'.handedOver t'' := by
  obtain ⟨out, htrail⟩ := h
  obtain ⟨out', htrail'⟩ := h'
  simp only [handedOver, ← htrail', ← htrail, List.append_assoc, List.drop_left,
    List.filterMap_append]
  rw [← List.append_assoc, List.drop_left]

theorem Adds.level_eq {t' : Telemetry} (h : t.Adds level t') :
    ∀ r ∈ t.handedOver t', r.level = level := by
  obtain ⟨out, htrail, hlevel⟩ := h
  rw [handedOver, htrail, List.drop_left]
  exact hlevel

theorem Adds.filter_eq_self {t' : Telemetry} (h : t.Adds level t') :
    (t.handedOver t').filter (·.level == level) = t.handedOver t' :=
  List.filter_eq_self.2 fun r hr => beq_iff_eq.2 (h.level_eq r hr)

theorem Adds.filter_eq_nil {t' : Telemetry} {level' : Log.Level} (h : t.Adds level t')
    (hne : level ≠ level') : (t.handedOver t').filter (·.level == level') = [] := by
  refine List.filter_eq_nil_iff.2 fun r hr => ?_
  rw [h.level_eq r hr, beq_iff_eq]
  exact hne

theorem captures_log {i : Nat} {arguments : Fields} {t' : Telemetry} {level' : Log.Level}
    (hcaptured : t.registry.Captures logger level l)
    (hlog : t.log i level' message arguments = .ok t') : t'.registry.Captures logger level l := by
  obtain ⟨g, out, hdone, rfl⟩ := log_eq_ok hlog
  exact hcaptured.log hdone

/-- What is captured in one state is captured in another. -/
def KeepsCaptures (t t' : Telemetry) : Prop :=
  ∀ {logger level l}, t.registry.Captures logger level l → t'.registry.Captures logger level l

theorem keepsCaptures_say (t : Telemetry) (i : Nat) (level : Log.Level) (message : String)
    (fields : List (String × String)) (exc : Option Fault) :
    t.KeepsCaptures (t.say i level message fields exc) := by
  intro _ _ _ hcaptured
  simp only [say]
  split
  · next hlog => exact captures_log hcaptured hlog
  · exact hcaptured

end Telemetry

/-! ## Remarks of a runner -/

namespace Request

theorem Stage.isNamePart_name (s : Stage) : ∀ c ∈ s.name.toList, Log.Masker.isNamePart c = true := by
  have h : s.name.toList.all Log.Masker.isNamePart = true := by
    cases s <;> decide +kernel
  exact List.all_eq_true.1 h

namespace Runner

variable {ι : Type}

/-- The records that an event leaves before the observers hear of it. -/
def warnings (p : Runner ι × Telemetry) (e : Event) : List Log.Record :=
  (p.1.entered p.2).handedOver (p.1.reportOrder e (p.1.entered p.2))

/-- The records that a close leaves before the observers hear of it. -/
def farewell (p : Runner ι × Telemetry) : List Log.Record :=
  if p.1.closed then [] else (p.1.entered p.2).handedOver (p.1.reportEarly (p.1.entered p.2))

/-- The logger of a runner is captured. -/
def Captured (p : Runner ι × Telemetry) (level : Log.Level) : Prop :=
  ∃ l, p.2.registry.Captures p.1.logger level l

variable {p : Runner ι × Telemetry} {e : Event}

theorem warnings_of_fits (h : e.fits p.1.stage = true) : warnings p e = [] := by
  rw [warnings, reportOrder, if_pos h, Telemetry.handedOver_self]

theorem farewell_of_ended (h : p.1.stage = .ended) : farewell p = [] := by
  have hterminal : p.1.stage.isTerminal = true := by
    rw [h]
    rfl
  rw [farewell, reportEarly, if_pos hterminal, Telemetry.handedOver_self, ite_self]

theorem farewell_of_closed (h : p.1.closed = true) : farewell p = [] := by
  rw [farewell, if_pos h]

/-- An event that does not fit is warned of, and the warning names the event and
the stage. -/
theorem warnings_of_not_fits (hcaptured : Captured p .warning) (h : e.fits p.1.stage = false) :
    warnings p e ≠ [] ∧ ∀ r ∈ warnings p e, r.Says .warning "Lifecycle event out of order"
      [("event", e.name), ("state", p.1.stage.name)] := by
  obtain ⟨l, hcaptured⟩ := hcaptured
  rw [warnings, reportOrder, h, if_neg (by decide)]
  refine Telemetry.handedOver_say_of_plain (t := p.1.entered p.2) hcaptured ?_ ?_
    (by decide +kernel)
  · simp [Log.reservedNames, Log.Logger.faultArgument]
  · simp only [List.mem_cons, List.not_mem_nil, or_false, forall_eq_or_imp, forall_eq]
    exact ⟨⟨by decide, isNamePart_name e⟩, by decide, p.1.stage.isNamePart_name⟩

/-- A request that is left before its end is remarked on, and the remark names
the stage. -/
theorem farewell_of_early (hcaptured : Captured p .debug) (hopen : p.1.closed = false)
    (h : p.1.stage ≠ .ended) :
    farewell p ≠ [] ∧ ∀ r ∈ farewell p, r.Says .debug "Request scope left before end"
      [("state", p.1.stage.name)] := by
  obtain ⟨l, hcaptured⟩ := hcaptured
  have hterminal : p.1.stage.isTerminal = false := beq_false_of_ne h
  rw [farewell, hopen, if_neg (by decide), reportEarly, hterminal, if_neg (by decide)]
  refine Telemetry.handedOver_say_of_plain (t := p.1.entered p.2) hcaptured ?_ ?_
    (by decide +kernel)
  · simp [Log.reservedNames, Log.Logger.faultArgument]
  · simp only [List.mem_cons, List.not_mem_nil, or_false, forall_eq]
    exact ⟨by decide, p.1.stage.isNamePart_name⟩

/-! ## Observers and what they hand over -/

section

variable [Observing ι]

/-- A relation of states that observers and statements of errors stay within. -/
structure Within (ι : Type) [Observing ι] (R : Telemetry → Telemetry → Prop) : Prop where
  refl : ∀ t, R t t
  trans : ∀ {t t' t''}, R t t' → R t' t'' → R t t''
  say : ∀ t logger message fields exc, R t (t.say logger .error message fields exc)
  react : ∀ (o : ι) e data t, R t (Observing.react o e data t).telemetry
  close : ∀ (o : ι) t, R t (Observing.close o t).2.1

/-- Observers that take nothing back: what was handed over stays handed over. -/
structure Lasting (ι : Type) [Observing ι] : Prop where
  react : ∀ (o : ι) e data t, t.trail <+: (Observing.react o e data t).telemetry.trail
  close : ∀ (o : ι) t, t.trail <+: (Observing.close o t).2.1.trail

/-- Observers that leave telemetry as it is. -/
structure Reticent (ι : Type) [Observing ι] : Prop where
  react : ∀ (o : ι) e data t, (Observing.react o e data t).telemetry = t
  close : ∀ (o : ι) t, (Observing.close o t).2.1 = t

theorem reticent_recorder : Reticent Recorder := ⟨fun _ _ _ _ => rfl, fun _ _ => rfl⟩

theorem Reticent.lasting (hquiet : Reticent ι) : Lasting ι where
  react o e data t := by simp only [hquiet.react, List.prefix_rfl]
  close o t := by simp only [hquiet.close, List.prefix_rfl]

theorem within_isPrefix (hlasting : Lasting ι) : Within ι fun t t' => t.trail <+: t'.trail where
  refl _ := List.prefix_rfl
  trans := List.IsPrefix.trans
  say t i message fields exc := (t.adds_say i .error message fields exc).isPrefix
  react := hlasting.react
  close := hlasting.close

theorem within_keepsCaptures (hquiet : Reticent ι) : Within ι Telemetry.KeepsCaptures where
  refl _ := id
  trans h h' := h' ∘ h
  say t i := t.keepsCaptures_say i .error
  react o e data t := by rw [hquiet.react]; exact id
  close o t := by rw [hquiet.close]; exact id

variable {R : Telemetry → Telemetry → Prop}

theorem Within.settled (hR : Within ι R) {i : Nat} {e : Event} {done : Reaction ι} {t' : Telemetry}
    (h : settled i e done = .ok t') : R done.telemetry t' := by
  rw [Runner.settled] at h
  split at h
  · obtain rfl := Except.ok.inj h
    exact hR.refl _
  · obtain ⟨shown, -, rfl⟩ := reportFailure_eq_ok h
    exact hR.say ..

theorem Within.closedBy (hR : Within ι R) (i : Nat) (done : ι × Telemetry × Option Fault) :
    R done.2.1 (closedBy i done) := by
  rw [Runner.closedBy]
  split
  · exact hR.refl _
  · exact hR.say ..

/-- Telling an event stays within what each observer and each report stays within. -/
theorem Within.tell (hR : Within ι R) (i : Nat) (e : Event) (os : List ι) (data : Data)
    (t : Telemetry) : R t (tell i e os data t).telemetry := by
  induction os generalizing data t with
  | nil => exact hR.refl t
  | cons o rest ih =>
    have hreact : R t (Observing.react o e data t).telemetry := hR.react o e data t
    cases hturn : Runner.settled i e (Observing.react o e data t) with
    | error f =>
      rw [tell_cons_of_error hturn]
      exact hreact
    | ok t' =>
      rw [tell_cons_of_ok hturn]
      exact hR.trans hreact (hR.trans (hR.settled hturn) (ih _ t'))

/-- Closing the observers stays within what each close and each report stays within. -/
theorem Within.closeAll (hR : Within ι R) (i : Nat) (os : List ι) (t : Telemetry) :
    R t (closeAll i os t).2 := by
  induction os generalizing t with
  | nil => exact hR.refl t
  | cons o rest ih =>
    rw [closeAll_cons]
    exact hR.trans (hR.close o t) (hR.trans (hR.closedBy i (Observing.close o t)) (ih _))

theorem adds_settled {i : Nat} {e : Event} {done : Reaction ι} {t' : Telemetry}
    (h : settled i e done = .ok t') : done.telemetry.Adds .error t' := by
  rw [settled] at h
  split at h
  · obtain rfl := Except.ok.inj h
    exact .refl .error _
  · obtain ⟨shown, -, rfl⟩ := reportFailure_eq_ok h
    exact Telemetry.adds_say ..

theorem adds_closedBy (i : Nat) (done : ι × Telemetry × Option Fault) :
    done.2.1.Adds .error (closedBy i done) := by
  rw [closedBy]
  split
  · exact .refl .error _
  · exact Telemetry.adds_say ..

/-! ### What a call hands over -/

/-- What the observers themselves hand over in their turns at an event. -/
def asidesAtEvent (logger : Nat) (e : Event) : List ι → Data → Telemetry → List Log.Record
  | [], _, _ => []
  | o :: rest, data, t =>
    let done := Observing.react o e data t
    t.handedOver done.telemetry ++
      match settled logger e done with
      | .ok t' => asidesAtEvent logger e rest done.data t'
      | .error _ => []

/-- What the observers themselves hand over when they are closed. -/
def asidesAtClose (logger : Nat) : List ι → Telemetry → List Log.Record
  | [], _ => []
  | o :: rest, t =>
    let done := Observing.close o t
    t.handedOver done.2.1 ++ asidesAtClose logger rest (closedBy logger done)

/-- The records of a level that a call of a runner hands over. -/
def handsOver (level : Log.Level) (p : Runner ι × Telemetry) (c : Trace.Call) : List Log.Record :=
  (p.2.handedOver (next p c).2).filter (·.level == level)

/-- The records of a level that the observers themselves hand over in a call of their
runner. -/
def asides (level : Log.Level) (p : Runner ι × Telemetry) (c : Trace.Call) : List Log.Record :=
  let records := match c with
    | .event e =>
      asidesAtEvent p.1.logger e p.1.observers p.1.data (p.1.reportOrder e (p.1.entered p.2))
    | .close =>
      if p.1.closed then []
      else asidesAtClose p.1.logger p.1.observers (p.1.reportEarly (p.1.entered p.2))
  records.filter (·.level == level)

variable {level : Log.Level}

/-- Besides errors, telling an event hands over what the observers hand over in their
turns. -/
theorem filter_handedOver_tell (hlasting : Lasting ι) (hne : .error ≠ level) (logger : Nat)
    (e : Event) (os : List ι) (data : Data) (t : Telemetry) :
    (t.handedOver (tell logger e os data t).telemetry).filter (·.level == level) =
      (asidesAtEvent logger e os data t).filter (·.level == level) := by
  induction os generalizing data t with
  | nil => exact congrArg _ t.handedOver_self
  | cons o rest ih =>
    have hreact := hlasting.react o e data t
    rw [asidesAtEvent]
    cases hturn : settled logger e (Observing.react o e data t) with
    | error f => rw [tell_cons_of_error hturn, List.append_nil]
    | ok t' =>
      have hreport := adds_settled hturn
      have hrest := (within_isPrefix hlasting).tell logger e rest
        (Observing.react o e data t).data t'
      rw [tell_cons_of_ok hturn]
      simp only [Telemetry.handedOver_trans hreact (hreport.isPrefix.trans hrest),
        Telemetry.handedOver_trans hreport.isPrefix hrest, List.filter_append,
        hreport.filter_eq_nil hne, List.nil_append, ih]

/-- Besides errors, closing the observers hands over what they hand over themselves. -/
theorem filter_handedOver_closeAll (hlasting : Lasting ι) (hne : .error ≠ level) (logger : Nat)
    (os : List ι) (t : Telemetry) :
    (t.handedOver (closeAll logger os t).2).filter (·.level == level) =
      (asidesAtClose logger os t).filter (·.level == level) := by
  induction os generalizing t with
  | nil => exact congrArg _ t.handedOver_self
  | cons o rest ih =>
    have hclose := hlasting.close o t
    have hreport := adds_closedBy logger (Observing.close o t)
    have hrest := (within_isPrefix hlasting).closeAll logger rest
      (closedBy logger (Observing.close o t))
    rw [closeAll_cons, asidesAtClose]
    simp only [Telemetry.handedOver_trans hclose (hreport.isPrefix.trans hrest),
      Telemetry.handedOver_trans hreport.isPrefix hrest, List.filter_append,
      hreport.filter_eq_nil hne, List.nil_append, ih]

end

theorem adds_reportOrder (p : Runner ι × Telemetry) (e : Event) :
    (p.1.entered p.2).Adds .warning (p.1.reportOrder e (p.1.entered p.2)) := by
  rw [reportOrder]
  split
  · exact .refl .warning _
  · exact Telemetry.adds_say ..

theorem adds_reportEarly (p : Runner ι × Telemetry) :
    (p.1.entered p.2).Adds .debug (p.1.reportEarly (p.1.entered p.2)) := by
  rw [reportEarly]
  split
  · exact .refl .debug _
  · exact Telemetry.adds_say ..

theorem keepsCaptures_reportOrder (p : Runner ι × Telemetry) (e : Event) :
    p.2.KeepsCaptures (p.1.reportOrder e (p.1.entered p.2)) := by
  intro _ _ _ h
  rw [reportOrder]
  split
  · exact h
  · exact Telemetry.keepsCaptures_say (p.1.entered p.2) _ _ _ _ _ h

theorem keepsCaptures_reportEarly (p : Runner ι × Telemetry) :
    p.2.KeepsCaptures (p.1.reportEarly (p.1.entered p.2)) := by
  intro _ _ _ h
  rw [reportEarly]
  split
  · exact h
  · exact Telemetry.keepsCaptures_say (p.1.entered p.2) _ _ _ _ _ h

variable [Observing ι]

/-- The warnings of an event are those of the runner, which come first, and those of the
observers. -/
theorem handsOver_event (hlasting : Lasting ι) (p : Runner ι × Telemetry) (e : Event) :
    handsOver .warning p (.event e) = warnings p e ++ asides .warning p (.event e) := by
  have hreport := adds_reportOrder p e
  have htold := (within_isPrefix hlasting).tell p.1.logger e p.1.observers p.1.data
    (p.1.reportOrder e (p.1.entered p.2))
  change ((p.1.entered p.2).handedOver (tell p.1.logger e p.1.observers p.1.data
    (p.1.reportOrder e (p.1.entered p.2))).telemetry).filter _ = _
  rw [Telemetry.handedOver_trans hreport.isPrefix htold, List.filter_append, hreport.filter_eq_self,
    filter_handedOver_tell hlasting (by decide)]
  rfl

/-- What a close hands over for debugging are the farewell of the runner, which comes
first, and what the observers hand over. -/
theorem handsOver_close (hlasting : Lasting ι) (p : Runner ι × Telemetry) :
    handsOver .debug p .close = farewell p ++ asides .debug p .close := by
  by_cases hclosed : p.1.closed = true
  · rw [farewell_of_closed hclosed, handsOver, next, answer, close_of_closed hclosed,
      Telemetry.handedOver_self, asides, if_pos hclosed]
    rfl
  · have hreport := adds_reportEarly p
    have hall := (within_isPrefix hlasting).closeAll p.1.logger p.1.observers
      (p.1.reportEarly (p.1.entered p.2))
    rw [farewell, if_neg hclosed, handsOver, next, answer, close, if_neg hclosed, asides,
      if_neg hclosed]
    change ((p.1.entered p.2).handedOver (closeAll p.1.logger p.1.observers
      (p.1.reportEarly (p.1.entered p.2))).2).filter _ = _
    rw [Telemetry.handedOver_trans hreport.isPrefix hall, List.filter_append,
      hreport.filter_eq_self, filter_handedOver_closeAll hlasting (by decide)]

variable {level : Log.Level}

theorem Captured.next (hquiet : Reticent ι) (h : Captured p level) (c : Trace.Call) :
    Captured (next p c) level := by
  obtain ⟨l, h⟩ := h
  cases c with
  | event e =>
    exact ⟨l, (within_keepsCaptures hquiet).tell _ e _ _ _ (keepsCaptures_reportOrder p e h)⟩
  | close =>
    by_cases hclosed : p.1.closed = true
    · rw [Runner.next, answer, close_of_closed hclosed]
      exact ⟨l, h⟩
    · rw [Runner.next, answer, close, if_neg hclosed]
      exact ⟨l, (within_keepsCaptures hquiet).closeAll _ _ _ (keepsCaptures_reportEarly p h)⟩

/-- Observers that say nothing of their own leave the logger of their runner captured. -/
theorem Captured.run (hquiet : Reticent ι) (h : Captured p level) (calls : List Trace.Call) :
    Captured (run p calls) level := by
  induction calls generalizing p with
  | nil => exact h
  | cons c calls ih => exact ih (h.next hquiet c)

/-! ## A captured runner -/

/-- The loggers at the beginning, with a handler that hands every record over. -/
def relaying : Log.Registry :=
  { handlers := [.relay], loggers := [], named := [], level := .debug, defaults := [0] }

/-- A request on such loggers, with a recorder that fails at the start. -/
def relayed : Runner Recorder × Telemetry :=
  create [.create ["start"]] Data.empty (some "r-1") none
    (Telemetry.create relaying [] ⟨2024, 1, 15, 10, 30, 45, 0⟩)

theorem captured_relayed (level : Log.Level) : Captured relayed level :=
  ⟨_, rfl, by cases level <;> rfl, rfl, 0, List.mem_singleton_self 0, rfl⟩

end Runner

end Request

end QueryTelemetry
