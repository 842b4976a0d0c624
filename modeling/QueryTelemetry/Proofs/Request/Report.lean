import QueryTelemetry.Proofs.Log.PlainText
import QueryTelemetry.Request.Runner

/-!
# One report, one record

What the library says of itself has texts as its fields.  Such a statement is
exactly one record, offered once to every handler of the logger, or nothing if
the logger does not log records of its level (`Telemetry.say_of_readable`).  The
record is masked like every other; a masker whose replacements can be read never
refuses it.

A runner reports the failure of an observer by an error record that names the
kind of the observer and the event, and the standard masker leaves the two names
as they are.
-/

namespace QueryTelemetry

namespace Log.Masker

/-- A text as the masker leaves it. -/
def shownText (m : Masker) (s : String) : String := if m.enabled then m.applyRules s else s

/-- A field whose value is a text, as the masker leaves it. -/
def shownField (m : Masker) (e : String × String) : String × Value :=
  (e.1, .text (if m.enabled && m.isSecret e.1 then maskText else m.shownText e.2))

theorem maskString_of_readable {m : Masker} (h : m.broken = none) (s : String) :
    m.maskString s = .ok (m.shownText s) := by
  simp only [maskString, hideText, h, shownText]
  split <;> rfl

theorem maskFields_of_readable {m : Masker} (h : m.broken = none)
    (fields : List (String × String)) :
    m.maskFields (fields.map fun e => (e.1, Value.text e.2)) = .ok (fields.map m.shownField) := by
  by_cases henabled : m.enabled = true
  · rw [maskFields, if_pos henabled]
    induction fields with
    | nil => rfl
    | cons e rest ih =>
      rw [List.map_cons, hideFields, ih, List.map_cons]
      by_cases hsecret : m.isSecret e.1 = true
      · rw [if_pos hsecret, shownField, henabled, hsecret]
        rfl
      · rw [if_neg hsecret, hide, hideText, h, shownField, shownText, henabled,
          Bool.eq_false_iff.2 hsecret]
        rfl
  · rw [maskFields, if_neg henabled]
    refine congrArg Except.ok (List.map_congr_left fun e _ => ?_)
    rw [shownField, shownText, Bool.eq_false_iff.2 henabled]
    rfl

end Log.Masker

/-- The state after a record was offered to some handlers. -/
def Telemetry.offered (t : Telemetry) (r : Log.Record) (handlers : List Nat) : Telemetry :=
  { t with
    registry := { t.registry with
      handlers := (Log.Registry.offerAll t.registry.handlers r handlers).1 }
    trail := t.trail ++ (Log.Registry.offerAll t.registry.handlers r handlers).2 }

/-! ## Statements -/

namespace Log

/-- The arguments of a statement: its fields, and the fault that it reports. -/
def statementArguments (fields : List (String × String)) (exc : Option Fault) : Fields :=
  fields.map (fun e => (e.1, Value.text e.2)) ++
    (exc.map fun f => (Logger.faultArgument, Value.fault f)).toList

/-- The names that the fields of a statement do not have. -/
def reservedNames : List String := ["self", "message", "level", Logger.faultArgument]

/-- The record of a statement. -/
def Logger.said (l : Logger) (level : Level) (message : String) (fields : List (String × String))
    (exc : Option Fault) (t : Telemetry) : Record where
  level
  message := l.masker.shownText message
  logger := l.name
  timestamp := t.now
  context := t.ambient.logging
  extra := fields.map l.masker.shownField
  exc := exc.map .fault

section

variable {fields : List (String × String)} {exc : Option Fault}

theorem ne_faultArgument (h : ∀ e ∈ fields, e.1 ∉ reservedNames) {e : String × String}
    (he : e ∈ fields) : e.1 ≠ Logger.faultArgument :=
  fun heq => h e he (heq ▸ List.mem_append_right ["self", "message", "level"]
    (List.mem_singleton_self _))

theorem checkArguments_statement (h : ∀ e ∈ fields, e.1 ∉ reservedNames) (level : Level) :
    Logger.checkArguments level (statementArguments fields exc) = .ok () := by
  have hname : ∀ e ∈ statementArguments fields exc, e.1 ∉ ["self", "message", "level"] := by
    intro e he
    rcases List.mem_append.1 he with he | he
    · obtain ⟨field, hfield, rfl⟩ := List.mem_map.1 he
      exact fun hmem => h field hfield (List.mem_append_left [Logger.faultArgument] hmem)
    · obtain ⟨f, -, rfl⟩ := Option.map_eq_some_iff.1 (Option.mem_toList.1 he)
      change Logger.faultArgument ∉ ["self", "message", "level"]
      decide
  have hfind : (statementArguments fields exc).find?
      (fun e => e.1 == "self" || e.1 == "message") = none := by
    refine List.find?_eq_none.2 fun e he => ?_
    have := hname e he
    simp_all
  have hlevel : Assoc.has (statementArguments fields exc) "level" = false := by
    refine List.any_eq_false.2 fun e he => ?_
    have := hname e he
    simp_all
  rw [Logger.checkArguments, hfind, hlevel]
  rfl

theorem remove_statement (h : ∀ e ∈ fields, e.1 ∉ reservedNames) :
    Assoc.remove (statementArguments fields exc) Logger.faultArgument =
      fields.map fun e => (e.1, Value.text e.2) := by
  have hfields : (fields.map fun e => (e.1, Value.text e.2)).filter
      (!·.1 == Logger.faultArgument) = fields.map fun e => (e.1, Value.text e.2) := by
    refine List.filter_eq_self.2 fun e he => ?_
    obtain ⟨field, hfield, rfl⟩ := List.mem_map.1 he
    have hne := ne_faultArgument h hfield
    simpa using hne
  have hexc : ((exc.map fun f => (Logger.faultArgument, Value.fault f)).toList).filter
      (!·.1 == Logger.faultArgument) = [] := by
    cases exc <;> rfl
  rw [Assoc.remove, statementArguments, List.filter_append, hfields, hexc, List.append_nil]

theorem faultOf_statement (h : ∀ e ∈ fields, e.1 ∉ reservedNames) :
    Logger.faultOf (statementArguments fields exc) = exc.map .fault := by
  have hnone : (fields.map fun e => (e.1, Value.text e.2)).lookup Logger.faultArgument = none := by
    refine List.lookup_eq_none_iff.2 fun e he => ?_
    obtain ⟨field, hfield, rfl⟩ := List.mem_map.1 he
    have hne := ne_faultArgument h hfield
    simpa using hne.symm
  rw [Logger.faultOf, Assoc.get?, statementArguments, List.lookup_append, hnone]
  cases exc <;> rfl

end

end Log

section

variable {fields : List (String × String)} {exc : Option Fault} {l : Log.Logger} {logger : Nat}
  {level : Log.Level} {message : String} {t : Telemetry}

/-- What logging can do to telemetry is what it does to the loggers, and what
leaves comes after what left before. -/
theorem Telemetry.log_eq_ok {arguments : Fields} {t' : Telemetry}
    (h : t.log logger level message arguments = .ok t') :
    ∃ g out, t.registry.log logger level message arguments t.ambient.logging t.now = .ok (g, out) ∧
      t' = { t with registry := g, trail := t.trail ++ out } := by
  rw [log] at h
  cases hlog : t.registry.log logger level message arguments t.ambient.logging t.now with
  | error f =>
    rw [hlog] at h
    exact absurd h (by simp [bind, Except.bind])
  | ok done =>
    rw [hlog] at h
    exact ⟨done.1, done.2, rfl, (Except.ok.inj h).symm⟩

theorem Telemetry.log_statement (hnames : ∀ e ∈ fields, e.1 ∉ Log.reservedNames)
    (hlogger : t.registry.loggers[logger]? = some l) (hmasker : l.masker.broken = none) :
    t.log logger level message (Log.statementArguments fields exc) =
      .ok (if l.isEnabled level then t.offered (l.said level message fields exc t) l.handlers
        else t) := by
  have hrecord : l.record level message (Log.statementArguments fields exc) t.ambient.logging
      t.now = .ok (l.said level message fields exc t) := by
    rw [Log.Logger.record, Log.Masker.maskString_of_readable hmasker, Log.remove_statement hnames,
      Log.Masker.maskFields_of_readable hmasker, Log.faultOf_statement hnames]
    rfl
  simp only [Telemetry.log, Log.Registry.log, Log.checkArguments_statement hnames, hlogger]
  by_cases henabled : l.isEnabled level = true
  · simp only [henabled, if_true, hrecord]
    rfl
  · simp only [henabled, Bool.false_eq_true, if_false]
    change Except.ok { t with trail := t.trail ++ [] } = _
    rw [List.append_nil]

/-- A statement is one record, offered to every handler of the logger, if the
logger logs records of its level. -/
theorem Telemetry.say_of_readable (hnames : ∀ e ∈ fields, e.1 ∉ Log.reservedNames)
    (hlogger : t.registry.loggers[logger]? = some l) (hmasker : l.masker.broken = none) :
    t.say logger level message fields exc =
      if l.isEnabled level then t.offered (l.said level message fields exc t) l.handlers
      else t := by
  have hlog : t.log logger level message (Log.statementArguments fields exc) = _ :=
    log_statement hnames hlogger hmasker
  cases exc with
  | none =>
    simp only [Log.statementArguments, Option.map_none, Option.toList_none, List.append_nil]
      at hlog
    simp only [say, hlog]
  | some f =>
    simp only [Log.statementArguments, Option.map_some, Option.toList_some] at hlog
    simp only [say, hlog]

end

/-! ## Reports of failures -/

namespace Request.Runner

/-- The message of the report of a failure, before it is masked. -/
def failureMessage (e : Event) (shown : String) : String :=
  "Extension hook '" ++ e.name ++ "' failed: " ++ shown

/-- The record of a failure: an error of the runner's logger that names the kind
of the observer and the event. -/
def failureRecord (l : Log.Logger) (kind : String) (e : Event) (f : Fault) (shown : String)
    (t : Telemetry) : Log.Record where
  level := .error
  message := l.masker.shownText (failureMessage e shown)
  logger := l.name
  timestamp := t.now
  context := t.ambient.logging
  extra := [("extension", kind), ("event", e.name)].map l.masker.shownField
  exc := some (.fault f)

section

variable {logger : Nat} {l : Log.Logger} {kind : String} {e : Event} {f : Fault} {shown : String}
  {t : Telemetry}

/-- A report is a statement of the runner's logger. -/
theorem reportFailure_eq_ok {t' : Telemetry} (h : reportFailure logger kind e f t = .ok t') :
    ∃ shown, f.text = .ok shown ∧
      t' = t.say logger .error (failureMessage e shown) [("extension", kind), ("event", e.name)]
        (some f) := by
  rw [reportFailure] at h
  cases htext : f.text with
  | error f' =>
    rw [htext] at h
    exact absurd h (by simp [bind, Except.bind])
  | ok shown =>
    rw [htext] at h
    exact ⟨shown, rfl, (Except.ok.inj h).symm⟩

/-- A failure that has a text is reported by one record, if the logger logs
errors. -/
theorem reportFailure_of_text (htext : f.text = .ok shown)
    (hlogger : t.registry.loggers[logger]? = some l) (hmasker : l.masker.broken = none) :
    reportFailure logger kind e f t =
      .ok (if l.isEnabled .error then t.offered (failureRecord l kind e f shown t) l.handlers
        else t) := by
  have hnames : ∀ field ∈ [("extension", kind), ("event", e.name)],
      field.1 ∉ Log.reservedNames := by
    simp [Log.reservedNames, Log.Logger.faultArgument]
  rw [reportFailure, htext]
  exact congrArg Except.ok (Telemetry.say_of_readable hnames hlogger hmasker)

theorem shownField_of_plain {field value : String}
    (hsecret : Log.Masker.standard.isSecret field = false)
    (hplain : ∀ c ∈ value.toList, Log.Masker.isMark c = false) :
    Log.Masker.standard.shownField (field, value) = (field, .text value) := by
  rw [Log.Masker.shownField, hsecret, Bool.and_false, if_neg (by decide), Log.Masker.shownText]
  rw [Log.Masker.applyRules_of_plain rfl hplain, ite_self]

theorem isNamePart_name (e : Event) : ∀ c ∈ e.name.toList, Log.Masker.isNamePart c = true := by
  have h : e.name.toList.all Log.Masker.isNamePart = true := by
    cases e <;> simp only [Event.name] <;> decide +kernel
  exact List.all_eq_true.1 h

/-- The record of a failure shows the two names as they are. -/
theorem extra_failureRecord (hmasker : l.masker = .standard)
    (hkind : ∀ c ∈ kind.toList, Log.Masker.isNamePart c = true) :
    (failureRecord l kind e f shown t).extra =
      [("extension", .text kind), ("event", .text e.name)] := by
  have hextension : Log.Masker.standard.shownField ("extension", kind) =
      ("extension", .text kind) :=
    shownField_of_plain (by decide) fun c hc => Log.Masker.isMark_of_isNamePart (hkind c hc)
  have hevent : Log.Masker.standard.shownField ("event", e.name) = ("event", .text e.name) :=
    shownField_of_plain (by decide) fun c hc =>
      Log.Masker.isMark_of_isNamePart (isNamePart_name e c hc)
  rw [failureRecord, hmasker, List.map_cons, List.map_cons, List.map_nil, hextension, hevent]

end

end Request.Runner

end QueryTelemetry
