import QueryTelemetry.Log.Registry
import QueryTelemetry.Proofs.Log.Masking
import QueryTelemetry.Proofs.Log.Offers
import QueryTelemetry.Proofs.Log.Scopes

/-!
# What a record says of itself

The map of a record begins with its time, its level, its logger and its message.  The
fields of the context and those of the call are laid over them, so a field of one of
these names takes the place of what the record says of itself (`Record.get?_toFields`).
Of these names a call refuses those of the level and the message, and a scope refuses
none (`Logger.record_shows_own_iff`).
-/

namespace QueryTelemetry.Log

/-- The names under which a record speaks of itself. -/
def ownNames : List String := ["timestamp", "level", "logger", "message"]

theorem beq_eq_false_of_mem_ownNames {name other : String} (hname : name ∈ ownNames)
    (hother : other ∉ ownNames) : (name == other) = false :=
  beq_eq_false_iff_ne.2 fun heq => hother (heq ▸ hname)

namespace Record

variable {r : Record} {fields : Fields} {name : String}

/-- What a record says of itself. -/
def own (r : Record) : Fields :=
  [("timestamp", .text r.timestamp.render), ("level", .text r.level.name),
    ("logger", .text r.logger), ("message", .text r.message)]

/-- What stands under a name in the fields that a record was given, those of the call before
those of the context. -/
def given? (r : Record) (name : String) : Option Value :=
  (Assoc.get? r.extra name).or (Assoc.get? r.context.extra name)

theorem keys_own (r : Record) : Assoc.keys r.own = ownNames := rfl

theorem get?_own {e : String × Value} (he : e ∈ r.own) : Assoc.get? r.own e.1 = some e.2 := by
  refine Assoc.get?_of_mem ?_ he
  rw [keys_own]
  decide

/-- The request id and the operation name of a context have names of their own. -/
theorem get?_contextFields {c : Context} (hkeys : (Assoc.keys c.extra).Nodup)
    (hname : name ∈ ownNames) : Assoc.get? c.toFields name = Assoc.get? c.extra name := by
  have hshown : ∀ other v, other ∉ ownNames → Assoc.get? (Context.shown other v) name = none := by
    intro other v hother
    unfold Context.shown
    split
    · rw [Assoc.get?_cons, beq_eq_false_of_mem_ownNames hname hother]
      rfl
    · rfl
  have happend : Assoc.get? (Context.shown "request_id" c.requestId ++
      Context.shown "operation_name" c.operationName) name = none := by
    unfold Assoc.get? at hshown ⊢
    rw [List.lookup_append, hshown _ _ (by decide), hshown _ _ (by decide)]
    rfl
  rw [Context.toFields, Assoc.get?_overlay _ hkeys, happend, Option.or_none]

theorem nodup_keys_contextFields (c : Context) : (Assoc.keys c.toFields).Nodup := by
  refine Assoc.nodup_keys_overlay ?_ c.extra
  unfold Context.shown
  split <;> split <;> simp [Assoc.keys]

/-- What stands in the map of a record under the names of what it says of itself: the field
that it was given under the name, if there is one. -/
theorem get?_toFields (hcontext : (Assoc.keys r.context.extra).Nodup)
    (hextra : (Assoc.keys r.extra).Nodup) (hfields : r.toFields = .ok fields)
    (hname : name ∈ ownNames) :
    Assoc.get? fields name = (r.given? name).or (Assoc.get? r.own name) := by
  have hhead : Assoc.get? r.headFields name = (r.given? name).or (Assoc.get? r.own name) := by
    show Assoc.get? (Assoc.overlay (Assoc.overlay r.own r.context.toFields) r.extra) name = _
    rw [Assoc.get?_overlay _ hextra, Assoc.get?_overlay _ (nodup_keys_contextFields r.context),
      get?_contextFields hcontext hname, given?, Option.or_assoc]
  have hfault : ∀ m : Fields, ∀ other v, other ∉ ownNames →
      Assoc.get? (Assoc.put m other v) name = Assoc.get? m name := by
    intro m other v hother
    rw [Assoc.get?_put, beq_eq_false_of_mem_ownNames hname hother]
    rfl
  -- The entries for the fault are written last, under names of their own.
  unfold toFields at hfields
  cases hexc : r.exc with
  | none =>
    rw [hexc] at hfields
    rw [← Except.ok.inj hfields, hhead]
  | some v =>
    rw [hexc] at hfields
    obtain ⟨shown, -, hfields⟩ := exists_of_bind_eq_ok hfields
    rw [← Except.ok.inj hfields, hfault _ _ _ (by decide), hfault _ _ _ (by decide), hhead]

end Record

namespace Logger

variable {l : Logger} {level : Level} {message : String} {arguments : Fields} {context : Context}
  {now : Timestamp} {r : Record} {fields : Fields}

/-- An accepted call has no field named like the level or the message. -/
theorem has_of_checkArguments (h : checkArguments level arguments = .ok ()) :
    Assoc.has arguments "level" = false ∧ Assoc.has arguments "message" = false := by
  unfold checkArguments at h
  split at h
  · cases h
  · next hnone =>
    split at h
    · cases h
    · next hlevel =>
      refine ⟨by simpa using hlevel, ?_⟩
      refine List.any_eq_false.2 fun e he hmessage => ?_
      exact List.find?_eq_none.1 hnone e he (by simp [eq_of_beq hmessage])

/-- The fields of the record of a call are the masked arguments. -/
theorem extra_record (h : l.record level message arguments context now = .ok r) :
    l.masker.maskFields (Assoc.remove arguments faultArgument) = .ok r.extra := by
  obtain ⟨shown, -, h⟩ := exists_of_bind_eq_ok h
  obtain ⟨extra, hextra, h⟩ := exists_of_bind_eq_ok h
  rw [hextra, ← Except.ok.inj h]

theorem message_record (h : l.record level message arguments context now = .ok r) :
    l.masker.maskString message = .ok r.message := by
  obtain ⟨shown, hshown, h⟩ := exists_of_bind_eq_ok h
  obtain ⟨extra, -, h⟩ := exists_of_bind_eq_ok h
  rw [hshown, ← Except.ok.inj h]

theorem nodup_keys_extra (h : l.record level message arguments context now = .ok r)
    (harguments : (Assoc.keys arguments).Nodup) : (Assoc.keys r.extra).Nodup := by
  rw [Masker.keys_of_maskFields (extra_record h), Assoc.keys_remove]
  exact harguments.filter _

/-- The fields of the record of an accepted call have no field named like the level or the
message. -/
theorem get?_extra_of_refused {name : String} (hname : Assoc.has arguments name = false)
    (h : l.record level message arguments context now = .ok r) :
    Assoc.get? r.extra name = none := by
  rw [← Option.not_isSome_iff_eq_none, Assoc.isSome_get?, Assoc.has_eq_true_iff,
    Masker.keys_of_maskFields (extra_record h), Assoc.keys_remove]
  intro hmem
  rw [Assoc.has_eq_true_iff.2 (List.mem_of_mem_filter hmem)] at hname
  cases hname

/-- What the map of the record of an accepted call shows under the names of its time, its
level, its logger and its message.  The call has no fields named like the level or the
message.  The map shows the record's own value under a name exactly if every field that is
given under the name, by the call or else by its context, has that value. -/
theorem record_shows_own_iff (haccepted : checkArguments level arguments = .ok ())
    (harguments : (Assoc.keys arguments).Nodup) (hcontext : (Assoc.keys context.extra).Nodup)
    (hrecord : l.record level message arguments context now = .ok r)
    (hfields : r.toFields = .ok fields) :
    ∃ masked extra, l.masker.maskString message = .ok masked ∧
      l.masker.maskFields (Assoc.remove arguments faultArgument) = .ok extra ∧
      Assoc.get? extra "level" = none ∧ Assoc.get? extra "message" = none ∧
      ∀ name own, (name, own) ∈ [("timestamp", Value.text now.render), ("level", .text level.name),
          ("logger", .text l.name), ("message", .text masked)] →
        (Assoc.get? fields name = some own ↔
          ∀ v, (Assoc.get? extra name).or (Assoc.get? context.extra name) = some v → v = own) := by
  obtain ⟨hlevel, hmessage⟩ := has_of_checkArguments haccepted
  have hkeys := nodup_keys_extra hrecord harguments
  refine ⟨r.message, r.extra, message_record hrecord, extra_record hrecord,
    get?_extra_of_refused hlevel hrecord, get?_extra_of_refused hmessage hrecord,
    fun name own hmem => ?_⟩
  have hmem : (name, own) ∈ r.own := by
    obtain ⟨masked, extra, rfl⟩ := record_eq_ok hrecord
    exact hmem
  obtain rfl := context_record hrecord
  have hname : name ∈ ownNames := by
    rw [← Record.keys_own r]
    exact List.mem_map_of_mem hmem
  rw [Record.get?_toFields hcontext hkeys hfields hname, Record.get?_own hmem, Record.given?]
  cases (Assoc.get? r.extra name).or (Assoc.get? r.context.extra name) <;> simp

/-- A logger that masks as usual and has no handlers. -/
def sample : Logger := { name := "t", level := .debug, handlers := [], masker := .standard }

/-- The context inside a scope with one field. -/
def sampleContext (name : String) (v : Value) : Context :=
  ((Scope.ofFields { Context.empty with extra := [(name, v)] }).enter .empty).2

/-- A call with a field, inside a scope with a field named like the logger.  The level is that
of the call, and the logger is not the one that was called. -/
theorem record_shows_own_level :
    let now : Timestamp := ⟨2024, 1, 15, 10, 30, 45, 123456⟩
    ∃ r fields, sample.record .info "hello" [("user", .null)]
        (sampleContext "logger" (.text "other")) now = .ok r ∧
      r.toFields = .ok fields ∧ Assoc.get? fields "level" = some (.text "INFO") ∧
      Assoc.get? fields "logger" ≠ some (.text "t") := by
  intro now
  obtain ⟨r, hr⟩ : ∃ r, sample.record .info "hello" [("user", .null)]
      (sampleContext "logger" (.text "other")) now = .ok r := ⟨_, rfl⟩
  obtain ⟨fields, hfields⟩ : ∃ fields, r.toFields = .ok fields := by
    obtain ⟨shown, extra, rfl⟩ := record_eq_ok hr
    exact ⟨_, rfl⟩
  obtain ⟨masked, extra, -, hextra, -, -, hown⟩ :=
    record_shows_own_iff rfl (by decide) (by decide) hr hfields
  have hmasked : sample.masker.maskFields (Assoc.remove [("user", .null)] faultArgument) =
      .ok [("user", .null)] := by rfl
  obtain rfl := Except.ok.inj (hmasked.symm.trans hextra)
  refine ⟨r, fields, hr, hfields, ?_, fun hlogger => ?_⟩
  · refine (hown "level" (.text "INFO") (List.mem_cons_of_mem _ List.mem_cons_self)).2 ?_
    rintro v ⟨⟩
  · have hother := (hown "logger" (.text "t")
      (List.mem_cons_of_mem _ (List.mem_cons_of_mem _ List.mem_cons_self))).1 hlogger
    exact absurd (Value.text.inj (hother (.text "other") rfl)) (by decide)

/-- Inside a scope with a field named like the level, the map of a record shows that field in
the place of its level. -/
theorem record_hides_own_level :
    ∃ r fields, sample.record .info "hello" [] (sampleContext "level" (.text "x"))
        ⟨2024, 1, 15, 10, 30, 45, 123456⟩ = .ok r ∧
      r.level = .info ∧ r.toFields = .ok fields ∧
      Assoc.get? fields "level" = some (.text "x") :=
  ⟨_, _, rfl, rfl, rfl, rfl⟩

end Logger

end QueryTelemetry.Log
