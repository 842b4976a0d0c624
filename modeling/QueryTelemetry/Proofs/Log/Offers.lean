import QueryTelemetry.Log.Registry

/-!
# What logging can do

A handler keeps a record, passes it over, writes it, forwards it or hands it over
(`Handler.Handled`).  Logging does nothing, or it offers one record to the handlers of the logger
(`Registry.log_eq_ok`).  A handler that hands records over stays one, and hands
over what it is offered and nothing else.  So a logger that has such a handler is
captured, and stays so whatever is logged (`Captures.log`).
-/

namespace QueryTelemetry.Log

/-- The record that is handed over, if that is what leaves. -/
def Emission.record? : Emission → Option Record
  | .record r => some r
  | _ => none

/-- A record says a message with some fields. -/
structure Record.Says (r : Record) (level : Level) (message : String)
    (fields : List (String × String)) : Prop where
  level : r.level = level
  message : r.message = message
  fields : r.extra = fields.map fun e => (e.1, .text e.2)

section

variable {l : Logger} {level : Level} {message : String} {arguments : Fields} {context : Context}
  {now : Timestamp} {r : Record}

/-- Masking decides on the message and on the extra fields of a record, and on nothing else. -/
theorem Logger.record_eq_ok (h : l.record level message arguments context now = .ok r) :
    ∃ shown extra, r = { level, message := shown, logger := l.name, timestamp := now
                         context, extra, exc := faultOf arguments } := by
  rw [record] at h
  cases hmessage : l.masker.maskString message with
  | error f =>
    rw [hmessage] at h
    cases h
  | ok shown =>
    cases hextra : l.masker.maskFields (Assoc.remove arguments faultArgument) with
    | error f =>
      rw [hmessage, hextra] at h
      cases h
    | ok extra =>
      rw [hmessage, hextra] at h
      exact ⟨shown, extra, (Except.ok.inj h).symm⟩

theorem Logger.level_record (h : l.record level message arguments context now = .ok r) :
    r.level = level := by
  obtain ⟨shown, extra, rfl⟩ := record_eq_ok h
  rfl

theorem Logger.context_record (h : l.record level message arguments context now = .ok r) :
    r.context = context := by
  obtain ⟨shown, extra, rfl⟩ := record_eq_ok h
  rfl

end

/-! ## What a handler does with a record -/

namespace Handler

/-- What a handler can do with a record: keep it, pass it over, write it, forward it
or hand it over. -/
inductive Handled (r : Record) : Handler → Handler → List Emission → Prop
  | buffered (capacity : Nat) (records : List Record) :
      Handled r (buffer capacity records) (buffer capacity (latest capacity (records ++ [r]))) []
  | passedOver (sink : Sink) (format : Format) (least : Level) (closed : Bool) :
      Handled r (stream sink format least closed) (stream sink format least closed) []
  | written (sink : Sink) {format : Format} {least : Level} {line : String}
      (hpasses : least.passes r.level = true) (hline : format.render r = .ok line) :
      Handled r (stream sink format least false)
        (stream (sink.write (line ++ "\n")).1 format least false) (sink.write (line ++ "\n")).2
  | forwarded {logger : Option String} {masker : Masker} {shown : HostRecord}
      (hshown : toHost logger masker r = .ok shown) :
      Handled r (host logger masker) (host logger masker) [.host shown]
  | relayed : Handled r relay relay [.record r]

theorem handled_of_handle {k k' : Handler} {r : Record} {out : List Emission}
    (h : k.handle r = .ok (k', out)) : Handled r k k' out := by
  cases k with
  | buffer capacity records =>
    obtain ⟨rfl, rfl⟩ := Prod.mk.inj (Except.ok.inj h)
    exact .buffered capacity records
  | stream sink format least closed =>
    simp only [handle] at h
    split at h
    · obtain ⟨rfl, rfl⟩ := Prod.mk.inj (Except.ok.inj h)
      exact .passedOver sink format least closed
    · next hopen =>
      split at h
      · obtain ⟨rfl, rfl⟩ := Prod.mk.inj (Except.ok.inj h)
        exact .passedOver sink format least closed
      · next line hline =>
        obtain ⟨rfl, rfl⟩ := Prod.mk.inj (Except.ok.inj h)
        obtain ⟨rfl, hpasses⟩ : closed = false ∧ least.passes r.level = true := by
          simpa using hopen
        exact .written sink hpasses hline
  | host logger masker =>
    cases hshown : toHost logger masker r with
    | error f =>
      simp only [handle, hshown] at h
      cases h
    | ok shown =>
      simp only [handle, hshown] at h
      obtain ⟨rfl, rfl⟩ := Prod.mk.inj (Except.ok.inj h)
      exact .forwarded hshown
  | relay =>
    obtain ⟨rfl, rfl⟩ := Prod.mk.inj (Except.ok.inj h)
    exact .relayed
  | failing => cases h

section

variable {sink : Sink} {format : Format} {least : Level} {closed : Bool} {r : Record}

theorem handle_of_not_passes (h : least.passes r.level = false) :
    (stream sink format least closed).handle r = .ok (stream sink format least closed, []) := by
  simp [handle, h]

theorem handle_of_render {line : String} (hpasses : least.passes r.level = true)
    (hline : format.render r = .ok line) :
    (stream sink format least false).handle r =
      .ok (stream (sink.write (line ++ "\n")).1 format least false,
        (sink.write (line ++ "\n")).2) := by
  simp only [handle, hline, hpasses]
  rfl

end

end Handler

namespace Registry

/-- The logger of a place logs records of a level, masks them in the standard
way, and has a handler that hands them over. -/
structure Captures (g : Registry) (i : Nat) (level : Level) (l : Logger) : Prop where
  logger : g.loggers[i]? = some l
  enabled : l.isEnabled level = true
  masker : l.masker = .standard
  relay : ∃ h ∈ l.handlers, g.handlers[h]? = some .relay

/-! ## What is kept -/

/-- The records that the buffers among some handlers keep. -/
def kept (handlers : List Handler) : List Record := handlers.flatMap Handler.records

theorem mem_records_handle {k k' : Handler} {r r' : Record} {out : List Emission}
    (hhandle : k.handle r = .ok (k', out)) (hr' : r' ∈ k'.records) : r' ∈ k.records ∨ r' = r := by
  cases Handler.handled_of_handle hhandle with
  | buffered capacity records =>
    have hmem : r' ∈ records ++ [r] := List.mem_of_mem_drop hr'
    exact (List.mem_append.1 hmem).imp_right List.mem_singleton.1
  | _ => exact absurd hr' List.not_mem_nil

theorem mem_kept_offer {handlers : List Handler} {r r' : Record} {i : Nat}
    (hr' : r' ∈ kept (offer handlers r i).1) : r' ∈ kept handlers ∨ r' = r := by
  rw [offer] at hr'
  split at hr'
  · exact .inl hr'
  · next k hk =>
    split at hr'
    · next k' out hhandle =>
      obtain ⟨k₁, hk₁, hmem⟩ := List.mem_flatMap.1 hr'
      rcases List.mem_or_eq_of_mem_set hk₁ with hk₁ | rfl
      · exact .inl (List.mem_flatMap.2 ⟨k₁, hk₁, hmem⟩)
      · exact (mem_records_handle hhandle hmem).imp_left fun h =>
          List.mem_flatMap.2 ⟨k, List.mem_of_getElem? hk, h⟩
    · exact .inl hr'

/-- Buffers keep nothing but what they are offered. -/
theorem mem_kept_offerAll {handlers : List Handler} {r r' : Record} {places : List Nat}
    (hr' : r' ∈ kept (offerAll handlers r places).1) : r' ∈ kept handlers ∨ r' = r := by
  induction places generalizing handlers with
  | nil => exact .inl hr'
  | cons i rest ih =>
    rcases ih hr' with h | h
    · exact mem_kept_offer h
    · exact .inr h

/-! ## What is handed over -/

section

variable {handlers : List Handler} {h : Nat}

theorem relay_offer (hrelay : handlers[h]? = some .relay) (r : Record) (i : Nat) :
    (offer handlers r i).1[h]? = some .relay := by
  rw [offer]
  split
  · exact hrelay
  · next k hk =>
    split
    · next k' out hhandle =>
      by_cases hih : i = h
      · subst hih
        obtain rfl := Option.some.inj (hrelay.symm.trans hk)
        obtain ⟨rfl, -⟩ := Prod.mk.inj (Except.ok.inj hhandle)
        rw [List.getElem?_set_self', hrelay]
        rfl
      · rw [List.getElem?_set_ne hih]
        exact hrelay
    · exact hrelay

theorem relay_offerAll (hrelay : handlers[h]? = some .relay) (r : Record) (places : List Nat) :
    (offerAll handlers r places).1[h]? = some .relay := by
  induction places generalizing handlers with
  | nil => exact hrelay
  | cons i rest ih => exact ih (relay_offer hrelay r i)

theorem eq_of_mem_handle {k k' : Handler} {r : Record} {out : List Emission}
    (hhandle : k.handle r = .ok (k', out)) : ∀ r' ∈ out.filterMap Emission.record?, r' = r := by
  cases Handler.handled_of_handle hhandle with
  | relayed => exact fun _ hmem => List.mem_singleton.1 hmem
  | written sink =>
    cases sink <;> exact fun _ hmem => absurd hmem List.not_mem_nil
  | _ => exact fun _ hmem => absurd hmem List.not_mem_nil

theorem eq_of_mem_offer (handlers : List Handler) (r : Record) (i : Nat) :
    ∀ r' ∈ (offer handlers r i).2.filterMap Emission.record?, r' = r := by
  rw [offer]
  split
  · exact fun _ hmem => absurd hmem List.not_mem_nil
  · split
    · next hhandle => exact eq_of_mem_handle hhandle
    · exact fun _ hmem => absurd hmem List.not_mem_nil

theorem eq_of_mem_offerAll (handlers : List Handler) (r : Record) (places : List Nat) :
    ∀ r' ∈ (offerAll handlers r places).2.filterMap Emission.record?, r' = r := by
  induction places generalizing handlers with
  | nil => exact fun _ hmem => absurd hmem List.not_mem_nil
  | cons i rest ih =>
    intro r' hr'
    rw [offerAll, List.filterMap_append] at hr'
    rcases List.mem_append.1 hr' with hr' | hr'
    · exact eq_of_mem_offer handlers r i r' hr'
    · exact ih _ r' hr'

theorem mem_offerAll (hrelay : handlers[h]? = some .relay) (r : Record) {places : List Nat}
    (hmem : h ∈ places) : r ∈ (offerAll handlers r places).2.filterMap Emission.record? := by
  induction places generalizing handlers with
  | nil => exact absurd hmem List.not_mem_nil
  | cons i rest ih =>
    rw [offerAll, List.filterMap_append]
    rcases List.mem_cons.1 hmem with rfl | hmem
    · refine List.mem_append_left _ ?_
      simp only [offer, hrelay]
      exact List.mem_singleton_self r
    · exact List.mem_append_right _ (ih (relay_offer hrelay r i) hmem)

end

section

variable {g g' : Registry} {i j : Nat} {level level' : Level} {l : Logger} {message : String}
  {arguments : Fields} {context : Context} {now : Timestamp} {out : List Emission}

/-- What logging can do: nothing, or offer a record to the handlers of the
logger. -/
theorem log_eq_ok (h : g.log j level message arguments context now = .ok (g', out)) :
    (g' = g ∧ out = []) ∨
      ∃ k r, g.loggers[j]? = some k ∧ k.isEnabled level = true ∧
        k.record level message arguments context now = .ok r ∧
        g' = { g with handlers := (offerAll g.handlers r k.handlers).1 } ∧
        out = (offerAll g.handlers r k.handlers).2 := by
  cases hchecked : Logger.checkArguments level arguments with
  | error f =>
    rw [log, hchecked] at h
    cases h
  | ok u =>
    cases hlogger : g.loggers[j]? with
    | none =>
      simp only [log, hchecked, hlogger] at h
      obtain ⟨rfl, rfl⟩ := Prod.mk.inj (Except.ok.inj h)
      exact .inl ⟨rfl, rfl⟩
    | some k =>
      cases henabled : k.isEnabled level with
      | false =>
        simp only [log, hchecked, hlogger, henabled, Bool.false_eq_true, if_false] at h
        obtain ⟨rfl, rfl⟩ := Prod.mk.inj (Except.ok.inj h)
        exact .inl ⟨rfl, rfl⟩
      | true =>
        cases hrecord : k.record level message arguments context now with
        | error f =>
          simp only [log, hchecked, hlogger, henabled, hrecord, if_true] at h
          cases h
        | ok r =>
          simp only [log, hchecked, hlogger, henabled, hrecord, if_true] at h
          obtain ⟨rfl, rfl⟩ := Prod.mk.inj (Except.ok.inj h)
          exact .inr ⟨k, r, rfl, henabled, hrecord, rfl, rfl⟩

/-- Logging leaves a captured logger captured. -/
theorem Captures.log (hcaptured : g.Captures i level l)
    (h : g.log j level' message arguments context now = .ok (g', out)) :
    g'.Captures i level l := by
  rcases log_eq_ok h with ⟨rfl, -⟩ | ⟨k, r, -, -, -, rfl, -⟩
  · exact hcaptured
  · obtain ⟨place, hmem, hrelay⟩ := hcaptured.relay
    exact ⟨hcaptured.logger, hcaptured.enabled, hcaptured.masker, place, hmem,
      relay_offerAll hrelay r k.handlers⟩

end

end Registry

end QueryTelemetry.Log
