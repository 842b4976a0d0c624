import QueryTelemetry.Proofs.Log.Acceptance

/-!
# What a buffer holds

Calls are made through one logger while handlers are attached to it, taken from it, cleared
and closed.  A buffer should hold the latest of the records of those calls that were made
while it was attached, since it was last emptied (`Account`).  It does so, whatever the other
handlers are and whichever of them fail, unless the logger was made with the buffer mentioned
several times: then every mention keeps the record once more, and taking the handler from the
logger takes away one mention only (`Tally`).  `Registry.buffer_after_operations` says both.
-/

namespace QueryTelemetry.Log

/-- A call through a logger. -/
structure Call where
  level : Level
  message : String
  arguments : Fields
  context : Context
  now : Timestamp

/-- What can be done with a logger and with the handlers. -/
inductive Operation where
  | log (c : Call)
  | attach (h : Nat)
  | detach (h : Nat)
  | clear (h : Nat)
  | close (h : Nat)

/-- The record of a call that is neither refused nor of a level that is not logged. -/
def Logger.recordOf (l : Logger) (c : Call) : Option Record :=
  if l.isEnabled c.level then
    match checkArguments c.level c.arguments with
    | .ok () => (l.record c.level c.message c.arguments c.context c.now).toOption
    | .error _ => none
  else none

/-- The loggers and handlers after an operation on the logger of a place.  A call that is
refused changes nothing. -/
def Registry.perform (g : Registry) (i : Nat) : Operation → Registry
  | .log c =>
    match g.log i c.level c.message c.arguments c.context c.now with
    | .ok (g', _) => g'
    | .error _ => g
  | .attach h => g.updateLogger i (·.addHandler h)
  | .detach h => g.updateLogger i (·.removeHandler h)
  | .clear h => g.updateHandler h Handler.clear
  | .close h => g.updateHandler h Handler.close

/-- The loggers and handlers after some operations in turn. -/
def Registry.performAll (g : Registry) (i : Nat) (ops : List Operation) : Registry :=
  ops.foldl (·.perform i ·) g

/-! ## What should be held -/

/-- Whether a handler is attached, and the records since it was last emptied of the calls that
were made while it was. -/
structure Account where
  attached : Bool
  records : List Record

namespace Account

/-- The account of the handler of a place after an operation. -/
def next (l : Logger) (b : Nat) (a : Account) : Operation → Account
  | .log c => if a.attached then { a with records := a.records ++ (l.recordOf c).toList } else a
  | .attach h => if h = b then { a with attached := true } else a
  | .detach h => if h = b then { a with attached := false } else a
  | .clear h | .close h => if h = b then { a with records := [] } else a

/-- The account of the handler of a place after some operations on a logger. -/
def ofOperations (l : Logger) (b : Nat) (ops : List Operation) : Account :=
  ops.foldl (next l b) { attached := l.handlers.contains b, records := [] }

end Account

/-! ## What is held -/

/-- How often a logger mentions a handler, and the records since it was last emptied, once for
every mention at the time of the call. -/
structure Tally where
  mentions : Nat
  records : List Record

namespace Tally

/-- The tally of the handler of a place after an operation. -/
def next (l : Logger) (b : Nat) (t : Tally) : Operation → Tally
  | .log c =>
    { t with records := t.records ++ (l.recordOf c).toList.flatMap (List.replicate t.mentions) }
  | .attach h => { t with mentions := if h = b then max 1 t.mentions else t.mentions }
  | .detach h => { t with mentions := if h = b then t.mentions - 1 else t.mentions }
  | .clear h | .close h => if h = b then { t with records := [] } else t

/-- The tally of the handler of a place after some operations on a logger. -/
def ofOperations (l : Logger) (b : Nat) (ops : List Operation) : Tally :=
  ops.foldl (next l b) { mentions := l.handlers.count b, records := [] }

end Tally

/-! ## One operation -/

namespace Logger

theorem recordOf_eq_some_iff {l : Logger} {c : Call} {r : Record} : l.recordOf c = some r ↔
    l.isEnabled c.level = true ∧ checkArguments c.level c.arguments = .ok () ∧
      l.record c.level c.message c.arguments c.context c.now = .ok r := by
  unfold recordOf
  cases l.isEnabled c.level <;> cases checkArguments c.level c.arguments <;>
    cases l.record c.level c.message c.arguments c.context c.now <;> simp [Except.toOption]

theorem addHandler_eq (l : Logger) (h : Nat) :
    l.addHandler h = { l with handlers := (l.addHandler h).handlers } := by
  rw [addHandler]
  split <;> rfl

theorem count_addHandler (l : Logger) (h b : Nat) : (l.addHandler h).handlers.count b =
    if h = b then max 1 (l.handlers.count b) else l.handlers.count b := by
  rw [addHandler]
  by_cases hb : h = b
  · subst hb
    by_cases hmem : h ∈ l.handlers
    · have hpos : 0 < l.handlers.count h := List.count_pos_iff.2 hmem
      rw [if_pos (List.contains_iff_mem.2 hmem), if_pos rfl]
      omega
    · have hzero : l.handlers.count h = 0 := List.count_eq_zero.2 hmem
      rw [if_neg (mt List.contains_iff_mem.1 hmem), if_pos rfl, List.count_append, hzero]
      simp
  · rw [if_neg hb]
    split
    · rfl
    · rw [List.count_append, List.count_singleton, beq_eq_false_iff_ne.2 hb]
      rfl

theorem count_removeHandler (l : Logger) (h b : Nat) : (l.removeHandler h).handlers.count b =
    if h = b then l.handlers.count b - 1 else l.handlers.count b := by
  rw [removeHandler, List.count_erase]
  simp only [beq_iff_eq]
  split <;> rfl

end Logger

namespace Handler

theorem latest_nil {α : Type} (n : Nat) : latest n ([] : List α) = [] := List.drop_nil

theorem iterate_after_buffer (r : Record) (n : Nat) (records : List Record) (k : Nat) :
    (after r)^[k] (buffer n (latest n records)) =
      buffer n (latest n (records ++ List.replicate k r)) := by
  induction k generalizing records with
  | zero => simp
  | succ k ih =>
    rw [Function.iterate_succ_apply, after_buffer, latest_latest_append, ih,
      List.append_assoc, List.replicate_succ]
    rfl

end Handler

namespace Registry

variable {g : Registry} {i b n : Nat} {l : Logger}

/-- A call offers its record to the handlers of the logger, if it makes one. -/
theorem perform_log {hs : List Nat} (hlogger : g.loggers[i]? = some { l with handlers := hs })
    (c : Call) : g.perform i (.log c) =
      match l.recordOf c with
      | some r => { g with handlers := (offerAll g.handlers r hs).1 }
      | none => g := by
  cases hrecord : l.recordOf c with
  | some r =>
    obtain ⟨henabled, hchecked, hr⟩ := Logger.recordOf_eq_some_iff.1 hrecord
    rw [perform, log_of_record hchecked hlogger henabled hr]
  | none =>
    cases hlog : g.log i c.level c.message c.arguments c.context c.now with
    | error f => rw [perform, hlog]
    | ok result =>
      obtain ⟨g', out⟩ := result
      rw [perform, hlog]
      rcases log_eq_ok hlog with ⟨rfl, -⟩ | ⟨k, r, hk, henabled, hr, -⟩
      · rfl
      · -- a call that offers a record makes one
        obtain rfl := Option.some.inj (hlogger.symm.trans hk)
        obtain ⟨⟨⟩, hchecked, -⟩ := exists_of_bind_eq_ok hlog
        cases hrecord.symm.trans (Logger.recordOf_eq_some_iff.2 ⟨henabled, hchecked, hr⟩)

/-- The logger mentions the buffer as often as the tally says, and the buffer holds the latest
of the records of the tally. -/
structure Tallied (g : Registry) (i b n : Nat) (l : Logger) (t : Tally) : Prop where
  logger : ∃ hs, g.loggers[i]? = some { l with handlers := hs } ∧ hs.count b = t.mentions
  buffer : g.handlers[b]? = some (.buffer n (Handler.latest n t.records))

variable {t : Tally}

theorem Tallied.log (h : g.Tallied i b n l t) (c : Call) :
    (g.perform i (.log c)).Tallied i b n l (t.next l b (.log c)) := by
  obtain ⟨hs, hlogger, hcount⟩ := h.logger
  rw [perform_log hlogger, Tally.next]
  cases l.recordOf c with
  | none =>
    simp only [Option.toList_none, List.flatMap_nil, List.append_nil]
    exact h
  | some r =>
    refine ⟨⟨hs, hlogger, hcount⟩, ?_⟩
    show (offerAll g.handlers r hs).1[b]? = _
    rw [getElem?_offerAll, h.buffer, hcount, Option.map_some, Handler.iterate_after_buffer]
    simp

/-- A change of the handlers of the logger that tells how often it mentions the buffer. -/
theorem Tallied.updateLogger (h : g.Tallied i b n l t) {f : Logger → Logger}
    (change : Nat → Nat) (hf : ∀ k : Logger, f k = { k with handlers := (f k).handlers })
    (hcount : ∀ k : Logger, (f k).handlers.count b = change (k.handlers.count b)) :
    (g.updateLogger i f).Tallied i b n l { t with mentions := change t.mentions } := by
  obtain ⟨hs, hlogger, hmentions⟩ := h.logger
  refine ⟨⟨(f { l with handlers := hs }).handlers, ?_, ?_⟩, h.buffer⟩
  · rw [Registry.updateLogger, List.getElem?_modify_eq, hlogger]
    exact congrArg some (hf { l with handlers := hs })
  · rw [hcount, hmentions]

/-- A change of a handler that empties buffers. -/
theorem Tallied.updateHandler (h : g.Tallied i b n l t) {f : Handler → Handler}
    (hf : ∀ rs, f (.buffer n rs) = .buffer n []) (k : Nat) :
    (g.updateHandler k f).Tallied i b n l (if k = b then { t with records := [] } else t) := by
  split
  · next hk =>
    refine ⟨h.logger, ?_⟩
    rw [Registry.updateHandler, hk, List.getElem?_modify_eq, h.buffer, Handler.latest_nil]
    exact congrArg some (hf _)
  · next hk =>
    refine ⟨h.logger, ?_⟩
    rw [Registry.updateHandler, List.getElem?_modify_ne _ _ hk]
    exact h.buffer

theorem Tallied.perform (h : g.Tallied i b n l t) (op : Operation) :
    (g.perform i op).Tallied i b n l (t.next l b op) := by
  cases op with
  | log c => exact h.log c
  | attach k =>
    exact h.updateLogger (fun m => if k = b then max 1 m else m) (Logger.addHandler_eq · k)
      (Logger.count_addHandler · k b)
  | detach k =>
    exact h.updateLogger (fun m => if k = b then m - 1 else m) (fun _ => rfl)
      (Logger.count_removeHandler · k b)
  | clear k => exact h.updateHandler (fun _ => rfl) k
  | close k => exact h.updateHandler (fun _ => rfl) k

/-! ## Any number of operations -/

theorem Tallied.performAll (h : g.Tallied i b n l t) (ops : List Operation) :
    (g.performAll i ops).Tallied i b n l (ops.foldl (Tally.next l b) t) := by
  induction ops generalizing g t with
  | nil => exact h
  | cons op ops ih => exact ih (h.perform op)

/-- After any operations a buffer that was empty holds the latest records of its tally. -/
theorem tallied_performAll (hlogger : g.loggers[i]? = some l)
    (hbuffer : g.handlers[b]? = some (.buffer n [])) (ops : List Operation) :
    (g.performAll i ops).Tallied i b n l (.ofOperations l b ops) := by
  refine Tallied.performAll ⟨⟨l.handlers, hlogger, rfl⟩, ?_⟩ ops
  rw [hbuffer, Handler.latest_nil]

end Registry

/-! ## What should be held is held -/

section

variable {l : Logger} {b : Nat} {t : Tally} {a : Account}

/-- A handler is mentioned once while it is attached, and not at all while it is not. -/
structure Tally.Agrees (t : Tally) (a : Account) : Prop where
  mentions : t.mentions = if a.attached then 1 else 0
  records : t.records = a.records

theorem Tally.Agrees.next (h : t.Agrees a) (op : Operation) :
    (t.next l b op).Agrees (a.next l b op) := by
  obtain ⟨hmentions, hrecords⟩ := h
  cases op with
  | log c =>
    cases hattached : a.attached with
    | true =>
      rw [hattached, if_pos rfl] at hmentions
      simp only [Tally.next, Account.next, hattached, hmentions, hrecords, if_true]
      refine ⟨?_, ?_⟩
      · simp
      · cases l.recordOf c <;> rfl
    | false =>
      rw [hattached, if_neg Bool.false_ne_true] at hmentions
      refine ⟨?_, ?_⟩ <;> simp [Tally.next, Account.next, hattached, hmentions, hrecords]
  | attach h | detach h =>
    simp only [Tally.next, Account.next]
    split
    · refine ⟨?_, hrecords⟩
      rw [hmentions]
      split <;> rfl
    · exact ⟨hmentions, hrecords⟩
  | clear h | close h =>
    simp only [Tally.next, Account.next]
    split
    · exact ⟨hmentions, rfl⟩
    · exact ⟨hmentions, hrecords⟩

theorem Tally.agrees_ofOperations (hcount : l.handlers.count b ≤ 1) (ops : List Operation) :
    (Tally.ofOperations l b ops).Agrees (.ofOperations l b ops) := by
  refine List.foldl_rel (r := Tally.Agrees) ⟨?_, rfl⟩ fun op _ t a h => h.next op
  split
  · next hmem =>
    have hpos : 0 < l.handlers.count b := List.count_pos_iff.2 (List.contains_iff_mem.1 hmem)
    exact Nat.le_antisymm hcount hpos
  · next hmem => exact List.count_eq_zero.2 (mt List.contains_iff_mem.2 hmem)

/-- Nothing is to be held, and nothing is held, of calls that make no records. -/
theorem Tally.records_eq_of_recordOf (hnone : ∀ c, l.recordOf c = none) (ops : List Operation) :
    (Tally.ofOperations l b ops).records = (Account.ofOperations l b ops).records := by
  refine List.foldl_rel (r := fun (t : Tally) (a : Account) => t.records = a.records) rfl
    fun op _ t a h => ?_
  cases op with
  | log c =>
    simp only [Tally.next, Account.next, hnone, Option.toList_none, List.flatMap_nil,
      List.append_nil, ite_self]
    exact h
  | attach | detach =>
    simp only [Tally.next, Account.next]
    split <;> exact h
  | clear | close =>
    simp only [Tally.next, Account.next]
    split
    · rfl
    · exact h

/-- A handler that is mentioned twice stays attached when it is taken from the logger once. -/
theorem Tally.records_detached {c : Call} {r : Record} (hrecord : l.recordOf c = some r) :
    (Tally.ofOperations l b [.detach b, .log c]).records =
        List.replicate (l.handlers.count b - 1) r ∧
      (Account.ofOperations l b [.detach b, .log c]).records = [] := by
  simp [Tally.ofOperations, Account.ofOperations, Tally.next, Account.next, hrecord]

end

namespace Registry

variable {g : Registry} {i b n : Nat} {l : Logger}

/-- After any operations on a logger, a buffer that was empty holds the latest records of its
tally.  These are the records that it should hold, whatever is done, exactly if it has no room
for any, or the logger does not mention it several times in the beginning, or the logger
makes no records at all. -/
theorem buffer_after_operations (hlogger : g.loggers[i]? = some l)
    (hbuffer : g.handlers[b]? = some (.buffer n [])) :
    (∀ ops, (g.performAll i ops).handlers[b]? =
      some (.buffer n (Handler.latest n (Tally.ofOperations l b ops).records))) ∧
    ((∀ ops, (g.performAll i ops).handlers[b]? =
        some (.buffer n (Handler.latest n (Account.ofOperations l b ops).records))) ↔
      n = 0 ∨ l.handlers.count b ≤ 1 ∨ ∀ c, l.recordOf c = none) := by
  have hheld := fun ops => (tallied_performAll hlogger hbuffer ops).buffer
  refine ⟨hheld, fun hall => ?_, fun hcases ops => ?_⟩
  · by_contra! hneither
    obtain ⟨hn, hcount, c, hc⟩ := hneither
    obtain ⟨r, hr⟩ := Option.ne_none_iff_exists'.1 hc
    -- The buffer is taken from the logger once, and still keeps the record of the call.
    obtain ⟨hkept, hdue⟩ := Tally.records_detached (b := b) hr
    have hsame := (hheld [.detach b, .log c]).symm.trans (hall [.detach b, .log c])
    rw [hkept, hdue] at hsame
    have hlength := congrArg List.length (Handler.buffer.inj (Option.some.inj hsame)).2
    rw [Handler.length_latest, Handler.length_latest, List.length_replicate] at hlength
    simp only [List.length_nil] at hlength
    omega
  · rw [hheld ops]
    rcases hcases with rfl | hcount | hnone
    · simp [Handler.latest]
    · rw [(Tally.agrees_ofOperations hcount ops).records]
    · rw [Tally.records_eq_of_recordOf hnone ops]

/-- A handler that fails, a buffer for two records, and a logger with some of them. -/
def paired (places : List Nat) : Registry :=
  { handlers := [.failing, .buffer 2 []]
    loggers := [{ name := "t", level := .info, handlers := places, masker := .make false [] [] }]
    named := [], level := .debug, defaults := [] }

/-- A call that says a message. -/
def saying (level : Level) (message : String) : Call :=
  { level, message, arguments := [], context := .empty, now := ⟨2024, 1, 15, 10, 30, 45, 0⟩ }

/-- The record of such a call. -/
def said (level : Level) (message : String) : Record :=
  { level, message, logger := "t", timestamp := ⟨2024, 1, 15, 10, 30, 45, 0⟩, context := .empty
    extra := [], exc := none }

/-- The calls of a level that is not logged and those without the buffer leave nothing in it,
and attaching it again makes no difference. -/
theorem buffer_after_detour :
    ((paired [0, 1]).performAll 0 [.log (saying .info "a"), .detach 1, .log (saying .info "b"),
        .attach 1, .attach 1, .log (saying .debug "c"), .log (saying .error "d"),
        .log (saying .info "e")]).handlers[1]? =
      some (.buffer 2 [said .error "d", said .info "e"]) :=
  (buffer_after_operations (g := paired [0, 1]) (i := 0) (b := 1) rfl rfl).2.2
    (.inr (.inl (by decide))) _

/-- A buffer that the logger was made with twice keeps a record twice. -/
theorem buffer_keeps_record_twice :
    ∃ l, (paired [1, 1]).loggers[0]? = some l ∧
      ((paired [1, 1]).performAll 0 [.log (saying .info "hello")]).handlers[1]? =
        some (.buffer 2 [said .info "hello", said .info "hello"]) ∧
      Handler.latest 2 (Account.ofOperations l 1 [.log (saying .info "hello")]).records =
        [said .info "hello"] :=
  ⟨_, rfl, rfl, rfl⟩

end Registry

end QueryTelemetry.Log
