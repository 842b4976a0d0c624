import QueryTelemetry.Proofs.Log.Offers
import QueryTelemetry.Proofs.Log.Secrets

/-!
# What the log shows of secrets

The default masker keeps the secrets among its arguments out of the record of a
call, so calls that differ only there have the same record
(`Registry.log_congr_arguments`).  The fields of the open scopes are in the record
as they are.  A handler that masks on its own shows nothing of them, but a stream
of text lines with fields shows them (`Handler.reveals`).

So two calls that differ only in secrets always look the same exactly if none of
the handlers is such a stream (`Registry.log_shows_secrets_iff`).
-/

namespace QueryTelemetry.Log

/-! ## Calls with other secrets -/

namespace Logger

variable {l : Logger} {level : Level} {arguments arguments' : Fields}

theorem checkArguments_veiled (level : Level) (arguments : Fields) :
    checkArguments level arguments.veiled = checkArguments level arguments := by
  rw [checkArguments, checkArguments, Fields.veiled, List.find?_map, Assoc.has, List.any_map]
  simp only [Function.comp_def]
  cases arguments.find? fun e => e.1 == "self" || e.1 == "message" <;> rfl

theorem checkArguments_congr (h : arguments.veiled = arguments'.veiled) :
    checkArguments level arguments = checkArguments level arguments' := by
  rw [← checkArguments_veiled, h, checkArguments_veiled]

/-- Calls that differ only in secrets among their arguments have the same
record. -/
theorem record_congr (hmasker : l.masker.Guards) (h : arguments.veiled = arguments'.veiled)
    (hfault : faultOf arguments = faultOf arguments') (message : String) (context : Context)
    (now : Timestamp) :
    l.record level message arguments context now = l.record level message arguments' context now := by
  have hextra : l.masker.maskFields (Assoc.remove arguments faultArgument) =
      l.masker.maskFields (Assoc.remove arguments' faultArgument) := by
    refine Masker.maskFields_congr hmasker ?_
    rw [Fields.veiled_remove, Fields.veiled_remove, h]
  rw [record, record, hextra, hfault]

end Logger

/-! ## Handlers and records that differ in secrets of their context -/

namespace Handler

/-- What a handler masks, it masks with a masker that guards the secrets. -/
def Guards : Handler → Prop
  | stream _ (.json masker _) .. => masker.Guards
  | host _ masker => masker.Guards
  | _ => True

/-- Whether a handler writes the fields of records of a level as they are. -/
def reveals (level : Level) : Handler → Bool
  | stream .failing .. => false
  | stream _ (.text withFields) least closed => withFields && !closed && least.passes level
  | _ => false

end Handler

/-- What can be seen of handlers and of what left through them: everything but
the records in buffers and those that are handed over. -/
def seen (handlers : List Handler) (out : List Emission) : List Handler × List Emission :=
  (handlers.map Handler.clear, out.filter (·.record?.isNone))

section

variable {r r' : Record}

theorem textLine_congr (h : r.Alike r') :
    Format.textLine false r = Format.textLine false r' := by
  rw [Format.textLine, Format.textLine, Format.excPart, Format.excPart, h.timestamp, h.level,
    h.logger, h.message, h.exc]
  rfl

theorem jsonLine_congr {masker : Masker} (hmasker : masker.Guards) (h : r.Alike r')
    (indent : Option Nat) : Format.jsonLine masker indent r = Format.jsonLine masker indent r' := by
  have hfields := h.toFields
  rw [Format.jsonLine, Format.jsonLine]
  cases hr : r.toFields with
  | error f =>
    cases hr' : r'.toFields with
    | error f' =>
      rw [hr, hr'] at hfields
      obtain rfl := Except.error.inj hfields
      rfl
    | ok fields' =>
      rw [hr, hr'] at hfields
      cases hfields
  | ok fields =>
    cases hr' : r'.toFields with
    | error f' =>
      rw [hr, hr'] at hfields
      cases hfields
    | ok fields' =>
      rw [hr, hr'] at hfields
      simp only [bind, Except.bind, Masker.maskFields_congr hmasker (Except.ok.inj hfields)]

theorem toHost_congr {masker : Masker} (hmasker : masker.Guards) (h : r.Alike r')
    (logger : Option String) : Handler.toHost logger masker r = Handler.toHost logger masker r' := by
  rw [Handler.toHost, Handler.toHost, Masker.maskFields_congr hmasker h.fields, h.logger, h.level,
    h.message, h.exc]

namespace Handler

variable {k k' : Handler}

/-- Handlers that look the same are the same, but for the records in buffers. -/
theorem clear_eq_clear (h : k.clear = k'.clear) :
    k = k' ∨ ∃ capacity records records', k = buffer capacity records ∧ k' = buffer capacity records' := by
  cases k with
  | buffer capacity records =>
    cases k' with
    | buffer capacity' records' =>
      obtain ⟨rfl, -⟩ := Handler.buffer.inj h
      exact .inr ⟨capacity, records, records', rfl, rfl⟩
    | _ => cases h
  | _ =>
    cases k' with
    | buffer => cases h
    | _ => exact .inl h

/-- A stream that fails loses every line. -/
theorem handle_failing_stream (format : Format) (least : Level) (closed : Bool) (r : Record) :
    (stream .failing format least closed).handle r = .ok (stream .failing format least closed, []) := by
  simp only [handle]
  split
  · rfl
  · split <;> rfl

/-- An open stream that does not fail and does not reveal secrets writes the same
line for records that differ only in secrets of their context. -/
theorem render_congr {sink : Sink} {format : Format} {least : Level}
    (hsink : sink ≠ .failing) (hguards : (stream sink format least false).Guards)
    (hreveals : (stream sink format least false).reveals r.level = false)
    (hpasses : least.passes r.level = true) (h : r.Alike r') : format.render r = format.render r' := by
  cases format with
  | text withFields =>
    have hplain : withFields = false := by
      cases sink with
      | failing => exact absurd rfl hsink
      | _ => simpa [reveals, hpasses] using hreveals
    subst hplain
    exact textLine_congr h
  | json masker indent => exact jsonLine_congr hguards h indent

/-- A handler that does not reveal secrets shows the same of records that differ
only in secrets of their context. -/
theorem handle_congr (hclear : k.clear = k'.clear) (hguards : k.Guards)
    (hreveals : k.reveals r.level = false) (h : r.Alike r') :
    (k.handle r).map (fun done => seen [done.1] done.2) =
      (k'.handle r').map fun done => seen [done.1] done.2 := by
  rcases clear_eq_clear hclear with rfl | ⟨capacity, records, records', rfl, rfl⟩
  · cases k with
    | buffer capacity records => rfl
    | stream sink format least closed =>
      by_cases hsink : sink = .failing
      · subst hsink
        rw [handle_failing_stream, handle_failing_stream]
      · simp only [handle, ← h.level]
        split
        · rfl
        · next hopen =>
          obtain ⟨rfl, hpasses⟩ : closed = false ∧ least.passes r.level = true := by
            simpa using hopen
          rw [render_congr hsink hguards hreveals hpasses h]
    | host logger masker => rw [handle, handle, toHost_congr hguards h]
    | relay => rfl
    | failing => rfl
  · rfl

/-- A handler that reveals secrets is an open stream of text lines with fields that
does not fail. -/
theorem exists_of_reveals {level : Level} (h : k.reveals level = true) :
    ∃ sink least, sink ≠ .failing ∧ k = stream sink (.text true) least false ∧
      least.passes level = true := by
  cases k with
  | stream sink format least closed =>
    have hsink : sink ≠ .failing := by
      rintro rfl
      cases h
    cases format with
    | json masker indent => cases sink <;> cases h
    | text withFields =>
      obtain ⟨⟨rfl, rfl⟩, hpasses⟩ : (withFields = true ∧ closed = false) ∧
          least.passes level = true := by
        cases sink <;> simp_all [reveals]
      exact ⟨sink, least, hsink, rfl, hpasses⟩
  | _ => cases h

/-- A handler without what it has kept or written. -/
def outline : Handler → Handler
  | buffer capacity _ => buffer capacity []
  | stream (.memory _) format least closed => stream (.memory "") format least closed
  | h => h

theorem guards_iff_outline (k : Handler) : k.Guards ↔ k.outline.Guards := by
  cases k with
  | stream sink format => cases sink <;> cases format <;> exact Iff.rfl
  | _ => exact Iff.rfl

theorem reveals_eq_outline (level : Level) (k : Handler) :
    k.reveals level = k.outline.reveals level := by
  cases k with
  | stream sink format => cases sink <;> cases format <;> rfl
  | _ => rfl

theorem outline_handle {out : List Emission} (h : k.handle r = .ok (k', out)) :
    k'.outline = k.outline := by
  cases handled_of_handle h with
  | written sink => cases sink <;> rfl
  | _ => rfl

end Handler

/-! ## Offering such records -/

namespace Registry

variable {handlers handlers' : List Handler} {i : Nat}

/-- Offering a record changes what handlers keep and have written, and nothing
else. -/
theorem map_outline_offer (handlers : List Handler) (r : Record) (i : Nat) :
    (offer handlers r i).1.map Handler.outline = handlers.map Handler.outline := by
  rw [offer]
  split
  · rfl
  · next k hk =>
    split
    · next k' out hhandle =>
      rw [List.map_set, Handler.outline_handle hhandle]
      have hplace : (handlers.map Handler.outline)[i]? = some k.outline := by
        rw [List.getElem?_map, hk]
        rfl
      obtain ⟨hlt, hget⟩ := List.getElem?_eq_some_iff.1 hplace
      rw [← hget, List.set_getElem_self]
    · rfl

theorem exists_of_offer {j : Nat} {k' : Handler} (h : (offer handlers r i).1[j]? = some k') :
    ∃ k, handlers[j]? = some k ∧ k.outline = k'.outline := by
  have hmap := congrArg (·[j]?) (map_outline_offer handlers r i)
  simp only [List.getElem?_map, h, Option.map_some] at hmap
  exact Option.map_eq_some_iff.1 hmap.symm

theorem exists_offer {j : Nat} {k : Handler} (h : handlers[j]? = some k) (r : Record) (i : Nat) :
    ∃ k', (offer handlers r i).1[j]? = some k' ∧ k'.outline = k.outline := by
  have hmap := congrArg (·[j]?) (map_outline_offer handlers r i)
  simp only [List.getElem?_map, h, Option.map_some] at hmap
  exact Option.map_eq_some_iff.1 hmap

/-- Offering records that differ only in secrets of their context to a handler
that does not reveal them looks the same. -/
theorem seen_offer (hclear : handlers.map Handler.clear = handlers'.map Handler.clear)
    (h : r.Alike r') (hconceals : ∀ k, handlers[i]? = some k →
      k.Guards ∧ k.reveals r.level = false) :
    seen (offer handlers r i).1 (offer handlers r i).2 =
      seen (offer handlers' r' i).1 (offer handlers' r' i).2 := by
  have hplace := congrArg (·[i]?) hclear
  simp only [List.getElem?_map] at hplace
  cases hk : handlers[i]? with
  | none =>
    rw [hk] at hplace
    have hk' : handlers'[i]? = none := Option.map_eq_none_iff.1 hplace.symm
    simp only [offer, hk, hk', seen, hclear]
  | some k =>
    rw [hk] at hplace
    obtain ⟨k', hk', hlook⟩ := Option.map_eq_some_iff.1 hplace.symm
    obtain ⟨hguards, hreveals⟩ := hconceals k hk
    have hhandle := Handler.handle_congr hlook.symm hguards hreveals h
    cases hdone : k.handle r with
    | error f =>
      cases hdone' : k'.handle r' with
      | error f' => simp only [offer, hk, hk', hdone, hdone', seen, hclear]
      | ok done' =>
        rw [hdone, hdone'] at hhandle
        cases hhandle
    | ok done =>
      cases hdone' : k'.handle r' with
      | error f' =>
        rw [hdone, hdone'] at hhandle
        cases hhandle
      | ok done' =>
        rw [hdone, hdone'] at hhandle
        obtain ⟨hkept, hout⟩ := Prod.mk.inj (Except.ok.inj hhandle)
        obtain ⟨hkept, -⟩ := List.cons.inj hkept
        simp only [offer, hk, hk', hdone, hdone', seen, List.map_set, hclear, hkept]
        exact congrArg _ hout

/-- If none of the handlers reveals secrets, offering records that differ only in
secrets of their context looks the same. -/
theorem seen_offerAll {places : List Nat}
    (hclear : handlers.map Handler.clear = handlers'.map Handler.clear) (h : r.Alike r')
    (hconceals : ∀ i ∈ places, ∀ k, handlers[i]? = some k → k.Guards ∧ k.reveals r.level = false) :
    seen (offerAll handlers r places).1 (offerAll handlers r places).2 =
      seen (offerAll handlers' r' places).1 (offerAll handlers' r' places).2 := by
  induction places generalizing handlers handlers' with
  | nil => rw [offerAll, offerAll, seen, seen, hclear]
  | cons i rest ih =>
    obtain ⟨hfirst, hout⟩ := Prod.mk.inj
      (seen_offer hclear h (hconceals i (List.mem_cons_self ..)))
    have hrest := ih hfirst fun j hj k hk => by
      obtain ⟨k₀, hk₀, houtline⟩ := exists_of_offer hk
      obtain ⟨hguards, hreveals⟩ := hconceals j (List.mem_cons_of_mem _ hj) k₀ hk₀
      rw [Handler.guards_iff_outline, houtline, ← Handler.guards_iff_outline] at hguards
      rw [Handler.reveals_eq_outline, houtline, ← Handler.reveals_eq_outline] at hreveals
      exact ⟨hguards, hreveals⟩
    obtain ⟨hdone, hmore⟩ := Prod.mk.inj hrest
    simp only [offerAll, seen, List.filter_append, hdone, hout, hmore]

/-! ## Lines that show a secret -/

theorem append_left_inj_of_length {a b c d : String} (h : a ++ c = b ++ d)
    (hlength : a.length = b.length) : a = b := by
  have hlist : a.toList ++ c.toList = b.toList ++ d.toList := by
    rw [← String.toList_append, ← String.toList_append, h]
  refine String.toList_inj.1 (List.append_inj_left hlist ?_)
  rw [String.length_toList, String.length_toList, hlength]

theorem getElem?_set_of_getElem? {k : Handler} (h : handlers[i]? = some k) (k' : Handler) :
    (handlers.set i k')[i]? = some k' := by
  rw [List.getElem?_set_self', h]
  rfl

/-- A stream in memory only grows. -/
theorem exists_memory_offer {t : String} {format : Format} {least : Level} {closed : Bool}
    {j : Nat} (h : handlers[j]? = some (.stream (.memory t) format least closed)) (r : Record)
    (i : Nat) : ∃ more, (offer handlers r i).1[j]? =
      some (.stream (.memory (t ++ more)) format least closed) := by
  have hsame : ∃ more, handlers[j]? = some (.stream (.memory (t ++ more)) format least closed) :=
    ⟨"", by rw [h, String.append_empty]⟩
  rw [offer]
  split
  · exact hsame
  · next k hk =>
    split
    · next k' out hhandle =>
      by_cases hij : i = j
      · subst hij
        obtain rfl := Option.some.inj (h.symm.trans hk)
        rw [getElem?_set_of_getElem? h]
        cases Handler.handled_of_handle hhandle with
        | passedOver => exact ⟨"", by rw [String.append_empty]⟩
        | written => exact ⟨_, rfl⟩
      · rw [List.getElem?_set_ne hij]
        exact hsame
    · exact hsame

theorem exists_memory_offerAll {t : String} {format : Format} {least : Level} {closed : Bool}
    {j : Nat} (h : handlers[j]? = some (.stream (.memory t) format least closed)) (r : Record)
    (places : List Nat) : ∃ more, (offerAll handlers r places).1[j]? =
      some (.stream (.memory (t ++ more)) format least closed) := by
  induction places generalizing handlers t with
  | nil => exact ⟨"", by rw [offerAll, h, String.append_empty]⟩
  | cons i rest ih =>
    obtain ⟨first, hfirst⟩ := exists_memory_offer h r i
    obtain ⟨more, hmore⟩ := ih hfirst
    exact ⟨first ++ more, by rw [offerAll, ← String.append_assoc]; exact hmore⟩

/-- A handler that reveals secrets is the same wherever the handlers look the
same. -/
theorem getElem?_of_reveals (hclear : handlers.map Handler.clear = handlers'.map Handler.clear)
    {k : Handler} {level : Level} (hk : handlers[i]? = some k) (hreveals : k.reveals level = true) :
    handlers'[i]? = some k := by
  have hmap := congrArg (·[i]?) hclear
  simp only [List.getElem?_map, hk, Option.map_some] at hmap
  obtain ⟨k', hk', hlook⟩ := Option.map_eq_some_iff.1 hmap.symm
  rcases Handler.clear_eq_clear hlook with rfl | ⟨_, _, _, -, rfl⟩
  · exact hk'
  · cases hreveals

/-- The line that a stream in memory was given can be told from what it has
written in the end, if its length is known. -/
theorem line_eq_of_memory {t line line' : String} {format : Format} {least : Level} {closed : Bool}
    {places : List Nat} (hlength : line.length = line'.length)
    (hwritten : handlers[i]? = some (.stream (.memory (t ++ line)) format least closed))
    (hwritten' : handlers'[i]? = some (.stream (.memory (t ++ line')) format least closed))
    (hdone : (offerAll handlers r places).1.map Handler.clear =
      (offerAll handlers' r' places).1.map Handler.clear) : line = line' := by
  obtain ⟨more, hmore⟩ := exists_memory_offerAll hwritten r places
  obtain ⟨more', hmore'⟩ := exists_memory_offerAll hwritten' r' places
  have htext := congrArg (·[i]?) hdone
  simp only [List.getElem?_map, hmore, hmore', Option.map_some, Option.some_inj,
    Handler.clear, Handler.stream.injEq, Sink.memory.injEq, and_true] at htext
  have hlength' : (t ++ line).length = (t ++ line').length := by
    rw [String.length_append, String.length_append, hlength]
  exact (String.append_right_inj t).1 (append_left_inj_of_length htext hlength')

section

variable {places : List Nat} {line line' : String}

/-- If the first handler reveals secrets, offering records whose lines are of one
length looks the same only if the lines are the same. -/
theorem line_eq_of_first {k : Handler} (hline : Format.textLine true r = .ok line)
    (hline' : Format.textLine true r' = .ok line') (hlength : line.length = line'.length)
    (hlevel : r.level = r'.level) (hk : handlers[i]? = some k) (hk' : handlers'[i]? = some k)
    (hreveals : k.reveals r.level = true)
    (hseen : seen (offerAll handlers r (i :: places)).1 (offerAll handlers r (i :: places)).2 =
      seen (offerAll handlers' r' (i :: places)).1 (offerAll handlers' r' (i :: places)).2) :
    line = line' := by
  obtain ⟨sink, least, hsink, rfl, hpasses⟩ := Handler.exists_of_reveals hreveals
  have hoffer : offer handlers r i =
      (handlers.set i (.stream (sink.write (line ++ "\n")).1 (.text true) least false),
        (sink.write (line ++ "\n")).2) := by
    have hrender : (Format.text true).render r = .ok line := hline
    simp only [offer, hk, Handler.handle_of_render hpasses hrender]
  have hoffer' : offer handlers' r' i =
      (handlers'.set i (.stream (sink.write (line' ++ "\n")).1 (.text true) least false),
        (sink.write (line' ++ "\n")).2) := by
    have hrender : (Format.text true).render r' = .ok line' := hline'
    simp only [offer, hk', Handler.handle_of_render (hlevel ▸ hpasses) hrender]
  simp only [offerAll, hoffer, hoffer'] at hseen
  obtain ⟨hdone, hout⟩ := Prod.mk.inj hseen
  have hbreak : line ++ "\n" = line' ++ "\n" := by
    cases sink with
    | failing => exact absurd rfl hsink
    | errorStream => exact Emission.errorStream.inj (List.cons.inj hout).1
    | memory t =>
      refine line_eq_of_memory ?_ (getElem?_set_of_getElem? hk _) (getElem?_set_of_getElem? hk' _)
        hdone
      rw [String.length_append, String.length_append, hlength]
  exact append_left_inj_of_length hbreak hlength

/-- If one of the handlers reveals secrets, offering records whose lines are of
one length looks the same only if the lines are the same. -/
theorem line_eq_of_seen_eq (hline : Format.textLine true r = .ok line)
    (hline' : Format.textLine true r' = .ok line') (hlength : line.length = line'.length)
    (h : r.Alike r') (hclear : handlers.map Handler.clear = handlers'.map Handler.clear)
    (hguards : ∀ i ∈ places, ∀ k, handlers[i]? = some k → k.Guards)
    (hreveals : ∃ i ∈ places, ∃ k, handlers[i]? = some k ∧ k.reveals r.level = true)
    (hseen : seen (offerAll handlers r places).1 (offerAll handlers r places).2 =
      seen (offerAll handlers' r' places).1 (offerAll handlers' r' places).2) :
    line = line' := by
  induction places generalizing handlers handlers' with
  | nil =>
    obtain ⟨i, hmem, -⟩ := hreveals
    exact absurd hmem List.not_mem_nil
  | cons i rest ih =>
    by_cases hfirst : ∃ k, handlers[i]? = some k ∧ k.reveals r.level = true
    · obtain ⟨k, hk, hk'⟩ := hfirst
      exact line_eq_of_first hline hline' hlength h.level hk (getElem?_of_reveals hclear hk hk') hk'
        hseen
    · -- The first handler shows nothing of the difference.
      have hconceals : ∀ k, handlers[i]? = some k → k.Guards ∧ k.reveals r.level = false := by
        intro k hk
        refine ⟨hguards i (List.mem_cons_self ..) k hk, Bool.eq_false_iff.2 fun hk' => ?_⟩
        exact hfirst ⟨k, hk, hk'⟩
      simp only [offerAll] at hseen
      obtain ⟨hdone, hout⟩ := Prod.mk.inj hseen
      obtain ⟨hclear', hfirstOut⟩ := Prod.mk.inj (seen_offer hclear h hconceals)
      rw [List.filter_append, List.filter_append, hfirstOut] at hout
      refine ih hclear' ?_ ?_ (Prod.ext hdone (List.append_cancel_left hout))
      · intro j hj k hk
        obtain ⟨k₀, hk₀, houtline⟩ := exists_of_offer hk
        have hk₀ := hguards j (List.mem_cons_of_mem _ hj) k₀ hk₀
        rwa [Handler.guards_iff_outline, houtline, ← Handler.guards_iff_outline] at hk₀
      · obtain ⟨j, hj, k, hk, hk'⟩ := hreveals
        rcases List.mem_cons.1 hj with rfl | hj
        · exact absurd ⟨k, hk, hk'⟩ hfirst
        · obtain ⟨k₁, hk₁, houtline⟩ := exists_offer hk r i
          rw [Handler.reveals_eq_outline, ← houtline, ← Handler.reveals_eq_outline] at hk'
          exact ⟨j, hj, k₁, hk₁, hk'⟩

end

end Registry

end

/-! ## Logging with other secrets -/

namespace Logger

variable {l : Logger} {level : Level} {message : String} {arguments : Fields}
  {context context' : Context} {now : Timestamp}

/-- A record can be made in every context or in none. -/
theorem record_of_context (l : Logger) (level : Level) (message : String) (arguments : Fields)
    (context context' : Context) (now : Timestamp) :
    l.record level message arguments context' now =
      (l.record level message arguments context now).map fun r => { r with context := context' } := by
  rw [record, record]
  cases l.masker.maskString message with
  | error f => rfl
  | ok shown => cases l.masker.maskFields (Assoc.remove arguments faultArgument) <;> rfl

theorem alike_record {r : Record} (h : l.record level message arguments context now = .ok r)
    (hcontext : context.veiled = context'.veiled) :
    ∃ r', l.record level message arguments context' now = .ok r' ∧ r.Alike r' := by
  refine ⟨{ r with context := context' }, ?_, rfl, rfl, rfl, rfl, ?_, rfl, rfl⟩
  · rw [record_of_context l level message arguments context context' now, h]
    rfl
  · rw [context_record h, hcontext]

end Logger

namespace Registry

variable {g : Registry} {i : Nat} {l : Logger} {level : Level}

/-- What can be seen of the registry and of what left, after a call. -/
def shown (done : Registry × List Emission) : List Handler × List Emission :=
  seen done.1.handlers done.2

/-- Calls that differ only in secrets among their arguments do the same. -/
theorem log_congr_arguments (hlogger : g.loggers[i]? = some l) (hmasker : l.masker.Guards)
    {arguments arguments' : Fields} (h : arguments.veiled = arguments'.veiled)
    (hfault : Logger.faultOf arguments = Logger.faultOf arguments') (message : String)
    (context : Context) (now : Timestamp) :
    g.log i level message arguments context now = g.log i level message arguments' context now := by
  simp only [log, Logger.checkArguments_congr h, hlogger,
    Logger.record_congr hmasker h hfault message context now]

/-- If no handler reveals secrets, calls in contexts that differ only in secrets
look the same. -/
theorem shown_log_congr (hlogger : g.loggers[i]? = some l)
    (hconceals : l.isEnabled level = true → ∀ h ∈ l.handlers, ∀ k, g.handlers[h]? = some k →
      k.Guards ∧ k.reveals level = false)
    {context context' : Context} (h : context.veiled = context'.veiled) (message : String)
    (arguments : Fields) (now : Timestamp) :
    (g.log i level message arguments context now).map shown =
      (g.log i level message arguments context' now).map shown := by
  cases hchecked : Logger.checkArguments level arguments with
  | error f => simp only [log, hchecked, bind, Except.bind]
  | ok u =>
    cases henabled : l.isEnabled level with
    | false =>
      simp only [log, hchecked, hlogger, henabled, bind, Except.bind, Bool.false_eq_true, if_false]
    | true =>
      cases hrecord : l.record level message arguments context now with
      | error f =>
        have hrecord' := Logger.record_of_context l level message arguments context context' now
        rw [hrecord] at hrecord'
        simp only [log, hchecked, hlogger, henabled, hrecord, hrecord', bind, Except.bind,
          Except.map, if_true]
      | ok r =>
        obtain ⟨r', hrecord', halike⟩ := Logger.alike_record hrecord h
        have hlevel := Logger.level_record hrecord
        simp only [log, hchecked, hlogger, henabled, hrecord, hrecord', bind, Except.bind,
          Except.map, if_true, shown]
        exact congrArg Except.ok (seen_offerAll rfl halike (hlevel ▸ hconceals henabled))

/-- The scope of a number for a password. -/
def numbered (n : Int) : Scope := .ofFields { Context.empty with extra := [("password", .int n)] }

/-- The record of an empty message in such a scope. -/
def numberedRecord (l : Logger) (level : Level) (message : String) (now : Timestamp) (n : Int) :
    Record where
  level
  message
  logger := l.name
  timestamp := now
  context := .inside [numbered n]
  extra := []
  exc := none

theorem veiled_numbered (n : Int) :
    (numbered n).fields.veiled = { Context.empty with extra := [("password", .null)] } := by
  have hsecret : Masker.standard.isSecret "password" = true := by decide
  simp only [numbered, Scope.ofFields, Context.veiled, Fields.veiled, List.map_cons, List.map_nil,
    Value.veiledAt, hsecret, if_true]

theorem alike_numbered (l : Logger) (level : Level) (message : String) (now : Timestamp)
    (m n : Int) :
    (numberedRecord l level message now m).Alike (numberedRecord l level message now n) := by
  refine ⟨rfl, rfl, rfl, rfl, ?_, rfl, rfl⟩
  change (Context.inside [numbered m]).veiled = (Context.inside [numbered n]).veiled
  rw [Context.veiled_inside, Context.veiled_inside, List.map_singleton, List.map_singleton,
    veiled_numbered, veiled_numbered]

theorem textLine_numbered (l : Logger) (level : Level) (message : String) (now : Timestamp)
    {n : Int} {text : String} (h : (Value.int n).toText = .ok text) :
    Format.textLine true (numberedRecord l level message now n) =
      .ok (now.render ++ " [" ++ level.name ++ "] " ++ l.name ++ ": " ++ message ++
        (" | " ++ ("password=" ++ text)) ++ "") := by
  have hfields : (numberedRecord l level message now n).fields = [("password", .int n)] := rfl
  have hvalues : keyValues [("password", .int n)] = .ok ("password=" ++ text) := by
    simp only [keyValues, List.mapM_cons, List.mapM_nil, h]
    rfl
  rw [Format.textLine, Format.fieldsPart, hfields, hvalues]
  rfl

/-- A stream of text lines with fields shows different passwords differently. -/
theorem shown_ne_of_reveals (hlogger : g.loggers[i]? = some l) (hmasker : l.masker = .standard)
    (hguards : ∀ h ∈ l.handlers, ∀ k, g.handlers[h]? = some k → k.Guards)
    (henabled : l.isEnabled level = true)
    (hreveals : ∃ h ∈ l.handlers, ∃ k, g.handlers[h]? = some k ∧ k.reveals level = true)
    (now : Timestamp) :
    (g.log i level "" [] (.inside [numbered 0]) now).map shown ≠
      (g.log i level "" [] (.inside [numbered 1]) now).map shown := by
  obtain ⟨message, hmessage⟩ : ∃ message, l.masker.maskString "" = .ok message := by
    rw [hmasker]
    exact ⟨_, rfl⟩
  have hrecord : ∀ n, l.record level "" [] (.inside [numbered n]) now =
      .ok (numberedRecord l level message now n) := by
    intro n
    rw [Logger.record, hmessage, hmasker]
    rfl
  have hlog : ∀ n, (g.log i level "" [] (.inside [numbered n]) now).map shown =
      .ok (seen (offerAll g.handlers (numberedRecord l level message now n) l.handlers).1
        (offerAll g.handlers (numberedRecord l level message now n) l.handlers).2) := by
    intro n
    have hchecked : Logger.checkArguments level [] = .ok () := rfl
    simp only [log, hchecked, hlogger, henabled, hrecord, bind, Except.bind, if_true]
    rfl
  have hzero : (Value.int 0).toText = .ok "0" := rfl
  have hone : (Value.int 1).toText = .ok "1" := rfl
  intro hsame
  rw [hlog, hlog] at hsame
  have hline := line_eq_of_seen_eq (textLine_numbered l level message now hzero)
    (textLine_numbered l level message now hone) (by simp only [String.length_append]; rfl)
    (alike_numbered l level message now 0 1) rfl hguards hreveals (Except.ok.inj hsame)
  rw [String.append_empty, String.append_empty, String.append_right_inj, String.append_right_inj,
    String.append_right_inj] at hline
  exact absurd hline (by decide)

/-- What the log shows of secrets, through a logger with the default masker whose
handlers mask, where they do, with maskers that guard the secrets.  Of the secrets
among the arguments of a call nothing can be found out, not even by a buffer.  Of
the secrets in the open scopes nothing can be seen if and only if the level is not
logged or none of the handlers is an open stream of text lines with fields that
takes records of the level. -/
theorem log_shows_secrets_iff (hlogger : g.loggers[i]? = some l) (hmasker : l.masker = .standard)
    (hguards : ∀ h ∈ l.handlers, ∀ k, g.handlers[h]? = some k → k.Guards) :
    (∀ message (arguments arguments' : Fields) context now,
      arguments.veiled = arguments'.veiled →
      Logger.faultOf arguments = Logger.faultOf arguments' →
      g.log i level message arguments context now = g.log i level message arguments' context now) ∧
    ((∀ message (arguments arguments' : Fields) (scopes scopes' : List Scope) now,
      arguments.veiled = arguments'.veiled →
      Logger.faultOf arguments = Logger.faultOf arguments' →
      scopes.map (·.fields.veiled) = scopes'.map (·.fields.veiled) →
      (g.log i level message arguments (.inside scopes) now).map shown =
        (g.log i level message arguments' (.inside scopes') now).map shown) ↔
      (l.isEnabled level = true → ∀ h ∈ l.handlers, ∀ k, g.handlers[h]? = some k →
        k.reveals level = false)) := by
  have hguard : l.masker.Guards := by
    rw [hmasker]
    exact Masker.guards_standard
  refine ⟨?_, ?_, ?_⟩
  · intro message arguments arguments' context now h hfault
    exact log_congr_arguments hlogger hguard h hfault message context now
  · intro hsame henabled h hmem k hk
    refine Bool.eq_false_iff.2 fun hreveals => ?_
    refine shown_ne_of_reveals hlogger hmasker hguards henabled ⟨h, hmem, k, hk, hreveals⟩
      ⟨0, 0, 0, 0, 0, 0, 0⟩ (hsame _ _ _ _ _ _ rfl rfl ?_)
    rw [List.map_singleton, List.map_singleton, veiled_numbered, veiled_numbered]
  · intro hconceals message arguments arguments' scopes scopes' now h hfault hscopes
    rw [log_congr_arguments hlogger hguard h hfault]
    refine shown_log_congr hlogger (fun henabled h hmem k hk => ?_) ?_ message arguments' now
    · exact ⟨hguards h hmem k hk, hconceals henabled h hmem k hk⟩
    · rw [Context.veiled_inside, Context.veiled_inside, hscopes]

/-- Loggers with one logger and some handlers for it. -/
def withHandlers (handlers : List Handler) : Registry where
  handlers
  loggers := [{ name := "t", level := .debug, handlers := List.range handlers.length
                masker := .standard }]
  named := []
  level := .debug
  defaults := []

/-- A stream of JSON lines and the host see nothing of a password. -/
theorem log_conceals_password :
    let g := withHandlers [.stream (.memory "") (.json .standard none) .debug false,
      .host none .standard]
    let now : Timestamp := ⟨2024, 1, 15, 10, 30, 45, 0⟩
    (g.log 0 .info "hello" [] (.inside [numbered 0]) now).map shown =
      (g.log 0 .info "hello" [] (.inside [numbered 1]) now).map shown := by
  intro g now
  have hguards : ∀ h ∈ [0, 1], ∀ k, g.handlers[h]? = some k → k.Guards ∧ k.reveals .info = false := by
    simp only [List.mem_cons, List.not_mem_nil, or_false, forall_eq_or_imp, forall_eq]
    refine ⟨?_, ?_⟩ <;> rintro k ⟨⟩ <;> exact ⟨Masker.guards_standard, rfl⟩
  refine (log_shows_secrets_iff (g := g) (i := 0) rfl rfl
    fun h hmem k hk => (hguards h hmem k hk).1).2.2
      (fun _ h hmem k hk => (hguards h hmem k hk).2) _ _ _ _ _ _ rfl rfl ?_
  rw [List.map_singleton, List.map_singleton, veiled_numbered, veiled_numbered]

/-- A stream of text lines shows the password of an open scope. -/
theorem log_shows_password :
    let g := withHandlers [.stream (.memory "") (.text true) .debug false]
    let now : Timestamp := ⟨2024, 1, 15, 10, 30, 45, 0⟩
    (g.log 0 .info "" [] (.inside [numbered 0]) now).map shown ≠
      (g.log 0 .info "" [] (.inside [numbered 1]) now).map shown := by
  intro g now
  refine shown_ne_of_reveals rfl rfl ?_ rfl ⟨0, List.mem_singleton_self 0, _, rfl, rfl⟩ now
  intro h hmem k hk
  obtain rfl := List.mem_singleton.1 hmem
  obtain rfl := Option.some.inj hk
  trivial

end Registry

end QueryTelemetry.Log
