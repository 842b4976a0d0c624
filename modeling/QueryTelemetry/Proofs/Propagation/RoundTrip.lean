import QueryTelemetry.Proofs.Propagation.Joining
import QueryTelemetry.Proofs.Text.Casing
import QueryTelemetry.Proofs.Text.Hexadecimal

/-!
# Contexts through carriers

A context that the usual propagators write into a carrier comes out of it with the
ids of its trace and of its span (`Bridge.extract_inject`).  The carrier may hold
other headers, and the names may change the case of their letters on the way.

What is written and what is read meet in `Carries`: under some casing of its name the
carrier has the trace parent of the identity, under no casing another one, and its other
headers of tracing are texts.  Injection into a carrier without headers of tracing leads
there (`Bridge.exists_inject`), a new casing of the names stays there (`Carries.renamed`),
and extraction starts from there (`Bridge.exists_extract`).
-/

namespace QueryTelemetry.Propagation

open Trace (Context Identity)

/-! ## The trace parent as written -/

namespace TraceParent

/-- An identity whose parts fit into the header. -/
structure Fits (i : Identity) : Prop where
  valid : i.isValid = true
  flags : i.flags < 256

variable {i : Identity}

theorem Fits.trace (h : Fits i) : 0 < i.traceId ∧ i.traceId < 16 ^ 32 := by
  have hvalid := h.valid
  simp only [Identity.isValid, Bool.and_eq_true, decide_eq_true_eq] at hvalid
  exact ⟨hvalid.1.1.1, Nat.lt_of_lt_of_le hvalid.1.1.2 (by decide)⟩

theorem Fits.span (h : Fits i) : 0 < i.spanId ∧ i.spanId < 16 ^ 16 := by
  have hvalid := h.valid
  simp only [Identity.isValid, Bool.and_eq_true, decide_eq_true_eq] at hvalid
  exact ⟨hvalid.1.2, Nat.lt_of_lt_of_le hvalid.2 (by decide)⟩

/-- The parts of the header of an identity. -/
def ofIdentity (i : Identity) : TraceParent :=
  { version := 0, traceId := i.traceId, spanId := i.spanId, flags := i.flags, extended := false }

theorem toList_write (i : Identity) :
    (write i).toList = '0' :: '0' :: '-' :: ((Text.hex 32 i.traceId).toList ++
      '-' :: ((Text.hex 16 i.spanId).toList ++ '-' :: ((Text.hex 2 i.flags).toList ++ []))) := by
  have hversion : "00-".toList = ['0', '0', '-'] := by decide
  have hhyphen : "-".toList = ['-'] := by decide
  simp only [write, Identity.traceText, Identity.spanText, String.toList_append, hversion,
    hhyphen, List.append_assoc, List.append_nil, List.cons_append, List.nil_append]

theorem parts?_write (h : Fits i) : parts? (write i) = some (ofIdentity i) := by
  have hversion : ∀ rest, takeHex 2 0 ('0' :: '0' :: rest) = some (0, rest) := fun _ => rfl
  have htrace := takeHex_hex (by decide) h.trace.2
  have hspan := takeHex_hex (by decide) h.span.2
  have hbyte : i.flags < 16 ^ 2 := h.flags
  have hflags := takeHex_hex (by decide) hbyte
  rw [parts?, toList_write, List.dropWhile_cons_of_neg (by decide)]
  simp only [hversion, takeHyphen, htrace, hspan, hflags, Option.bind_eq_bind, Option.bind_some]
  rfl

theorem read_write (h : Fits i) : read (write i) = some (ofIdentity i) := by
  have htrace := h.trace.1
  have hspan := h.span.1
  have husable : isUsable (ofIdentity i) = true := by
    simp only [isUsable, ofIdentity, Bool.and_eq_true, bne_iff_ne]
    exact ⟨⟨⟨by decide, by decide⟩, by omega⟩, by omega⟩
  rw [read, parts?_write h, Option.filter_some, if_pos husable]

theorem length_write (h : Fits i) : (write i).length = 55 := by
  have htrace := Text.length_hex (by decide) h.trace.2
  have hspan := Text.length_hex (by decide) h.span.2
  have hbyte : i.flags < 16 ^ 2 := h.flags
  have hflags := Text.length_hex (by decide) hbyte
  rw [← String.length_toList] at htrace hspan hflags ⊢
  simp only [toList_write, List.length_cons, List.length_append, List.length_nil, htrace, hspan,
    hflags]

end TraceParent

/-- Contexts agree on their ids if their spans do. -/
theorem traceIds_eq {c c' : Context} (htrace : c'.identity.traceId = c.identity.traceId)
    (hspan : c'.identity.spanId = c.identity.spanId)
    (hflags : c'.identity.flags = c.identity.flags) : traceIds c' = traceIds c := by
  have hvalid : c'.identity.isValid = c.identity.isValid := by
    rw [Identity.isValid, Identity.isValid, htrace, hspan]
  rw [traceIds, traceIds, hvalid, Identity.traceText, Identity.traceText, Identity.spanText,
    Identity.spanText, Identity.isSampled, Identity.isSampled, htrace, hspan, hflags]

/-! ## Carriers that carry an identity -/

/-- The headers of tracing. -/
def headerNames : List String :=
  [TraceParent.headerName, TraceState.headerName, Baggage.headerName]

/-- Named data without headers of tracing, under any casing of their names. -/
def Foreign (fields : Fields) : Prop := ∀ e ∈ fields, Text.lower e.1 ∉ headerNames

/-- Named data that gives an identity to whoever reads it as a carrier. -/
structure Carries (i : Identity) (fields : Fields) : Prop where
  present : ∃ e ∈ fields, Text.lower e.1 = TraceParent.headerName
  parent : ∀ e ∈ fields, Text.lower e.1 = TraceParent.headerName →
    e.2 = .text (TraceParent.write i)
  texts : ∀ e ∈ fields, Text.lower e.1 ∈ headerNames → ∃ s, e.2 = .text s

namespace Carries

variable {i : Identity} {fields : Fields}

theorem of_foreign (i : Identity) (h : Foreign fields) :
    Carries i (Assoc.put fields TraceParent.headerName (.text (TraceParent.write i))) := by
  have hlower : Text.lower TraceParent.headerName = TraceParent.headerName := by decide +kernel
  have hmine : TraceParent.headerName ∈ headerNames := by decide
  -- an entry under a name of tracing is the one that was put
  have hput : ∀ e ∈ Assoc.put fields TraceParent.headerName (.text (TraceParent.write i)),
      Text.lower e.1 ∈ headerNames → e.2 = .text (TraceParent.write i) := by
    intro e hmem hname
    rcases Assoc.eq_or_mem_of_mem_put hmem with rfl | hmem
    · rfl
    · exact absurd hname (h e hmem)
  have hget := Assoc.get?_put fields TraceParent.headerName (.text (TraceParent.write i))
    TraceParent.headerName
  rw [if_pos (beq_self_eq_true _)] at hget
  refine ⟨⟨_, Assoc.mem_of_get? hget, hlower⟩, ?_, ?_⟩
  · intro e hmem hname
    exact hput e hmem (by rw [hname]; exact hmine)
  · intro e hmem hname
    exact ⟨_, hput e hmem hname⟩

/-- Another header that is a text makes no difference. -/
theorem put {name : String} (h : Carries i fields)
    (hname : Text.lower name ≠ TraceParent.headerName) (s : String) :
    Carries i (Assoc.put fields name (.text s)) := by
  constructor
  · obtain ⟨e, hmem, hparent⟩ := h.present
    have hhas : Assoc.has (Assoc.put fields name (.text s)) e.1 = true := by
      rw [Assoc.has_put, Assoc.has_eq_true_iff.2 (List.mem_map_of_mem hmem), Bool.or_true]
    obtain ⟨e', hmem', hsame⟩ := List.mem_map.1 (Assoc.has_eq_true_iff.1 hhas)
    exact ⟨e', hmem', by rw [hsame, hparent]⟩
  · intro e hmem hparent
    rcases Assoc.eq_or_mem_of_mem_put hmem with rfl | hmem
    · exact absurd hparent hname
    · exact h.parent e hmem hparent
  · intro e hmem hmine
    rcases Assoc.eq_or_mem_of_mem_put hmem with rfl | hmem
    · exact ⟨s, rfl⟩
    · exact h.texts e hmem hmine

/-- Names may change as long as their small letters stay. -/
theorem renamed {f : String → String} (hf : ∀ name, Text.lower (f name) = Text.lower name)
    (h : Carries i fields) : Carries i (fields.renamed f) := by
  have hback : ∀ e ∈ fields.renamed f, ∃ e' ∈ fields, Text.lower e'.1 = Text.lower e.1 ∧
      e'.2 = e.2 := by
    intro e hmem
    obtain ⟨e', hmem', hname, hvalue⟩ := Fields.exists_of_mem_renamed hmem
    exact ⟨e', hmem', by rw [← hname, hf], hvalue⟩
  constructor
  · obtain ⟨e, hmem, hparent⟩ := h.present
    obtain ⟨v, hget⟩ : ∃ v, Assoc.get? (fields.renamed f) (f e.1) = some v :=
      Fields.exists_get?_renamed hmem
    exact ⟨_, Assoc.mem_of_get? hget, by rw [hf, hparent]⟩
  · intro e hmem hname
    obtain ⟨e', hmem', hsame, hvalue⟩ := hback e hmem
    rw [← hvalue, h.parent e' hmem' (hsame.trans hname)]
  · intro e hmem hmine
    obtain ⟨e', hmem', hsame, hvalue⟩ := hback e hmem
    rw [← hsame] at hmine
    rw [← hvalue]
    exact h.texts e' hmem' hmine

/-! ### What its headers say -/

theorem get?_headers (h : Carries i fields) :
    Assoc.get? (fields.renamed Text.lower) TraceParent.headerName =
      some (.text (TraceParent.write i)) := by
  obtain ⟨e, hmem, hname⟩ := h.present
  obtain ⟨v, hget⟩ : ∃ v, Assoc.get? (fields.renamed Text.lower) (Text.lower e.1) = some v :=
    Fields.exists_get?_renamed hmem
  rw [hname] at hget
  obtain ⟨e', hmem', hname', rfl⟩ := Fields.exists_of_get?_renamed hget
  rw [hget, h.parent e' hmem' hname']

theorem isText (h : Carries i fields) {name : String} (hname : name ∈ headerNames) :
    Headers.IsText (fields.renamed Text.lower) name := by
  intro v hget
  obtain ⟨e, hmem, rfl, rfl⟩ := Fields.exists_of_get?_renamed hget
  exact h.texts e hmem hname

theorem exists_bring (h : Carries i fields) (hfits : TraceParent.Fits i) :
    ∃ state more, Headers.Bring (fields.renamed Text.lower)
      (some ((TraceParent.ofIdentity i).toIdentity state)) more := by
  have hstateName : TraceState.headerName ∈ headerNames := by decide
  have hbaggageName : Baggage.headerName ∈ headerNames := by decide
  obtain ⟨state, hstate⟩ := Headers.exists_readState (h.isText hstateName)
  obtain ⟨more, hbaggage⟩ := Headers.exists_extractBaggage (h.isText hbaggageName)
  refine ⟨state, more, ?_, hbaggage⟩
  have hshort : ¬ TraceParent.longest < (TraceParent.write i).length := by
    rw [TraceParent.length_write hfits]
    decide
  rw [Headers.remoteIdentity_of_text h.get?_headers hstate, if_neg hshort,
    TraceParent.read_write hfits, Option.map_some]

end Carries

/-! ## Injection -/

theorem setHeader_toValue (fields : Fields) (name s : String) :
    setHeader fields.toValue name s = .ok (Fields.toValue (Assoc.put fields name (.text s))) := by
  have hput : Assoc.put fields.toEntries (.text name) (.text s) =
      Fields.toEntries (Assoc.put fields name (.text s)) := by
    induction fields with
    | nil => rfl
    | cons e fields ih =>
      have hkey : (Value.text e.1 == .text name) = (e.1 == name) := rfl
      rw [Assoc.put, Fields.toEntries, List.map_cons, Assoc.put, hkey]
      split
      · rfl
      · exact congrArg (_ :: ·) ih
  rw [setHeader, Fields.toValue, Value.withEntry, hput, Fields.toValue]

theorem Baggage.exists_write {baggage : Fields}
    (h : ∀ e ∈ baggage, ∃ s, e.2.toText = .ok s) : ∃ header, Baggage.write baggage = .ok header := by
  have hall : ∃ entries, baggage.mapM writeEntry = .ok entries := by
    induction baggage with
    | nil => exact ⟨[], rfl⟩
    | cons e baggage ih =>
      obtain ⟨entries, hentries⟩ := ih fun e hmem => h e (List.mem_cons_of_mem _ hmem)
      obtain ⟨s, hs⟩ := h e List.mem_cons_self
      rw [List.mapM_cons, writeEntry, hs, hentries]
      exact ⟨_, rfl⟩
  obtain ⟨entries, hentries⟩ := hall
  rw [write, hentries]
  simp only [bind, Except.bind]
  split
  · exact ⟨_, rfl⟩
  · exact ⟨_, rfl⟩

namespace Propagator

variable {c : Context} {fields : Fields}

theorem exists_injectTraceContext (hvalid : c.identity.isValid = true) (h : Foreign fields) :
    ∃ written : Fields, injectTraceContext fields.toValue c = .ok written.toValue ∧
      Carries c.identity written := by
  have hidentity : c.identity ≠ .invalid := by
    intro hinvalid
    rw [hinvalid, Identity.isValid_invalid] at hvalid
    cases hvalid
  have hcarries := Carries.of_foreign c.identity h
  rw [injectTraceContext, if_neg hidentity, setHeader_toValue]
  simp only [bind, Except.bind]
  split
  · exact ⟨_, rfl, hcarries⟩
  · rw [setHeader_toValue]
    exact ⟨_, rfl, hcarries.put (by decide +kernel) _⟩

theorem exists_injectBaggage {i : Identity} (hbaggage : ∀ e ∈ c.baggage, ∃ s, e.2.toText = .ok s)
    (h : Carries i fields) :
    ∃ written : Fields, injectBaggage fields.toValue c = .ok written.toValue ∧
      Carries i written := by
  obtain ⟨header, hheader⟩ := Baggage.exists_write hbaggage
  rw [injectBaggage, hheader]
  cases header with
  | none => exact ⟨fields, rfl, h⟩
  | some header =>
    simp only [bind, Except.bind]
    rw [setHeader_toValue]
    exact ⟨_, rfl, h.put (by decide +kernel) _⟩

end Propagator

/-! ## There and back -/

namespace Bridge

variable (zipkinInstalled : Bool) {c : Context} {fields : Fields}

theorem propagators_defaultNames :
    (ofNames zipkinInstalled defaultNames).1.propagators = [.traceContext, .baggage] := by
  rfl

theorem exists_inject (hvalid : c.identity.isValid = true)
    (hbaggage : ∀ e ∈ c.baggage, ∃ s, e.2.toText = .ok s) (h : Foreign fields) :
    ∃ written : Fields,
      (ofNames zipkinInstalled defaultNames).1.inject fields.toValue c = .ok written.toValue ∧
      Carries c.identity written := by
  obtain ⟨traced, htraced, hcarries⟩ := Propagator.exists_injectTraceContext hvalid h
  obtain ⟨written, hwritten, hcarries⟩ := Propagator.exists_injectBaggage hbaggage hcarries
  refine ⟨written, ?_, hcarries⟩
  rw [inject, propagators_defaultNames]
  simp only [List.foldlM_cons, List.foldlM_nil, Propagator.inject, htraced, hwritten, bind,
    Except.bind, pure, Except.pure, Except.mapError]

theorem exists_extract {i : Identity} (hfits : TraceParent.Fits i) (h : Carries i fields)
    (current : Context) :
    ∃ c', (ofNames zipkinInstalled defaultNames).1.extract fields.toValue current =
        .ok (some c') ∧
      ∃ state, c'.identity = (TraceParent.ofIdentity i).toIdentity state := by
  obtain ⟨state, more, hbring⟩ := h.exists_bring hfits
  have hextract := extract_of_bring (Headers.ofCarrier_toValue fields) hbring
    (ofNames zipkinInstalled defaultNames).1 current
  rw [propagators_defaultNames, List.head?_cons, Option.map_some] at hextract
  refine ⟨_, hextract, state, ?_⟩
  rw [Propagator.identity_carryAll, if_pos (by decide), Option.getD_some]

/-- A context with a valid span that is written into a carrier without headers of tracing is read
back with the same ids, as a remote one, wherever the carrier is read and however the case of the
letters of its names has changed.  The flags have to fit into their byte, and the baggage has to
have texts that can be written. -/
theorem extract_inject (hvalid : c.identity.isValid = true) (hflags : c.identity.flags < 256)
    (hbaggage : ∀ e ∈ c.baggage, ∃ s, e.2.toText = .ok s) (hforeign : Foreign fields) :
    ∃ written : Fields,
      (ofNames zipkinInstalled defaultNames).1.inject fields.toValue c = .ok written.toValue ∧
      ∀ recase : String → String, (∀ name, (recase name).toLower = name.toLower) →
        ∀ current, ∃ c',
          (ofNames zipkinInstalled defaultNames).1.extract (written.renamed recase).toValue
              current = .ok (some c') ∧
            traceIds c' = traceIds c ∧ c'.identity.remote = true := by
  obtain ⟨written, hinject, hcarries⟩ := exists_inject zipkinInstalled hvalid hbaggage hforeign
  refine ⟨written, hinject, fun recase hrecase current => ?_⟩
  have hlower : ∀ name, Text.lower (recase name) = Text.lower name :=
    fun name => Text.lower_eq_of_toLower_eq (hrecase name)
  obtain ⟨c', hextract, state, hidentity⟩ :=
    exists_extract zipkinInstalled ⟨hvalid, hflags⟩ (hcarries.renamed hlower) current
  refine ⟨c', hextract, traceIds_eq ?_ ?_ ?_, ?_⟩
  all_goals
    rw [hidentity]
    rfl

/-- A context of small ids with some flags and one entry of baggage. -/
def bearing (flags : Nat) (item : Value) : Context where
  span := some { identity := { traceId := 0xab, spanId := 0xcd, flags, remote := false, state := [] }
                 entry := none }
  baggage := [("user", item)]

/-- All names come in capitals, and the ids keep their leading zeros. -/
theorem extract_inject_capitals :
    (bearing 1 (.int 7)).identity.isValid = true ∧ (bearing 1 (.int 7)).identity.flags < 256 ∧
      (∀ e ∈ (bearing 1 (.int 7)).baggage, ∃ s, e.2.toText = .ok s) ∧
      Foreign [("Accept", .text "*/*"), ("retries", .int 2)] ∧
      ∃ written : Fields,
        (ofNames false defaultNames).1.inject
            (Fields.toValue [("Accept", .text "*/*"), ("retries", .int 2)])
            (bearing 1 (.int 7)) = .ok written.toValue ∧
          ∀ current, ∃ c',
            (ofNames false defaultNames).1.extract (written.renamed String.toUpper).toValue
                current = .ok (some c') ∧
              traceIds c' = [("trace_id", .text "000000000000000000000000000000ab"),
                ("span_id", .text "00000000000000cd"), ("sampled", .bool true)] ∧
              c'.identity.remote = true := by
  have hvalid : (bearing 1 (.int 7)).identity.isValid = true := by decide +kernel
  have hflags : (bearing 1 (.int 7)).identity.flags < 256 := by decide +kernel
  have hbaggage : ∀ e ∈ (bearing 1 (.int 7)).baggage, ∃ s, e.2.toText = .ok s := by
    intro e hmem
    obtain rfl := List.mem_singleton.1 hmem
    exact ⟨"7", by rfl⟩
  have hforeign : Foreign [("Accept", .text "*/*"), ("retries", .int 2)] := by
    have haccept : Text.lower "Accept" ∉ headerNames := by decide +kernel
    have hretries : Text.lower "retries" ∉ headerNames := by decide +kernel
    simpa [Foreign] using ⟨haccept, hretries⟩
  have hupper : ∀ name : String, name.toUpper.toLower = name.toLower := by
    intro name
    simp [String.toUpper, String.toLower, String.map_map, Function.comp_def]
  obtain ⟨written, hinject, hextract⟩ :=
    extract_inject false hvalid hflags hbaggage hforeign
  exact ⟨hvalid, hflags, hbaggage, hforeign, written, hinject, hextract String.toUpper hupper⟩

/-- Baggage without a text is not written, and flags beyond their byte make a header that is not
read. -/
theorem not_extract_inject :
    ((bearing 1 (.textless "Secret" "<Secret>" (.ofValue "no text"))).identity.isValid = true ∧
      ∀ written, (ofNames false defaultNames).1.inject (Fields.toValue [])
        (bearing 1 (.textless "Secret" "<Secret>" (.ofValue "no text"))) ≠ .ok written) ∧
    (bearing 256 (.int 7)).identity.isValid = true ∧
      ∃ written c', (ofNames false defaultNames).1.inject (Fields.toValue [])
          (bearing 256 (.int 7)) = .ok written ∧
        (ofNames false defaultNames).1.extract written .empty = .ok (some c') ∧
        traceIds c' ≠ traceIds (bearing 256 (.int 7)) := by
  refine ⟨⟨by decide +kernel, fun written h => by cases h⟩, by decide +kernel, _, _, rfl, rfl, ?_⟩
  intro h
  cases h

end Bridge

end QueryTelemetry.Propagation
