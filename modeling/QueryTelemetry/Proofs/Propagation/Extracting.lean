import QueryTelemetry.Proofs.Fault.Steps
import QueryTelemetry.Propagation.Bridge

/-!
# How reading a carrier fails

A bridge turns every failure of its propagators into an error that says which way the context
went and keeps the failure as the cause.  The names of the headers are put in small letters before
that, so a name without a text makes extraction fail with whatever its text raises.
`Bridge.extract_of_map` says when each of these happens, for every carrier that is a map.
-/

namespace QueryTelemetry.Propagation

/-- The names in a carrier that is a map. -/
def names? : Value → Option (List Value)
  | .dict entries => some (entries.map (·.1))
  | .cyclic => some [.text "self"]
  | _ => none

/-- What the text of a name raises, if it does. -/
def nameFault? (name : Value) : Option Fault :=
  match name.toText with
  | .error f => some f
  | .ok _ => none

theorem nameFault?_eq_some_iff {name : Value} {f : Fault} :
    nameFault? name = some f ↔ name.toText = .error f := by
  unfold nameFault?
  cases name.toText <;> simp

theorem nameFault?_eq_none_iff {name : Value} :
    nameFault? name = none ↔ ∃ s, name.toText = .ok s := by
  unfold nameFault?
  cases name.toText <;> simp

/-! ## The names of the headers -/

theorem headersOf_of_fault {entries : List (Value × Value)} {f : Fault}
    (h : (entries.map (·.1)).findSome? nameFault? = some f) (headers : Headers) :
    headersOf headers entries = .error f := by
  induction entries generalizing headers with
  | nil => cases h
  | cons e rest ih =>
    obtain ⟨k, v⟩ := e
    rw [List.map_cons, List.findSome?_cons] at h
    cases hk : nameFault? k with
    | some g =>
      rw [hk] at h
      obtain rfl := Option.some.inj h
      rw [headersOf, nameFault?_eq_some_iff.1 hk]
      rfl
    | none =>
      obtain ⟨s, hs⟩ := nameFault?_eq_none_iff.1 hk
      rw [hk] at h
      rw [headersOf, hs]
      exact ih h _

theorem exists_headersOf {entries : List (Value × Value)}
    (h : (entries.map (·.1)).findSome? nameFault? = none) (headers : Headers) :
    ∃ out, headersOf headers entries = .ok out := by
  induction entries generalizing headers with
  | nil => exact ⟨headers, rfl⟩
  | cons e rest ih =>
    obtain ⟨k, v⟩ := e
    rw [List.map_cons, List.findSome?_cons] at h
    cases hk : nameFault? k with
    | some g =>
      rw [hk] at h
      cases h
    | none =>
      obtain ⟨s, hs⟩ := nameFault?_eq_none_iff.1 hk
      rw [hk] at h
      rw [headersOf, hs]
      exact ih h _

section

variable {carrier : Value} {names : List Value}

/-- The first name without a text decides. -/
theorem ofCarrier_of_fault (hmap : names? carrier = some names) {f : Fault}
    (h : names.findSome? nameFault? = some f) : Headers.ofCarrier carrier = .error f := by
  cases carrier with
  | dict entries =>
    obtain rfl := Option.some.inj hmap
    exact headersOf_of_fault h []
  | cyclic =>
    obtain rfl := Option.some.inj hmap
    cases h
  | _ => cases hmap

theorem exists_ofCarrier (hmap : names? carrier = some names)
    (h : names.findSome? nameFault? = none) :
    ∃ headers, Headers.ofCarrier carrier = .ok headers := by
  cases carrier with
  | dict entries =>
    obtain rfl := Option.some.inj hmap
    exact exists_headersOf h []
  | cyclic => exact ⟨_, rfl⟩
  | _ => cases hmap

end

/-! ## Extraction -/

namespace Bridge

/-- The error of an extraction that a propagator made fail. -/
def extractionFailure (b : Bridge) (cause : Fault) : Fault :=
  b.failure "Failed to extract context from carrier" "extract" cause

variable {carrier : Value} {names : List Value}

/-- Once the headers are read, whatever comes out of the propagators comes out of the bridge, a
failure as the cause of its own error. -/
theorem extract_of_headers (b : Bridge) {headers : Headers}
    (h : Headers.ofCarrier carrier = .ok headers) (current : Trace.Context) :
    (∃ c, b.extract carrier current = .ok c) ∨
      ∃ cause, b.extractHeaders headers current = .error cause ∧
        b.extract carrier current = .error (b.extractionFailure cause) := by
  have hextract : b.extract carrier current =
      (b.extractHeaders headers current).mapError b.extractionFailure := by
    rw [extract, h]
    rfl
  rw [hextract]
  cases b.extractHeaders headers current with
  | ok c => exact .inl ⟨c, rfl⟩
  | error cause => exact .inr ⟨cause, rfl, rfl⟩

/-- Extraction from a map, whatever its names and values are: the first name without a text is
passed on as it is; if all names have one, extraction returns or fails with the error of the bridge,
which has the failure of the propagators as its cause.  So no other error comes out of it exactly
if what the first name without a text raises, if there is one, is such an error by itself. -/
theorem extract_of_map (b : Bridge) (hmap : names? carrier = some names)
    (current : Trace.Context) :
    (∀ f, names.findSome? nameFault? = some f → b.extract carrier current = .error f) ∧
    (names.findSome? nameFault? = none →
      (∃ c, b.extract carrier current = .ok c) ∨
      ∃ headers cause, Headers.ofCarrier carrier = .ok headers ∧
        b.extractHeaders headers current = .error cause ∧
        b.extract carrier current = .error (b.extractionFailure cause)) ∧
    ((∀ f, b.extract carrier current = .error f → ∃ cause, f = b.extractionFailure cause) ↔
      ∀ f, names.findSome? nameFault? = some f → ∃ cause, f = b.extractionFailure cause) := by
  have hfault : ∀ f, names.findSome? nameFault? = some f →
      b.extract carrier current = .error f := by
    intro f hf
    rw [extract, ofCarrier_of_fault hmap hf]
    rfl
  have hreturns : names.findSome? nameFault? = none →
      (∃ c, b.extract carrier current = .ok c) ∨
      ∃ headers cause, Headers.ofCarrier carrier = .ok headers ∧
        b.extractHeaders headers current = .error cause ∧
        b.extract carrier current = .error (b.extractionFailure cause) := by
    intro hnone
    obtain ⟨headers, hheaders⟩ := exists_ofCarrier hmap hnone
    exact (b.extract_of_headers hheaders current).imp_right
      fun ⟨cause, hcause, hextract⟩ => ⟨headers, cause, hheaders, hcause, hextract⟩
  refine ⟨hfault, hreturns, fun hall f hf => hall f (hfault f hf), fun hnames f hf => ?_⟩
  cases hfound : names.findSome? nameFault? with
  | some g =>
    obtain rfl := Except.error.inj ((hfault g hfound).symm.trans hf)
    exact hnames g hfound
  | none =>
    rcases hreturns hfound with ⟨c, hok⟩ | ⟨-, cause, -, -, hextract⟩
    · cases hok.symm.trans hf
    · exact ⟨cause, Except.error.inj (hf.symm.trans hextract)⟩

/-- A carrier with a name that is a number, and with bytes for the header of the trace. -/
def bytesCarrier : Value := .dict [(.int 7, .null), (.text "TraceParent", .bytes [48, 48])]

/-- The bytes count by their numbers, which are no texts.  The propagator of traces fails, and that
is the cause of the error. -/
theorem extract_bytes :
    names? bytesCarrier = some [.int 7, .text "TraceParent"] ∧
      (ofNames false ["baggage", "jaeger", "tracecontext"]).1.extract bytesCarrier .empty =
        .error ((ofNames false ["baggage", "jaeger", "tracecontext"]).1.extractionFailure
          (.ofType "object of type 'int' has no len()")) := by
  have hmap : names? bytesCarrier = some [.int 7, .text "TraceParent"] := rfl
  refine ⟨hmap, ?_⟩
  rcases (extract_of_map (ofNames false ["baggage", "jaeger", "tracecontext"]).1 hmap .empty).2.1
    rfl with ⟨c, hok⟩ | ⟨headers, cause, hheaders, hcause, h⟩
  · cases hok
  · obtain rfl := Except.ok.inj hheaders
    obtain rfl := Except.error.inj hcause
    exact h

/-- The text of an object that is a name comes out as it fails. -/
theorem extract_textless_name :
    (ofNames false defaultNames).1.extract
        (.dict [(.textless "Unprintable" "an object" (.ofRuntime "no text"), .text "x")]) .empty =
      .error (.ofRuntime "no text") ∧
    ∀ cause, Fault.ofRuntime "no text" ≠
      (ofNames false defaultNames).1.extractionFailure cause := by
  refine ⟨rfl, fun cause h => ?_⟩
  cases h

end Bridge

end QueryTelemetry.Propagation
