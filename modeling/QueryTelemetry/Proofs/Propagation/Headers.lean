import Mathlib.Algebra.Group.Nat.Defs
import QueryTelemetry.Propagation.Bridge

/-!
# What headers bring

The headers of a carrier of named data are the data under names in small letters
(`Headers.ofCarrier_toValue`).  Headers that are texts can always be read.  What they
bring is the same wherever they are read: an identity, if they have a readable trace
parent, and baggage (`Headers.exists_bring`).  An identity that is read from a header is valid
(`TraceParent.isValid_toIdentity`), since the header has as many digits as an id.
-/

namespace QueryTelemetry

/-! ## Named data under other names -/

namespace Fields

variable {f : String → String} {fields : Fields}

/-- Named data under other names.  A later entry takes the place of an earlier one that
comes to have its name. -/
def renamed (f : String → String) (fields : Fields) : Fields :=
  Assoc.overlay [] (fields.map fun e => (f e.1, e.2))

theorem exists_of_mem_renamed {e : String × Value} (h : e ∈ fields.renamed f) :
    ∃ e' ∈ fields, f e'.1 = e.1 ∧ e'.2 = e.2 := by
  rcases Assoc.mem_or_mem_of_mem_overlay h with h | h
  · cases h
  · obtain ⟨e', hmem, rfl⟩ := List.mem_map.1 h
    exact ⟨e', hmem, rfl, rfl⟩

theorem exists_get?_renamed {e : String × Value} (h : e ∈ fields) :
    ∃ v, Assoc.get? (fields.renamed f) (f e.1) = some v := by
  have hhas : Assoc.has (fields.renamed f) (f e.1) = true := by
    rw [renamed, Assoc.has_overlay, Assoc.has_nil, Bool.false_or, Assoc.has_eq_true_iff]
    exact List.mem_map_of_mem (List.mem_map_of_mem h)
  rw [← Assoc.isSome_get?] at hhas
  exact Option.isSome_iff_exists.1 hhas

theorem exists_of_get?_renamed {name : String} {v : Value}
    (h : Assoc.get? (fields.renamed f) name = some v) : ∃ e ∈ fields, f e.1 = name ∧ e.2 = v :=
  exists_of_mem_renamed (Assoc.mem_of_get? h)

end Fields

namespace Propagation

open Trace (Context Identity)

/-! ## Readable trace parents -/

namespace TraceParent

theorem lt_of_digit? {c : Char} {d : Nat} (h : digit? c = some d) : d < 16 := by
  have hle : ∀ {a b : Char}, a ≤ b → a.toNat ≤ b.toNat := fun h => h
  rw [digit?] at h
  split at h
  · rw [Text.hexValue?] at h
    split at h
    · next hc =>
      have hbound : c.toNat ≤ 57 := hle hc.2
      obtain rfl := Option.some.inj h
      omega
    · split at h
      · next hc =>
        have hbound : c.toNat ≤ 102 := hle hc.2
        obtain rfl := Option.some.inj h
        omega
      · split at h
        · next hc =>
          have hbound : c.toNat ≤ 70 := hle hc.2
          obtain rfl := Option.some.inj h
          omega
        · cases h
  · cases h

theorem lt_of_takeHex {count n v : Nat} {cs rest : List Char}
    (h : takeHex count n cs = some (v, rest)) : v < (n + 1) * 16 ^ count := by
  induction count generalizing n cs with
  | zero =>
    obtain ⟨rfl, -⟩ := Prod.mk.inj (Option.some.inj h)
    omega
  | succ count ih =>
    cases cs with
    | nil => cases h
    | cons c cs =>
      obtain ⟨d, hd, h⟩ := Option.bind_eq_some_iff.1 h
      have hdigit := lt_of_digit? hd
      calc v < (16 * n + d + 1) * 16 ^ count := ih h
        _ ≤ ((n + 1) * 16) * 16 ^ count := Nat.mul_le_mul_right _ (by omega)
        _ = (n + 1) * 16 ^ (count + 1) := by rw [Nat.pow_succ, Nat.mul_assoc, Nat.mul_comm 16]

/-- A trace parent that can be read gives a valid identity. -/
theorem isValid_toIdentity {s : String} {p : TraceParent} (h : read s = some p)
    (state : List (String × String)) : (p.toIdentity state).isValid = true := by
  obtain ⟨hparts, husable⟩ := Option.filter_eq_some_iff.1 h
  simp only [parts?, Option.bind_eq_bind, Option.bind_eq_some_iff] at hparts
  obtain ⟨_, -, _, -, trace, htrace, _, -, span, hspan, _, -, _, -, _, -, hp⟩ := hparts
  obtain rfl := Option.some.inj hp
  have htrace : trace.1 < Nat.pow 2 128 := Nat.lt_of_lt_of_le (lt_of_takeHex htrace) (by decide)
  have hspan : span.1 < Nat.pow 2 64 := Nat.lt_of_lt_of_le (lt_of_takeHex hspan) (by decide)
  simp only [isUsable, Bool.and_eq_true, bne_iff_ne] at husable
  obtain ⟨⟨-, htrace'⟩, hspan'⟩ := husable
  simp only [toIdentity, Identity.isValid, Bool.and_eq_true]
  exact ⟨⟨⟨decide_eq_true (Nat.pos_of_ne_zero htrace'), decide_eq_true htrace⟩,
    decide_eq_true (Nat.pos_of_ne_zero hspan')⟩, decide_eq_true hspan⟩

end TraceParent

/-- A carrier of texts has a trace parent that can be read, under some casing of
the name. -/
def BringsTrace (carrier : List (String × String)) : Prop :=
  ∃ e ∈ carrier, Text.lower e.1 = TraceParent.headerName ∧ e.2.length ≤ TraceParent.longest ∧
    (TraceParent.read e.2).isSome

/-! ## Headers -/

namespace Headers

/-- The headers of a carrier of named data are the data under names in small letters. -/
theorem ofCarrier_toValue (fields : Fields) :
    ofCarrier fields.toValue = .ok (fields.renamed Text.lower) := by
  have hfrom : ∀ headers, headersOf headers fields.toEntries =
      .ok (Assoc.overlay headers (fields.map fun e => (Text.lower e.1, e.2))) := by
    induction fields with
    | nil => exact fun _ => rfl
    | cons e fields ih => exact fun headers => ih _
  exact hfrom []

/-- What headers bring: an identity and baggage. -/
structure Bring (headers : Headers) (r : Option Identity) (more : List (String × String)) :
    Prop where
  trace : Propagator.remoteIdentity headers = .ok r
  baggage : ∀ current c, Propagator.extractBaggage headers current c =
    .ok (Propagator.withBaggage (c.getD current) more)

/-- A header that is a text if it is there at all. -/
def IsText (headers : Headers) (name : String) : Prop :=
  ∀ v, Assoc.get? headers name = some v → ∃ s, v = .text s

variable {headers : Headers} {name s : String}

theorem items_of_get?_text (h : Assoc.get? headers name = some (.text s)) :
    headers.items name = some [.text s] := by
  rw [items, h]

theorem IsText.items (h : headers.IsText name) :
    headers.items name = none ∨ ∃ s, Assoc.get? headers name = some (.text s) := by
  cases hget : Assoc.get? headers name with
  | none => exact .inl (by rw [Headers.items, hget])
  | some v =>
    obtain ⟨s, rfl⟩ := h v hget
    exact .inr ⟨s, rfl⟩

theorem exists_read_text (s : String) : ∃ state, TraceState.read [.text s] = .ok state := by
  have hlength : TraceState.lengthAll [.text s] = .ok (0 + s.length) := rfl
  have hread : ∃ read, TraceState.readFrom [] [.text s] = .ok read := by
    cases hentries : TraceState.entries? []
        ((Text.splitAt "," s).map fun s => TraceState.trimmed s.toList) with
    | none =>
      refine ⟨none, ?_⟩
      simp only [TraceState.readFrom, TraceState.partsOf, hentries, bind, Except.bind]
    | some entries =>
      refine ⟨some entries, ?_⟩
      simp only [TraceState.readFrom, TraceState.partsOf, hentries, bind, Except.bind]
  obtain ⟨read, hread⟩ := hread
  simp only [TraceState.read, hlength, hread, bind, Except.bind]
  split
  · exact ⟨_, rfl⟩
  · cases read with
    | none => exact ⟨_, rfl⟩
    | some entries => exact ⟨_, rfl⟩

theorem exists_readState (h : headers.IsText TraceState.headerName) :
    ∃ state, Propagator.readState headers = .ok state := by
  rcases h.items with hnone | ⟨s, hget⟩
  · exact ⟨[], by rw [Propagator.readState, hnone]⟩
  · rw [Propagator.readState, items_of_get?_text hget]
    exact exists_read_text s

/-- A trace parent that is a text is read unless it is too long. -/
theorem remoteIdentity_of_text {state : List (String × String)}
    (hget : Assoc.get? headers TraceParent.headerName = some (.text s))
    (hstate : Propagator.readState headers = .ok state) :
    Propagator.remoteIdentity headers = .ok
      (if TraceParent.longest < s.length then none
        else (TraceParent.read s).map fun p => p.toIdentity state) := by
  simp only [Propagator.remoteIdentity, items_of_get?_text hget, lengthOf, textOf, bind,
    Except.bind]
  split
  · rfl
  · cases TraceParent.read s with
    | none => rfl
    | some p => simp only [hstate, Option.map_some]

theorem exists_extractBaggage (h : headers.IsText Baggage.headerName) :
    ∃ more, ∀ current c, Propagator.extractBaggage headers current c =
      .ok (Propagator.withBaggage (c.getD current) more) := by
  rcases h.items with hnone | ⟨s, hget⟩
  · refine ⟨[], fun current c => ?_⟩
    rw [Propagator.extractBaggage, hnone]
    rfl
  · refine ⟨Baggage.read s, fun current c => ?_⟩
    rw [Propagator.extractBaggage, items_of_get?_text hget]

/-! ## Carriers of texts -/

/-- The headers of a carrier of texts. -/
def ofTexts (carrier : List (String × String)) : Headers :=
  carrier.foldl (fun headers e => Assoc.put headers (Text.lower e.1) (.text e.2)) []

/-- A carrier of texts as a value. -/
def texts (carrier : List (String × String)) : Value :=
  Fields.toValue (carrier.map fun e => (e.1, .text e.2))

variable (carrier : List (String × String))

theorem ofTexts_eq :
    ofTexts carrier = Fields.renamed Text.lower (carrier.map fun e => (e.1, .text e.2)) := by
  rw [ofTexts, Fields.renamed, Assoc.overlay, List.map_map, List.foldl_map]
  rfl

/-- Every header is that of a text of the carrier. -/
theorem exists_of_get?_ofTexts {v : Value} (h : Assoc.get? (ofTexts carrier) name = some v) :
    ∃ e ∈ carrier, Text.lower e.1 = name ∧ v = .text e.2 := by
  rw [ofTexts_eq] at h
  obtain ⟨e, hmem, hname, rfl⟩ := Fields.exists_of_get?_renamed h
  obtain ⟨t, ht, rfl⟩ := List.mem_map.1 hmem
  exact ⟨t, ht, hname, rfl⟩

theorem isText_ofTexts (name : String) : (ofTexts carrier).IsText name := by
  intro v h
  obtain ⟨e, -, -, rfl⟩ := exists_of_get?_ofTexts carrier h
  exact ⟨e.2, rfl⟩

theorem exists_remoteIdentity : ∃ r, Propagator.remoteIdentity (ofTexts carrier) = .ok r ∧
    ∀ i ∈ r, i.isValid = true ∧ BringsTrace carrier := by
  rcases (isText_ofTexts carrier TraceParent.headerName).items with hnone | ⟨s, hget⟩
  · exact ⟨none, by rw [Propagator.remoteIdentity, hnone], by simp⟩
  · obtain ⟨e, hmem, hname, hs⟩ := exists_of_get?_ofTexts carrier hget
    obtain rfl := Value.text.inj hs
    obtain ⟨state, hstate⟩ := exists_readState (isText_ofTexts carrier TraceState.headerName)
    refine ⟨_, remoteIdentity_of_text hget hstate, fun i hi => ?_⟩
    split at hi
    · cases hi
    · next hshort =>
      obtain ⟨p, hread, rfl⟩ := Option.map_eq_some_iff.1 hi
      have hbrings : BringsTrace carrier :=
        ⟨e, hmem, hname, Nat.le_of_not_lt hshort, by rw [hread]; rfl⟩
      exact ⟨TraceParent.isValid_toIdentity hread state, hbrings⟩

/-- Headers that are texts bring something, and an identity that they bring is
valid. -/
theorem exists_bring : ∃ r more, Bring (ofTexts carrier) r more ∧
    ∀ i ∈ r, i.isValid = true ∧ BringsTrace carrier := by
  obtain ⟨r, htrace, hr⟩ := exists_remoteIdentity carrier
  obtain ⟨more, hbaggage⟩ := exists_extractBaggage (isText_ofTexts carrier Baggage.headerName)
  exact ⟨r, more, ⟨htrace, hbaggage⟩, hr⟩

end Headers

end Propagation

end QueryTelemetry
