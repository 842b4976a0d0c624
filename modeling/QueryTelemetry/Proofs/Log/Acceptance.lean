import QueryTelemetry.Proofs.Log.Masking
import QueryTelemetry.Proofs.Log.Offering

/-!
# Calls that a logger takes

A call can only be refused for the name of a field, or because its message and its fields
cannot be masked (`Logger.exists_record_iff`); no handler can make it fail.  An enabled masker
goes through everything that it does not cover, and turns the keys of all maps there into
texts, so that it stops at a key without a text and at a map that holds itself
(`Masker.exists_hide_iff`).  `Registry.log_returns_iff` says when a call returns and what has
happened then: each handler was offered the record as often as the logger mentions it.
-/

namespace QueryTelemetry.Log

/-! ## What a masker can go through -/

namespace Masker

variable {m : Masker} {v w : Value}

/-- Outside of what is covered no map holds itself, and the keys of all maps have a text. -/
structure Opens (m : Masker) (v : Value) : Prop where
  finite : ∀ place, m.covers v place = false → v.at? place ≠ some .cyclic
  keyed : ∀ place part key, m.covers v place = false → v.at? place = some part →
    key ∈ part.keys → ∃ s, key.toText = .ok s

theorem Opens.part {part : Value} {i : Nat} (h : m.Opens v) (hpart : v.parts[i]? = some part)
    (hreplaces : m.replaces v i = false) : m.Opens part where
  finite place hplace hcyclic := by
    refine h.finite (i :: place) ?_ ((Value.at?_cons hpart place).trans hcyclic)
    rw [covers_cons hpart, hreplaces, hplace]
    rfl
  keyed place part' key hplace hpart' := by
    refine h.keyed (i :: place) part' key ?_ ((Value.at?_cons hpart place).trans hpart')
    rw [covers_cons hpart, hreplaces, hplace]
    rfl

theorem opens_of_legible (m : Masker) (h : v.Legible) : m.Opens v where
  finite place _ := h.finite place
  keyed place part key _ := h.keyed place part key

theorem toText_of_hide (h : m.hide v = .ok w) {key : Value} (hkey : key ∈ v.keys) :
    ∃ s, key.toText = .ok s := by
  cases v with
  | dict entries =>
    obtain ⟨i, hi⟩ := List.getElem?_of_mem hkey
    obtain ⟨item, he⟩ := Value.exists_entry_of_key hi
    obtain ⟨out, hout, -⟩ := exists_of_map_eq_ok h
    obtain ⟨w, -, hentry⟩ := (getElem?_of_hideEntries hout).2 i _ he
    obtain ⟨s, hs, -⟩ := exists_of_bind_eq_ok hentry
    exact ⟨s, hs⟩
  | _ => cases hkey

theorem opens_of_hide (h : m.hide v = .ok w) : m.Opens v where
  finite place hplace hcyclic := by
    rcases hide_at h hplace with ⟨hnone, -⟩ | ⟨u, u', hu, -, hhide⟩
    · cases hnone.symm.trans hcyclic
    · obtain rfl := Option.some.inj (hu.symm.trans hcyclic)
      cases hhide
  keyed place part key hplace hpart hkey := by
    rcases hide_at h hplace with ⟨hnone, -⟩ | ⟨u, u', hu, -, hhide⟩
    · cases hnone.symm.trans hpart
    · obtain rfl := Option.some.inj (hu.symm.trans hpart)
      exact toText_of_hide hhide hkey

/-- A masker whose replacements can be read masks what it can go through, and nothing else. -/
theorem exists_hide_iff (hbroken : m.broken = none) : (∃ w, m.hide v = .ok w) ↔ m.Opens v := by
  refine ⟨fun ⟨w, h⟩ => opens_of_hide h, fun hopens => ?_⟩
  induction v using Value.induction_on_parts with
  | step v ih =>
    cases h : m.hide v with
    | ok w => exact ⟨w, rfl⟩
    | error f =>
      -- The fault comes from a part that is not replaced, and such parts can be gone through.
      have hfinite : v ≠ .cyclic := fun hv => hopens.finite [] rfl (congrArg some hv)
      rcases cases_of_hide_eq_error hfinite (hopens.keyed [] v · rfl rfl) h with
        ⟨s, -, hfault⟩ | ⟨i, part, hpart, hreplaces, hhide⟩
      · cases hbroken.symm.trans hfault
      · obtain ⟨w, hw⟩ :=
          ih part (List.mem_of_getElem? hpart) (hopens.part hpart hreplaces)
        cases hhide.symm.trans hw

theorem exists_maskString_iff (m : Masker) (s : String) :
    (∃ s', m.maskString s = .ok s') ↔ (m.enabled = true → m.broken = none) := by
  unfold maskString hideText
  cases m.enabled <;> cases m.broken <;> simp

theorem exists_maskFields_iff (fields : Fields) (hbroken : m.enabled = true → m.broken = none) :
    (∃ masked, m.maskFields fields = .ok masked) ↔
      (m.enabled = true → m.Opens fields.toValue) := by
  unfold maskFields
  split
  · next henabled =>
    rw [← exists_hide_iff (hbroken henabled), Fields.toValue, hide, hideEntries_toEntries]
    simp only [henabled, true_imp_iff]
    cases m.hideFields fields with
    | ok masked => exact iff_of_true ⟨_, rfl⟩ ⟨_, rfl⟩
    | error f =>
      refine iff_of_false ?_ ?_ <;>
        · rintro ⟨_, h⟩
          cases h
  · next henabled => exact ⟨fun _ h => absurd h henabled, fun _ => ⟨_, rfl⟩⟩

end Masker

/-! ## What a logger refuses -/

namespace Logger

variable {l : Logger} {level : Level} {message : String} {arguments : Fields}

/-- The names that are taken by the arguments of a call. -/
def takenNames : List String := ["self", "message", "level"]

theorem checkArguments_eq_ok_iff (level : Level) (arguments : Fields) :
    checkArguments level arguments = .ok () ↔ ∀ e ∈ arguments, e.1 ∉ takenNames := by
  have htaken : ∀ name : String, name ∈ takenNames ↔
      (name == "self" || name == "message") = true ∨ name = "level" := by
    simp [takenNames, or_assoc]
  unfold checkArguments
  split
  · next name v hfound =>
    have hmem := List.mem_of_find?_eq_some hfound
    have hname := List.find?_some hfound
    exact ⟨fun h => (nomatch h), fun h => absurd ((htaken name).2 (.inl hname)) (h _ hmem)⟩
  · next hfree =>
    rw [List.find?_eq_none] at hfree
    split
    · next hlevel =>
      obtain ⟨e, he, hname⟩ := List.mem_map.1 (Assoc.has_eq_true_iff.1 hlevel)
      exact ⟨fun h => (nomatch h), fun h => absurd ((htaken e.1).2 (.inr hname)) (h e he)⟩
    · next hlevel =>
      refine ⟨fun _ e he hname => ?_, fun _ => rfl⟩
      rcases (htaken e.1).1 hname with hself | hname
      · exact hfree e he hself
      · exact hlevel (Assoc.has_eq_true_iff.2 (List.mem_map.2 ⟨e, he, hname⟩))

/-- A call makes a record unless its masker is enabled and cannot read a replacement, or
cannot go through the fields. -/
theorem exists_record_iff (l : Logger) (level : Level) (message : String) (arguments : Fields)
    (context : Context) (now : Timestamp) :
    (∃ r, l.record level message arguments context now = .ok r) ↔
      (l.masker.enabled = true → l.masker.broken = none ∧
        l.masker.Opens (Fields.toValue (Assoc.remove arguments faultArgument))) := by
  constructor
  · rintro ⟨r, h⟩ henabled
    obtain ⟨shown, hshown, h⟩ := exists_of_bind_eq_ok h
    obtain ⟨extra, hextra, -⟩ := exists_of_bind_eq_ok h
    have hbroken := (l.masker.exists_maskString_iff message).1 ⟨shown, hshown⟩
    exact ⟨hbroken henabled, (Masker.exists_maskFields_iff _ hbroken).1 ⟨extra, hextra⟩ henabled⟩
  · intro h
    have hbroken : l.masker.enabled = true → l.masker.broken = none := fun henabled =>
      (h henabled).1
    obtain ⟨shown, hshown⟩ := (l.masker.exists_maskString_iff message).2 hbroken
    obtain ⟨extra, hextra⟩ :=
      (Masker.exists_maskFields_iff _ hbroken).2 fun henabled => (h henabled).2
    rw [record, hshown, hextra]
    exact ⟨_, rfl⟩

end Logger

/-! ## What becomes of a call -/

namespace Registry

variable {g g' : Registry} {i : Nat} {l : Logger} {level : Level} {message : String}
  {arguments : Fields} {context : Context} {now : Timestamp} {out : List Emission} {r : Record}

theorem log_of_disabled (hchecked : Logger.checkArguments level arguments = .ok ())
    (hlogger : g.loggers[i]? = some l) (hdisabled : l.isEnabled level = false) :
    g.log i level message arguments context now = .ok (g, []) := by
  simp only [log, hchecked, hlogger, hdisabled]
  rfl

theorem log_of_record (hchecked : Logger.checkArguments level arguments = .ok ())
    (hlogger : g.loggers[i]? = some l) (henabled : l.isEnabled level = true)
    (hrecord : l.record level message arguments context now = .ok r) :
    g.log i level message arguments context now =
      .ok ({ g with handlers := (offerAll g.handlers r l.handlers).1 },
        (offerAll g.handlers r l.handlers).2) := by
  simp only [log, hchecked, hlogger, henabled, if_true, hrecord]
  rfl

/-- A call through a logger that there is returns exactly if no name is taken and, where
records of the level are logged, a record can be made. -/
theorem exists_log_iff (hlogger : g.loggers[i]? = some l) (level : Level) (message : String)
    (arguments : Fields) (context : Context) (now : Timestamp) :
    (∃ g' out, g.log i level message arguments context now = .ok (g', out)) ↔
      (∀ e ∈ arguments, e.1 ∉ Logger.takenNames) ∧ (l.isEnabled level = true →
        ∃ r, l.record level message arguments context now = .ok r) := by
  rw [← Logger.checkArguments_eq_ok_iff level]
  constructor
  · rintro ⟨g', out, h⟩
    obtain ⟨⟨⟩, hchecked, h⟩ := exists_of_bind_eq_ok h
    refine ⟨hchecked, fun henabled => ?_⟩
    rw [hlogger] at h
    simp only [henabled, if_true] at h
    obtain ⟨r, hrecord, -⟩ := exists_of_bind_eq_ok h
    exact ⟨r, hrecord⟩
  · rintro ⟨hchecked, hrecord⟩
    cases henabled : l.isEnabled level with
    | false => exact ⟨_, _, log_of_disabled hchecked hlogger henabled⟩
    | true =>
      obtain ⟨r, hr⟩ := hrecord henabled
      exact ⟨_, _, log_of_record hchecked hlogger henabled hr⟩

/-- The one name that a call refuses besides those of its own arguments. -/
theorem not_mem_takenNames_iff
    (hnames : ∀ e ∈ arguments, e.1 ∉ ["message", "level", Logger.faultArgument]) :
    (∀ e ∈ arguments, e.1 ∉ Logger.takenNames) ↔ ∀ e ∈ arguments, e.1 ≠ "self" := by
  refine forall₂_congr fun e he => ?_
  have hfree := hnames e he
  simp only [List.mem_cons, List.not_mem_nil, or_false, not_or] at hfree
  simp [Logger.takenNames, hfree.1, hfree.2.1]

theorem remove_faultArgument
    (hnames : ∀ e ∈ arguments, e.1 ∉ ["message", "level", Logger.faultArgument]) :
    Assoc.remove arguments Logger.faultArgument = arguments := by
  refine List.filter_eq_self.2 fun e he => ?_
  have hfree := hnames e he
  simp only [List.mem_cons, List.not_mem_nil, or_false, not_or] at hfree
  simpa using hfree.2.2

/-- A call with named fields returns exactly if no field is named as the logger itself is and,
where records of the level are logged, an enabled masker can read its replacements and go
through the fields.  Then each handler was offered the record as often as the logger mentions
it, whichever of them failed, and nothing else has changed. -/
theorem log_returns_iff (hlogger : g.loggers[i]? = some l)
    (hnames : ∀ e ∈ arguments, e.1 ∉ ["message", "level", Logger.faultArgument])
    (level : Level) (message : String) (context : Context) (now : Timestamp) :
    ((∃ g' out, g.log i level message arguments context now = .ok (g', out)) ↔
      (∀ e ∈ arguments, e.1 ≠ "self") ∧
        (l.isEnabled level = true → l.masker.enabled = true →
          l.masker.broken = none ∧ l.masker.Opens arguments.toValue)) ∧
    ∀ g' out, g.log i level message arguments context now = .ok (g', out) →
      (l.isEnabled level = false → g' = g ∧ out = []) ∧
      (l.isEnabled level = true → ∃ r,
        l.record level message arguments context now = .ok r ∧
        g' = { g with handlers := g'.handlers } ∧
        (∀ h, g'.handlers[h]? = g.handlers[h]?.map (Handler.after r)^[l.handlers.count h]) ∧
        out = l.handlers.flatMap (emittedAt g.handlers r)) := by
  constructor
  · rw [exists_log_iff hlogger, not_mem_takenNames_iff hnames]
    refine and_congr_right fun _ => imp_congr_right fun _ => ?_
    rw [Logger.exists_record_iff, remove_faultArgument hnames]
  · intro g' out h
    obtain ⟨htaken, hrecord⟩ := (exists_log_iff hlogger ..).1 ⟨g', out, h⟩
    have hchecked := (Logger.checkArguments_eq_ok_iff level arguments).2 htaken
    constructor
    · intro hdisabled
      rw [log_of_disabled hchecked hlogger hdisabled] at h
      obtain ⟨rfl, rfl⟩ := Prod.mk.inj (Except.ok.inj h)
      exact ⟨rfl, rfl⟩
    · intro henabled
      obtain ⟨r, hr⟩ := hrecord henabled
      rw [log_of_record hchecked hlogger henabled hr] at h
      obtain ⟨rfl, rfl⟩ := Prod.mk.inj (Except.ok.inj h)
      exact ⟨r, hr, rfl, getElem?_offerAll _ r l.handlers, emitted_offerAll _ r l.handlers⟩

/-- A logger with a handler that fails, one that keeps two records, and one that hands them
over. -/
def crowded : Registry :=
  { handlers := [.failing, .buffer 2 [], .relay]
    loggers := [{ name := "t", level := .info, handlers := [0, 1, 2], masker := .standard }]
    named := [], level := .debug, defaults := [] }

/-- The handler that fails does not keep the record from the others. -/
theorem log_to_crowded :
    let now : Timestamp := ⟨2024, 1, 15, 10, 30, 45, 0⟩
    ∃ g' r, crowded.log 0 .info "hello" [("count", .int 1)] .empty now =
        .ok (g', [.record r]) ∧
      g'.handlers[1]? = some (.buffer 2 [r]) := by
  intro now
  have hnames : ∀ e ∈ [("count", Value.int 1)],
      e.1 ∉ ["message", "level", Logger.faultArgument] := by decide
  obtain ⟨hreturns, hlogged⟩ :=
    log_returns_iff (g := crowded) (i := 0) rfl hnames .info "hello" .empty now
  have hlegible : (Fields.toValue [("count", .int 1)]).Legible :=
    Value.legible_fields _ fun e he => by
      obtain rfl := List.mem_singleton.1 he
      exact Value.legible_of_parts_eq_nil (by simp) rfl rfl
  obtain ⟨g', out, h⟩ := hreturns.2
    ⟨by decide, fun _ _ => ⟨rfl, Masker.opens_of_legible _ hlegible⟩⟩
  obtain ⟨r, -, -, hhandlers, hout⟩ := (hlogged g' out h).2 rfl
  refine ⟨g', r, ?_, hhandlers 1⟩
  rw [h, hout]
  rfl

/-- An object that raises in place of its text, as a key below a field. -/
def textlessKey : Value :=
  .dict [(.textless "Unprintable" "an object" (.ofRuntime "no text"), .int 1)]

/-- What the key raises comes back from the call, and no handler is offered a record. -/
theorem log_textless_key :
    crowded.log 0 .info "hello" [("v", textlessKey)] .empty ⟨2024, 1, 15, 10, 30, 45, 0⟩ =
      .error (.ofRuntime "no text") := rfl

end Registry

end QueryTelemetry.Log
