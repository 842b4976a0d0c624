import QueryTelemetry.Proofs.Log.Acceptance
import QueryTelemetry.Proofs.Log.MaskedTexts
import QueryTelemetry.Proofs.Log.OwnFields

/-!
# Data that are masked once more

A masker covers the same places of what it has masked as of the data before, and leaves
the masks there (`covers_of_hide`, `hide_of_hide_iff`).  So it is a matter of the texts
that it shows whether it leaves the rest: of `masked_masked_iff` for the standard masker.

A logger masks its message and its fields before it makes the record, and a handler masks
the record.  The record reads as before there (`Record.ReadsAlike`): masking can change
what the context adds, but nothing that the logger has masked.

The condition is needed (`not_masking_again`).
-/

namespace QueryTelemetry.Log

namespace Masker

variable {m : Masker} {v w : Value}

/-! ## Data that a masker leaves as they are -/

theorem hideAll_eq_self {items : List Value} (h : ∀ v ∈ items, m.hide v = .ok v) :
    m.hideAll items = .ok items := by
  induction items with
  | nil => rfl
  | cons v rest ih =>
    obtain ⟨hfirst, hrest⟩ := List.forall_mem_cons.1 h
    rw [hideAll, hfirst, ih hrest]
    rfl

theorem hideEntries_eq_self {entries : Entries} (h : ∀ e ∈ entries, m.hideEntry e = .ok e.2) :
    m.hideEntries entries = .ok entries := by
  induction entries with
  | nil => rfl
  | cons e rest ih =>
    obtain ⟨hfirst, hrest⟩ := List.forall_mem_cons.1 h
    rw [hideEntries_cons, hfirst, ih hrest]
    rfl

/-- A value is left as it is if its parts are, and those that are to be replaced are masks. -/
theorem hide_eq_self (hfinite : v ≠ .cyclic) (hkeyed : ∀ key ∈ v.keys, ∃ s, key.toText = .ok s)
    (htext : ∀ s, v = .text s → m.hideText s = .ok s)
    (hparts : ∀ (i : Nat) (part : Value), v.parts[i]? = some part →
      if m.replaces v i then part = .text maskText else m.hide part = .ok part) :
    m.hide v = .ok v := by
  cases v with
  | text s =>
    rw [hide, htext s rfl]
    rfl
  | list items | tuple items =>
    rw [hide, hideAll_eq_self fun v hv => ?_]
    · rfl
    · obtain ⟨i, hi⟩ := List.getElem?_of_mem hv
      exact hparts i v hi
  | dict entries =>
    rw [hide, hideEntries_eq_self fun e he => ?_]
    · rfl
    · obtain ⟨i, hi⟩ := List.getElem?_of_mem he
      have hpart := hparts i e.2 (Value.getElem?_parts hi)
      rw [replaces_dict hi] at hpart
      split at hpart
      · next hnames => rw [hideEntry_of_names hnames, hpart]
      · next hnames =>
        obtain ⟨name, hname⟩ := hkeyed e.1 (List.mem_of_getElem? (Value.getElem?_keys hi))
        rw [hideEntry_of_not_names hname (by simpa using hnames), hpart]
  | cyclic => exact absurd rfl hfinite
  | _ => rfl

theorem keys_of_hide (h : m.hide v = .ok w) : w.keys = v.keys := by
  cases v with
  | dict entries =>
    obtain ⟨out, hout, rfl⟩ := exists_of_map_eq_ok h
    exact (getElem?_of_hideEntries hout).1
  | list items | tuple items | text s =>
    obtain ⟨out, -, rfl⟩ := exists_of_map_eq_ok h
    rfl
  | cyclic => cases h
  | _ =>
    obtain rfl := Except.ok.inj h
    rfl

theorem replaces_of_hide (h : m.hide v = .ok w) (i : Nat) : m.replaces w i = m.replaces v i := by
  rw [replaces, replaces, keys_of_hide h]

theorem parts_eq_none_of_hide (h : m.hide v = .ok w) {i : Nat} (hpart : v.parts[i]? = none) :
    w.parts[i]? = none := by
  rw [List.getElem?_eq_none_iff, length_parts_of_hide h]
  exact List.getElem?_eq_none_iff.1 hpart

/-- A masker covers the same places of what it has masked. -/
theorem covers_of_hide {place : List Nat} (h : m.hide v = .ok w) :
    m.covers w place = m.covers v place := by
  induction place generalizing v w with
  | nil => rw [covers, covers]
  | cons i place ih =>
    rw [covers, covers, replaces_of_hide h]
    cases hpart : v.parts[i]? with
    | none => rw [parts_eq_none_of_hide h hpart]
    | some part =>
      obtain ⟨part', hpart', hhide⟩ := exists_part_of_hide h hpart
      rw [hpart', Option.any_some, Option.any_some]
      split at hhide
      · next hreplaces => rw [hreplaces, Bool.true_or, Bool.true_or]
      · rw [ih hhide]

/-- A map that holds itself does not come out. -/
theorem ne_cyclic_of_hide (h : m.hide v = .ok w) : w ≠ .cyclic := by
  rintro rfl
  cases v with
  | dict entries | list items | tuple items | text s =>
    obtain ⟨out, -, hout⟩ := exists_of_map_eq_ok h
    cases hout
  | _ => cases h

/-- Texts come out only of a masker whose replacements can be read. -/
theorem broken_of_hide_text {s : String} (h : m.hide v = .ok (.text s)) : m.broken = none := by
  cases v with
  | text s' =>
    obtain ⟨out, hout, -⟩ := exists_of_map_eq_ok h
    exact broken_of_hideText hout
  | dict entries | list items | tuple items =>
    obtain ⟨out, -, hout⟩ := exists_of_map_eq_ok h
    cases hout
  | _ => cases h

/-- A property of every text of a value that a masker does not cover. -/
def ShownTexts (m : Masker) (P : String → Prop) (v : Value) : Prop :=
  ∀ place s, m.covers v place = false → v.at? place = some (.text s) → P s

namespace ShownTexts

variable {P Q : String → Prop}

theorem part {part : Value} {i : Nat} (h : m.ShownTexts P v) (hpart : v.parts[i]? = some part)
    (hreplaces : m.replaces v i = false) : m.ShownTexts P part := fun place s hplace htext =>
  h (i :: place) s (by rw [covers_cons hpart, hreplaces, hplace]; rfl)
    ((Value.at?_cons hpart place).trans htext)

theorem of_parts (htext : ∀ s, v = .text s → P s)
    (hparts : ∀ (i : Nat) (part : Value), v.parts[i]? = some part → m.replaces v i = false →
      m.ShownTexts P part) : m.ShownTexts P v := by
  intro place s hplace hs
  cases place with
  | nil => exact htext s (Option.some.inj hs)
  | cons i place =>
    obtain ⟨part, hpart, hs⟩ := Option.bind_eq_some_iff.1 hs
    rw [covers_cons hpart, Bool.or_eq_false_iff] at hplace
    exact hparts i part hpart hplace.1 place s hplace.2 hs

theorem text {s : String} (h : P s) : m.ShownTexts P (.text s) :=
  of_parts (fun _ htext => Value.text.inj htext ▸ h) (by simp [Value.parts])

end ShownTexts

/-- A masker leaves what it has masked exactly if its rules leave the texts there. -/
theorem hide_of_hide_iff (h : m.hide v = .ok w) :
    m.hide w = .ok w ↔ m.ShownTexts (fun s => m.applyRules s = s) w := by
  constructor
  · intro hself place s hplace htext
    have houtline := outline_hide_at hself hplace
    rw [htext, Option.map_some, Option.map_some] at houtline
    exact (Value.text.inj (Option.some.inj houtline)).symm
  · intro hrests
    induction v using Value.induction_on_parts generalizing w with
    | step v ih =>
      refine hide_eq_self (ne_cyclic_of_hide h) (fun key hkey => ?_) ?_ fun i part' hpart' => ?_
      · exact toText_of_hide h (keys_of_hide h ▸ hkey)
      · rintro s rfl
        rw [hideText, broken_of_hide_text h]
        exact congrArg Except.ok (hrests [] s rfl rfl)
      · cases hpart : v.parts[i]? with
        | none => cases (parts_eq_none_of_hide h hpart).symm.trans hpart'
        | some part =>
          obtain ⟨part'', hpart'', hhide⟩ := exists_part_of_hide h hpart
          obtain rfl := Option.some.inj (hpart'.symm.trans hpart'')
          rw [replaces_of_hide h]
          split at hhide
          · next hreplaces => rwa [if_pos hreplaces]
          · next hreplaces =>
            rw [if_neg hreplaces]
            refine ih part (List.mem_of_getElem? hpart) hhide (hrests.part hpart' ?_)
            rw [replaces_of_hide h]
            simpa using hreplaces

/-! ## What the standard masker leaves -/

/-- Every text that comes out and is not covered is what the rules leave of one. -/
theorem exists_text_of_hide {place : List Nat} {s : String} (h : m.hide v = .ok w)
    (hplace : m.covers w place = false) (htext : w.at? place = some (.text s)) :
    ∃ s', m.covers v place = false ∧ v.at? place = some (.text s') ∧ m.applyRules s' = s := by
  have hplace' := (covers_of_hide h).symm.trans hplace
  rcases hide_at h hplace' with ⟨-, hnone⟩ | ⟨u, u', hu, hu', hhide⟩
  · cases hnone.symm.trans htext
  · obtain rfl := Option.some.inj (hu'.symm.trans htext)
    have houtline := outline_of_hide hhide
    cases u with
    | text s' => exact ⟨s', hplace', hu, (Value.text.inj houtline).symm⟩
    | _ => cases houtline

/-- What the standard masker has masked it leaves as it is exactly if no address that it shows has a
password with a quotation mark. -/
theorem hide_standard_of_hide_iff (h : standard.hide v = .ok w) :
    standard.hide w = .ok w ↔ standard.ShownTexts (NoQuotedPassword ·.toList) w := by
  have htexts : ∀ place s, standard.covers w place = false → w.at? place = some (.text s) →
      (standard.applyRules s = s ↔ NoQuotedPassword s.toList) := by
    intro place s hplace htext
    obtain ⟨s', -, -, rfl⟩ := exists_text_of_hide h hplace htext
    rw [applyRules_standard, applyRules_standard, String.toList_ofList, String.ofList_inj]
    exact masked_masked_iff s'.toList
  rw [hide_of_hide_iff h]
  exact forall₄_congr htexts

theorem noQuotedPassword_of_hide (h : standard.hide v = .ok w)
    (hquotes : standard.ShownTexts ('"' ∉ ·.toList) v) :
    standard.ShownTexts (NoQuotedPassword ·.toList) w := by
  intro place s hplace htext
  obtain ⟨s', hplace', htext', rfl⟩ := exists_text_of_hide h hplace htext
  rw [applyRules_standard, String.toList_ofList]
  exact noQuotedPassword_masked (hquotes place s' hplace' htext')

/-! ## Fields -/

variable {fields masked : Fields}

theorem hide_toValue (m : Masker) (fields : Fields) :
    m.hide fields.toValue = Fields.toValue <$> m.hideFields fields := by
  rw [Fields.toValue, hide, hideEntries_toEntries]
  cases m.hideFields fields <;> rfl

theorem hide_toValue_eq_self_iff : m.hide fields.toValue = .ok fields.toValue ↔
    m.hideFields fields = .ok fields := by
  rw [hide_toValue]
  constructor
  · intro h
    obtain ⟨masked, hmasked, hvalue⟩ := exists_of_map_eq_ok h
    rw [hmasked, Fields.toValue_injective hvalue]
  · intro h
    rw [h]
    rfl

/-- Every field is masked on its own. -/
theorem exists_hideEntry_of_hideFields (h : m.hideFields fields = .ok masked) {name : String}
    (hv : Assoc.get? fields name = some v) :
    ∃ w, Assoc.get? masked name = some w ∧ m.hideEntry (.text name, v) = .ok w := by
  induction fields generalizing masked with
  | nil => cases hv
  | cons e fields ih =>
    rw [hideFields_cons] at h
    obtain ⟨item, hitem, h⟩ := exists_of_bind_eq_ok h
    obtain ⟨others, hothers, h⟩ := exists_of_bind_eq_ok h
    obtain rfl := Except.ok.inj h
    rw [Assoc.get?_cons] at hv ⊢
    split at hv
    · next hname =>
      obtain rfl := eq_of_beq hname
      obtain rfl := Option.some.inj hv
      exact ⟨item, if_pos hname, hitem⟩
    · next hname =>
      obtain ⟨w, hw, hentry⟩ := ih hothers hv
      exact ⟨w, (if_neg hname).trans hw, hentry⟩

theorem hideEntry_of_hideFields (h : m.hideFields fields = .ok fields) :
    ∀ e ∈ fields, m.hideEntry (.text e.1, e.2) = .ok e.2 := by
  induction fields with
  | nil => exact nofun
  | cons e fields ih =>
    rw [hideFields_cons] at h
    obtain ⟨item, hitem, h⟩ := exists_of_bind_eq_ok h
    obtain ⟨others, hothers, h⟩ := exists_of_bind_eq_ok h
    obtain ⟨hfirst, rfl⟩ := List.cons.inj (Except.ok.inj h)
    refine List.forall_mem_cons.2 ⟨?_, ih hothers⟩
    rw [hitem, ← hfirst]

theorem exists_hideFields_of_forall (h : ∀ e ∈ fields, ∃ w, m.hideEntry (.text e.1, e.2) = .ok w) :
    ∃ masked, m.hideFields fields = .ok masked := by
  induction fields with
  | nil => exact ⟨[], rfl⟩
  | cons e fields ih =>
    obtain ⟨⟨item, hitem⟩, hrest⟩ := List.forall_mem_cons.1 h
    obtain ⟨others, hothers⟩ := ih hrest
    exact ⟨(e.1, item) :: others, by rw [hideFields_cons, hitem, hothers]; rfl⟩

/-- A legible field can be masked. -/
theorem exists_hideEntry_of_legible (hbroken : m.broken = none) {e : String × Value}
    (h : e.2.Legible) : ∃ w, m.hideEntry (.text e.1, e.2) = .ok w := by
  cases hnames : m.names (.text e.1) with
  | true => exact ⟨_, hideEntry_of_names hnames⟩
  | false =>
    rw [hideEntry_of_not_names rfl hnames]
    exact exists_hide h (.inl hbroken)

end Masker

/-! ## Records -/

namespace Record

open Masker (standard)

/-- Masked fields show all that a record has of its own, its message and its fields, as the fields
did that were masked. -/
structure ShownAlike (r : Record) (fields masked : Fields) : Prop where
  names : Assoc.keys masked = Assoc.keys fields
  own : ∀ e : String × Value, e ∈ r.extra ∨ e = ("message", .text r.message) →
    Assoc.get? fields e.1 = some e.2 → Assoc.get? masked e.1 = some e.2

/-- A record reads as before where it is masked again, as a message for the host and as JSON. -/
structure ReadsAlike (r : Record) : Prop where
  host : ∀ logger, ∃ masked, r.ShownAlike r.fields masked ∧
    Handler.toHost logger standard r = (keyValues masked).map fun shown =>
      { logger := Handler.hostName (logger.getD r.logger), level := r.level
        message := if masked.isEmpty then r.message else r.message ++ " | " ++ shown
        exc := r.exc.bind Handler.faultShown }
  json : ∀ indent fields, r.toFields = .ok fields → ∃ masked, r.ShownAlike fields masked ∧
    Format.jsonLine standard indent r =
      Json.print { indent, sorted := false } (Fields.toValue masked)

variable {r : Record} {fields : Fields}

/-- Fields are shown alike if the record's own ones are left as they are. -/
theorem exists_shownAlike (hmessage : standard.hide (.text r.message) = .ok (.text r.message))
    (hextra : standard.hideFields r.extra = .ok r.extra)
    (hfields : ∀ e ∈ fields, e ∈ r.extra ∨ e.2.Legible) :
    ∃ masked, standard.maskFields fields = .ok masked ∧ r.ShownAlike fields masked := by
  have hown := Masker.hideEntry_of_hideFields hextra
  obtain ⟨masked, hmasked⟩ := Masker.exists_hideFields_of_forall (m := standard) fun e he => by
    rcases hfields e he with hmem | hlegible
    · exact ⟨e.2, hown e hmem⟩
    · exact Masker.exists_hideEntry_of_legible rfl hlegible
  refine ⟨masked, hmasked, Masker.keys_of_hideFields hmasked, fun e he hshown => ?_⟩
  obtain ⟨w, hw, hentry⟩ := Masker.exists_hideEntry_of_hideFields hmasked hshown
  have hsame : standard.hideEntry (.text e.1, e.2) = .ok e.2 := by
    rcases he with hmem | rfl
    · exact hown e hmem
    · have hnames : standard.names (.text "message") = false := by decide
      exact (Masker.hideEntry_of_not_names rfl hnames).trans hmessage
  rw [hw, Except.ok.inj (hentry.symm.trans hsame)]

/-- Every field of a record in a legible context is one of its own, or legible. -/
theorem legible_of_mem_fields (hcontext : ∀ e ∈ r.context.toFields, e.2.Legible) :
    ∀ e ∈ r.fields, e ∈ r.extra ∨ e.2.Legible := by
  intro e he
  rcases Assoc.mem_or_mem_of_mem_overlay he with hmem | hmem
  · exact .inr (hcontext e hmem)
  · exact .inl hmem

theorem legible_of_mem_toFields (hcontext : ∀ e ∈ r.context.toFields, e.2.Legible)
    (htoFields : r.toFields = .ok fields) : ∀ e ∈ fields, e ∈ r.extra ∨ e.2.Legible := by
  have hhead : ∀ e ∈ r.headFields, e ∈ r.extra ∨ e.2.Legible := by
    intro e he
    rcases Assoc.mem_or_mem_of_mem_overlay he with hmem | hmem
    · rcases Assoc.mem_or_mem_of_mem_overlay hmem with hmem | hmem
      · simp only [List.mem_cons, List.not_mem_nil, or_false] at hmem
        rcases hmem with rfl | rfl | rfl | rfl <;> exact .inr (Value.legible_text _)
      · exact .inr (hcontext e hmem)
    · exact .inl hmem
  intro e he
  unfold toFields at htoFields
  cases hexc : r.exc with
  | none =>
    rw [hexc] at htoFields
    exact hhead e (Except.ok.inj htoFields ▸ he)
  | some v =>
    rw [hexc] at htoFields
    obtain ⟨shown, -, htoFields⟩ := exists_of_bind_eq_ok htoFields
    obtain rfl := Except.ok.inj htoFields
    rcases Assoc.eq_or_mem_of_mem_put he with rfl | hmem
    · exact .inr (Value.legible_text _)
    · rcases Assoc.eq_or_mem_of_mem_put hmem with rfl | hmem
      · exact .inr (Value.legible_text _)
      · exact hhead e hmem

/-- A record reads as before if its message and its fields are left as they are. -/
theorem readsAlike_of_hide_eq_self
    (hmessage : standard.hide (.text r.message) = .ok (.text r.message))
    (hextra : standard.hideFields r.extra = .ok r.extra)
    (hcontext : ∀ e ∈ r.context.toFields, e.2.Legible) : r.ReadsAlike where
  host logger := by
    obtain ⟨masked, hmasked, hshown⟩ :=
      exists_shownAlike hmessage hextra (legible_of_mem_fields hcontext)
    refine ⟨masked, hshown, ?_⟩
    rw [Handler.toHost, hmasked]
    rfl
  json indent fields hfields := by
    obtain ⟨masked, hmasked, hshown⟩ :=
      exists_shownAlike hmessage hextra (legible_of_mem_toFields hcontext hfields)
    refine ⟨masked, hshown, ?_⟩
    rw [Format.jsonLine, hfields]
    simp only [bind, Except.bind, hmasked]

end Record

namespace Logger

open Masker (standard NoQuotedPassword)

variable {l : Logger}

/-- The record of a call reads as before where it is masked again, if no address that it shows has a
password with a quotation mark. -/
theorem exists_record_again {level : Level} {message : String} {arguments : Fields}
    {context : Context} {now : Timestamp} (hl : l.masker = standard)
    (harguments : ∀ e ∈ Assoc.remove arguments faultArgument, e.2.Legible)
    (hcontext : ∀ e ∈ context.toFields, e.2.Legible) :
    ∃ r, l.record level message arguments context now = .ok r ∧
      (NoQuotedPassword r.message.toList ∧
          standard.ShownTexts (NoQuotedPassword ·.toList) (Fields.toValue r.extra) →
        r.ReadsAlike) ∧
      ('"' ∉ message.toList ∧ standard.ShownTexts ('"' ∉ ·.toList)
            (Fields.toValue (Assoc.remove arguments faultArgument)) →
        r.ReadsAlike) := by
  obtain ⟨r, hr⟩ := (l.exists_record_iff level message arguments context now).2 fun _ => by
    rw [hl]
    exact ⟨rfl, Masker.opens_of_legible _ (Value.legible_fields _ harguments)⟩
  have hmessage := message_record hr
  have hextra := extra_record hr
  rw [hl] at hmessage hextra
  have htext : standard.hide (.text message) = .ok (.text r.message) :=
    congrArg (Value.text <$> ·) hmessage
  have hvalue : standard.hide (Fields.toValue (Assoc.remove arguments faultArgument)) =
      .ok (Fields.toValue r.extra) :=
    (Masker.hide_toValue _ _).trans (congrArg (Fields.toValue <$> ·) hextra)
  have hreads : standard.ShownTexts (NoQuotedPassword ·.toList) (.text r.message) →
      standard.ShownTexts (NoQuotedPassword ·.toList) (Fields.toValue r.extra) →
        r.ReadsAlike := fun hmessage hextra =>
    Record.readsAlike_of_hide_eq_self ((Masker.hide_standard_of_hide_iff htext).2 hmessage)
      (Masker.hide_toValue_eq_self_iff.1 ((Masker.hide_standard_of_hide_iff hvalue).2 hextra))
      (by rwa [context_record hr])
  refine ⟨r, hr, fun ⟨hmessage, hextra⟩ => ?_, fun ⟨hmessage, hextra⟩ => ?_⟩
  · exact hreads (.text hmessage) hextra
  · exact hreads (Masker.noQuotedPassword_of_hide htext (.text hmessage))
      (Masker.noQuotedPassword_of_hide hvalue hextra)

end Logger

open Masker (standard NoQuotedPassword)

/-- Masking once more changes what the standard masker leaves of a value exactly if a text that it
shows has an address with a quotation mark in the password.  So the message and the fields that a
logger has masked read as before where a handler masks them once more, unless they have such an
address.  Where no quotation mark is shown there is none. -/
theorem masking_again (v : Value) (hv : v.Legible) (l : Logger) (hl : l.masker = standard)
    (level : Level) (message : String) (arguments : Fields) (context : Context) (now : Timestamp)
    (harguments : ∀ e ∈ Assoc.remove arguments Logger.faultArgument, e.2.Legible)
    (hcontext : ∀ e ∈ context.toFields, e.2.Legible) :
    (∃ w, standard.maskValue v = .ok w ∧
      (standard.maskValue w = .ok w ↔ standard.ShownTexts (NoQuotedPassword ·.toList) w) ∧
      (standard.ShownTexts ('"' ∉ ·.toList) v → standard.maskValue w = .ok w)) ∧
    ∃ r, l.record level message arguments context now = .ok r ∧
      (NoQuotedPassword r.message.toList ∧
          standard.ShownTexts (NoQuotedPassword ·.toList) (Fields.toValue r.extra) →
        r.ReadsAlike) ∧
      ('"' ∉ message.toList ∧ standard.ShownTexts ('"' ∉ ·.toList)
            (Fields.toValue (Assoc.remove arguments Logger.faultArgument)) →
        r.ReadsAlike) := by
  refine ⟨?_, Logger.exists_record_again hl harguments hcontext⟩
  obtain ⟨w, hw⟩ := Masker.exists_hide (m := standard) hv (.inl rfl)
  have hiff := Masker.hide_standard_of_hide_iff hw
  exact ⟨w, hw, hiff, fun hquotes => hiff.2 (Masker.noQuotedPassword_of_hide hw hquotes)⟩

/-- An address with a token, beside a secret that has a quotation mark, and a call with secrets in
its message and in a field. -/
theorem masking_again_nested :
    let v := Value.tuple [.null,
      Fields.toValue [("Password", .text "a\"b"), ("url", .text "db://u:p@h?token=x")]]
    let l : Logger := { name := "t", level := .debug, handlers := [], masker := standard }
    let auth : Fields := [("auth", .text "Bearer abc")]
    v.Legible ∧ (∀ e ∈ Assoc.remove auth Logger.faultArgument, e.2.Legible) ∧
      (∃ w, standard.maskValue v = .ok w ∧ standard.maskValue w = .ok w) ∧
      ∃ r, l.record .info "password=hunter2" auth .empty ⟨2024, 1, 15, 10, 30, 45, 0⟩ = .ok r ∧
        r.ReadsAlike := by
  intro v l auth
  have hv : v.Legible := by
    refine Value.legible_tuple (List.forall_mem_cons.2 ⟨?_, List.forall_mem_singleton.2 ?_⟩)
    · exact Value.legible_of_parts_eq_nil (by simp) rfl rfl
    · exact Value.legible_fields _ (by simp [Value.legible_text])
  have hremove : Assoc.remove auth Logger.faultArgument = auth := by
    simp [auth, Assoc.remove, Logger.faultArgument]
  have hauth : ∀ e ∈ Assoc.remove auth Logger.faultArgument, e.2.Legible := by
    rw [hremove]
    exact List.forall_mem_singleton.2 (Value.legible_text _)
  obtain ⟨⟨w, hw, -, hsame⟩, r, hr, -, hreads⟩ :=
    masking_again v hv l rfl .info "password=hunter2" auth .empty ⟨2024, 1, 15, 10, 30, 45, 0⟩
      hauth (List.forall_mem_nil _)
  have hquotes : standard.ShownTexts ('"' ∉ ·.toList) v := by
    refine .of_parts (by simp [v]) fun i part hpart _ => ?_
    rcases i with _ | _ | i
    · obtain rfl := Option.some.inj hpart
      exact .of_parts (by simp) (by simp [Value.parts])
    · obtain rfl := Option.some.inj hpart
      refine .of_parts (by simp [Fields.toValue]) fun i part hpart hreplaces => ?_
      rcases i with _ | _ | i
      · exact absurd hreplaces (by decide)
      · obtain rfl := Option.some.inj hpart
        exact .text (by decide)
      · cases hpart
    · cases hpart
  have hfield : standard.ShownTexts ('"' ∉ ·.toList)
      (Fields.toValue (Assoc.remove auth Logger.faultArgument)) := by
    rw [hremove]
    refine .of_parts (by simp [Fields.toValue]) fun i part hpart _ => ?_
    rcases i with _ | i
    · obtain rfl := Option.some.inj hpart
      exact .text (by decide)
    · cases hpart
  exact ⟨hv, hauth, ⟨w, hw, hsame hquotes⟩, r, hr, hreads ⟨by decide, hfield⟩⟩

/-- A password in an address with a member of JSON text in it.  The member rule leaves a mask inside
of the password, where the address rule finds it the next time. -/
theorem not_masking_again :
    standard.maskValue (.text "://a:\"token\":\"x y\"@") =
      .ok (.text "://a:\"token\":\"***MASKED***\"@") ∧
    standard.maskValue (.text "://a:\"token\":\"***MASKED***\"@") =
      .ok (.text "://a:***MASKED***@") := by
  have hfirst : Masker.masked "://a:\"token\":\"x y\"@".toList =
      "://a:\"token\":\"***MASKED***\"@".toList := by decide +kernel
  have hsecond : Masker.masked "://a:\"token\":\"***MASKED***\"@".toList =
      "://a:***MASKED***@".toList := by decide +kernel
  have hmask : ∀ s, standard.maskValue (.text s) = .ok (.text (String.ofList
      (Masker.masked s.toList))) := by
    intro s
    rw [← Masker.applyRules_standard]
    rfl
  rw [hmask, hmask, hfirst, hsecond, String.ofList_toList, String.ofList_toList]
  exact ⟨rfl, rfl⟩

end QueryTelemetry.Log
