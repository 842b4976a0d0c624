import Mathlib
import QueryTelemetry.Proofs.Fault.Steps
import QueryTelemetry.Proofs.Json.Trees
import QueryTelemetry.Proofs.Log.PlainText
import QueryTelemetry.Proofs.Value.Places

/-!
# What a masker does to data

A masker replaces the entries of maps whose keys are among its names, and covers
what stands at or below such an entry.  Everywhere else data keep their shape, and
only texts are changed, by the rules (`Masker.hide_at`).  What is covered makes no
difference (`Masker.hide_congr`), and nothing that is covered is ever looked at, so
the one thing that can go wrong with legible data is a rule whose replacement cannot
be read (`Masker.hide_eq_error_iff`).  `Masker.maskValue_conceals` puts this
together.

Keys are compared in small letters, and names are taken as they were given.  So
`Masker.conceals_member_iff` says for which names the entries are replaced in
whatever letters their keys are written.
-/

namespace QueryTelemetry.Log.Masker

variable {m : Masker} {v w : Value} {f : Fault}

/-! ## Places that a masker covers -/

/-- Whether a key of a map is among the names, in small letters. -/
def names (m : Masker) (key : Value) : Bool :=
  match key.toText with
  | .ok s => m.isSecret s
  | .error _ => false

/-- Whether the part of a value at a position is the value of an entry that is
replaced. -/
def replaces (m : Masker) (v : Value) (i : Nat) : Bool := v.keys[i]?.any m.names

/-- Whether a place lies at or below an entry that is replaced. -/
def covers (m : Masker) : Value → List Nat → Bool
  | _, [] => false
  | v, i :: place => m.replaces v i || v.parts[i]?.any (m.covers · place)

/-- Some text is not covered. -/
def Exposes (m : Masker) (v : Value) : Prop :=
  ∃ place s, m.covers v place = false ∧ v.at? place = some (.text s)

/-- Two values look the same wherever the masker does not cover the first of
them. -/
def SameOutside (m : Masker) (v w : Value) : Prop :=
  ∀ place, m.covers v place = false →
    (w.at? place).map Value.outline = (v.at? place).map Value.outline

/-- A text with the rules applied; other data as they are. -/
def rewritten (m : Masker) : Value → Value
  | .text s => .text (m.applyRules s)
  | v => v

theorem covers_cons {part : Value} {i : Nat} (hpart : v.parts[i]? = some part) (place : List Nat) :
    m.covers v (i :: place) = (m.replaces v i || m.covers part place) := by
  rw [covers, hpart, Option.any_some]

theorem replaces_dict {entries : Entries} {e : Value × Value} {i : Nat}
    (he : entries[i]? = some e) : m.replaces (.dict entries) i = m.names e.1 := by
  rw [replaces, Value.getElem?_keys he, Option.any_some]

/-- Only entries of maps are replaced. -/
theorem exists_part_of_replaces {i : Nat} (h : m.replaces v i = true) :
    ∃ part, v.parts[i]? = some part := by
  obtain ⟨key, hkey, -⟩ := (Option.any_eq_true ..).1 h
  cases v with
  | dict entries =>
    obtain ⟨part, he⟩ := Value.exists_entry_of_key hkey
    exact ⟨part, Value.getElem?_parts he⟩
  | _ => cases hkey

/-! ## One level of masking -/

theorem hideText_eq_error_iff {s : String} : m.hideText s = .error f ↔ m.broken = some f := by
  unfold hideText
  cases m.broken <;> simp

theorem broken_of_hideText {s s' : String} (h : m.hideText s = .ok s') : m.broken = none := by
  unfold hideText at h
  cases hbroken : m.broken with
  | some g => simp [hbroken] at h
  | none => rfl

theorem applyRules_of_hideText {s s' : String} (h : m.hideText s = .ok s') :
    m.applyRules s = s' := by
  rw [hideText, broken_of_hideText h] at h
  exact Except.ok.inj h

/-- What becomes of the value of an entry. -/
def hideEntry (m : Masker) (e : Value × Value) : Except Fault Value := do
  let name ← e.1.toText
  if m.isSecret name then .ok (.text maskText) else m.hide e.2

theorem hideEntries_cons (m : Masker) (e : Value × Value) (rest : Entries) :
    m.hideEntries (e :: rest) = (do
      let item ← m.hideEntry e
      let others ← m.hideEntries rest
      .ok ((e.1, item) :: others)) := by
  obtain ⟨k, v⟩ := e
  rw [hideEntries, hideEntry]
  cases k.toText with
  | error g => rfl
  | ok name => cases hname : m.isSecret name <;> simp only [bind, Except.bind, hname] <;> rfl

theorem hideEntry_of_names {e : Value × Value} (h : m.names e.1 = true) :
    m.hideEntry e = .ok (.text maskText) := by
  unfold names at h
  split at h
  · next name hname => simp only [hideEntry, hname, bind, Except.bind, h, if_true]
  · cases h

theorem hideEntry_of_not_names {e : Value × Value} {name : String} (hname : e.1.toText = .ok name)
    (h : m.names e.1 = false) : m.hideEntry e = m.hide e.2 := by
  simp only [names, hname] at h
  simp only [hideEntry, hname, bind, Except.bind, h, Bool.false_eq_true, if_false]

theorem hideFields_cons (m : Masker) (e : String × Value) (rest : Fields) :
    m.hideFields (e :: rest) = (do
      let item ← m.hideEntry (.text e.1, e.2)
      let others ← m.hideFields rest
      .ok ((e.1, item) :: others)) := by
  obtain ⟨k, v⟩ := e
  have hkey : (Value.text k).toText = .ok k := rfl
  rw [hideFields, hideEntry]
  cases hname : m.isSecret k <;> simp only [hkey, bind, Except.bind, hname] <;> rfl

/-- Named data is masked as a map is. -/
theorem hideEntries_toEntries (m : Masker) (fields : Fields) :
    m.hideEntries fields.toEntries = Fields.toEntries <$> m.hideFields fields := by
  induction fields with
  | nil => rfl
  | cons e fields ih =>
    rw [Fields.toEntries_cons, hideEntries_cons, hideFields_cons, ih]
    cases m.hideEntry (.text e.1, e.2) with
    | error f => rfl
    | ok w => cases m.hideFields fields <;> rfl

/-- Named data keeps its names. -/
theorem keys_of_hideFields {fields masked : Fields} (h : m.hideFields fields = .ok masked) :
    Assoc.keys masked = Assoc.keys fields := by
  induction fields generalizing masked with
  | nil =>
    obtain rfl := Except.ok.inj h
    rfl
  | cons e fields ih =>
    rw [hideFields_cons] at h
    obtain ⟨w, -, h⟩ := exists_of_bind_eq_ok h
    obtain ⟨others, hothers, h⟩ := exists_of_bind_eq_ok h
    obtain rfl := Except.ok.inj h
    exact congrArg (e.1 :: ·) (ih hothers)

theorem keys_of_maskFields {fields masked : Fields} (h : m.maskFields fields = .ok masked) :
    Assoc.keys masked = Assoc.keys fields := by
  unfold maskFields at h
  split at h
  · exact keys_of_hideFields h
  · exact congrArg Assoc.keys (Except.ok.inj h).symm

/-- A list is masked item by item. -/
theorem getElem?_of_hideAll {items out : List Value} (h : m.hideAll items = .ok out) :
    out.length = items.length ∧
      ∀ (i : Nat) (v : Value), items[i]? = some v → ∃ w, out[i]? = some w ∧ m.hide v = .ok w := by
  induction items generalizing out with
  | nil =>
    obtain rfl := Except.ok.inj h
    exact ⟨rfl, fun i v hv => by simp at hv⟩
  | cons first rest ih =>
    obtain ⟨w, hw, h⟩ := exists_of_bind_eq_ok h
    obtain ⟨others, hothers, h⟩ := exists_of_bind_eq_ok h
    obtain rfl := Except.ok.inj h
    obtain ⟨hlength, hitems⟩ := ih hothers
    refine ⟨by rw [List.length_cons, List.length_cons, hlength], fun i v hv => ?_⟩
    cases i with
    | zero =>
      obtain rfl := Option.some.inj hv
      exact ⟨w, rfl, hw⟩
    | succ i => exact hitems i v hv

/-- A map is masked entry by entry. -/
theorem getElem?_of_hideEntries {entries out : Entries} (h : m.hideEntries entries = .ok out) :
    out.map (·.1) = entries.map (·.1) ∧
      ∀ (i : Nat) (e : Value × Value), entries[i]? = some e →
        ∃ w, out[i]? = some (e.1, w) ∧ m.hideEntry e = .ok w := by
  induction entries generalizing out with
  | nil =>
    obtain rfl := Except.ok.inj h
    exact ⟨rfl, fun i v hv => by simp at hv⟩
  | cons first rest ih =>
    rw [hideEntries_cons] at h
    obtain ⟨w, hw, h⟩ := exists_of_bind_eq_ok h
    obtain ⟨others, hothers, h⟩ := exists_of_bind_eq_ok h
    obtain rfl := Except.ok.inj h
    obtain ⟨hkeys, hentries⟩ := ih hothers
    refine ⟨by rw [List.map_cons, List.map_cons, hkeys], fun i e he => ?_⟩
    cases i with
    | zero =>
      obtain rfl := Option.some.inj he
      exact ⟨w, rfl, hw⟩
    | succ i => exact hentries i e he

/-- Masking keeps what a value looks like, except for a text. -/
theorem outline_of_hide (h : m.hide v = .ok w) : w.outline = m.rewritten v.outline := by
  cases v with
  | text s =>
    obtain ⟨s', hs', rfl⟩ := exists_of_map_eq_ok h
    rw [← applyRules_of_hideText hs']
    rfl
  | list items =>
    obtain ⟨out, hout, rfl⟩ := exists_of_map_eq_ok h
    exact Value.outline_list (getElem?_of_hideAll hout).1
  | tuple items =>
    obtain ⟨out, hout, rfl⟩ := exists_of_map_eq_ok h
    exact Value.outline_tuple (getElem?_of_hideAll hout).1
  | dict entries =>
    obtain ⟨out, hout, rfl⟩ := exists_of_map_eq_ok h
    exact Value.outline_dict (getElem?_of_hideEntries hout).1
  | cyclic => cases h
  | _ =>
    obtain rfl := Except.ok.inj h
    rfl

/-- Masking replaces the parts that are to be replaced, and masks the others. -/
theorem exists_part_of_hide {part : Value} {i : Nat} (h : m.hide v = .ok w)
    (hpart : v.parts[i]? = some part) :
    ∃ part', w.parts[i]? = some part' ∧
      if m.replaces v i then part' = .text maskText else m.hide part = .ok part' := by
  cases v with
  | list items | tuple items =>
    obtain ⟨out, hout, rfl⟩ := exists_of_map_eq_ok h
    exact (getElem?_of_hideAll hout).2 i part hpart
  | dict entries =>
    obtain ⟨out, hout, rfl⟩ := exists_of_map_eq_ok h
    obtain ⟨k, he⟩ := Value.exists_entry_of_part hpart
    obtain ⟨part', hpart', hentry⟩ := (getElem?_of_hideEntries hout).2 i _ he
    refine ⟨part', Value.getElem?_parts hpart', ?_⟩
    rw [replaces_dict he]
    split
    · next hnames =>
      rw [hideEntry_of_names hnames] at hentry
      exact (Except.ok.inj hentry).symm
    · next hnames =>
      obtain ⟨name, hname, -⟩ := exists_of_bind_eq_ok hentry
      rwa [hideEntry_of_not_names hname (by simpa using hnames)] at hentry
  | _ => cases hpart

theorem parts_rewritten (m : Masker) (v : Value) : (m.rewritten v).parts = v.parts := by
  cases v <;> rfl

theorem length_parts_of_hide (h : m.hide v = .ok w) : w.parts.length = v.parts.length := by
  rw [← Value.length_parts_outline w, outline_of_hide h, parts_rewritten,
    Value.length_parts_outline]

/-! ## Every place -/

/-- Masking a value masks what stands at a place that is not covered. -/
theorem hide_at {place : List Nat} (h : m.hide v = .ok w) (hplace : m.covers v place = false) :
    v.at? place = none ∧ w.at? place = none ∨
      ∃ u u', v.at? place = some u ∧ w.at? place = some u' ∧ m.hide u = .ok u' := by
  induction place generalizing v w with
  | nil => exact .inr ⟨v, w, rfl, rfl, h⟩
  | cons i place ih =>
    cases hpart : v.parts[i]? with
    | none =>
      have hnone : w.parts[i]? = none := by
        rw [List.getElem?_eq_none_iff, length_parts_of_hide h]
        exact List.getElem?_eq_none_iff.1 hpart
      exact .inl ⟨by rw [Value.at?, hpart, Option.bind_none],
        by rw [Value.at?, hnone, Option.bind_none]⟩
    | some part =>
      rw [covers_cons hpart, Bool.or_eq_false_iff] at hplace
      obtain ⟨part', hpart', hhide⟩ := exists_part_of_hide h hpart
      rw [hplace.1, if_neg Bool.false_ne_true] at hhide
      rw [Value.at?_cons hpart, Value.at?_cons hpart']
      exact ih hhide hplace.2

/-- Masked data look as before wherever nothing is covered, except that the rules
are applied to texts. -/
theorem outline_hide_at {place : List Nat} (h : m.hide v = .ok w)
    (hplace : m.covers v place = false) :
    (w.at? place).map Value.outline = (v.at? place).map fun u => m.rewritten u.outline := by
  rcases hide_at h hplace with ⟨hv, hw⟩ | ⟨u, u', hv, hw, hhide⟩
  · rw [hv, hw]
    rfl
  · rw [hv, hw, Option.map_some, Option.map_some, outline_of_hide hhide]

/-- An entry that is to be replaced, and is not below another one, is replaced by
the mask. -/
theorem hide_at_entry {place : List Nat} {u : Value} {i : Nat} (h : m.hide v = .ok w)
    (hplace : m.covers v place = false) (hu : v.at? place = some u)
    (hreplaces : m.replaces u i = true) : w.at? (place ++ [i]) = some (.text maskText) := by
  rcases hide_at h hplace with ⟨hv, -⟩ | ⟨u₁, u', hv, hw, hhide⟩
  · cases hu.symm.trans hv
  obtain rfl := Option.some.inj (hu.symm.trans hv)
  obtain ⟨part, hpart⟩ := exists_part_of_replaces hreplaces
  obtain ⟨part', hpart', hmask⟩ := exists_part_of_hide hhide hpart
  rw [hreplaces, if_pos rfl] at hmask
  rw [Value.at?_append, hw, Option.bind_some, Value.at?_cons hpart', hmask]
  rfl

/-! ## What is covered makes no difference -/

theorem hideAll_congr {items items' : List Value} (hlength : items'.length = items.length)
    (h : ∀ (i : Nat) (v w : Value), items[i]? = some v → items'[i]? = some w →
      m.hide w = m.hide v) : m.hideAll items' = m.hideAll items := by
  induction items generalizing items' with
  | nil =>
    obtain rfl := List.length_eq_zero_iff.1 hlength
    rfl
  | cons v rest ih =>
    obtain ⟨w, rest', rfl⟩ := List.exists_cons_of_length_eq_add_one hlength
    have hfirst : m.hide w = m.hide v := h 0 v w rfl rfl
    have hrest : m.hideAll rest' = m.hideAll rest :=
      ih (Nat.succ.inj hlength) fun i v w hv hw => h (i + 1) v w hv hw
    rw [hideAll, hideAll, hfirst, hrest]

theorem hideEntries_congr {entries entries' : Entries}
    (hkeys : entries'.map (·.1) = entries.map (·.1))
    (h : ∀ (i : Nat) (k v w : Value), entries[i]? = some (k, v) → entries'[i]? = some (k, w) →
      m.names k = false → m.hide w = m.hide v) :
    m.hideEntries entries' = m.hideEntries entries := by
  induction entries generalizing entries' with
  | nil =>
    obtain rfl := List.map_eq_nil_iff.1 hkeys
    rfl
  | cons e rest ih =>
    obtain ⟨k, v⟩ := e
    obtain ⟨⟨k', w⟩, rest', rfl, hkey, hkeys'⟩ := List.map_eq_cons_iff.1 hkeys
    obtain rfl : k' = k := hkey
    have hfirst : m.hideEntry (k', w) = m.hideEntry (k', v) := by
      cases hname : k'.toText with
      | error g => simp only [hideEntry, hname, bind, Except.bind]
      | ok name =>
        cases hnames : m.names k' with
        | true => rw [hideEntry_of_names hnames, hideEntry_of_names hnames]
        | false =>
          rw [hideEntry_of_not_names hname hnames, hideEntry_of_not_names hname hnames]
          exact h 0 k' v w rfl rfl hnames
    have hrest : m.hideEntries rest' = m.hideEntries rest :=
      ih hkeys' fun i k v w hv hw => h (i + 1) k v w hv hw
    rw [hideEntries_cons, hideEntries_cons, hfirst, hrest]

/-- Values that look the same outside of what is covered are masked alike. -/
theorem hide_congr (h : m.SameOutside v w) : m.hide w = m.hide v := by
  induction v using Value.induction_on_parts generalizing w with
  | step v ih =>
    have houtline : w.outline = v.outline := Option.some.inj (h [] rfl)
    have hparts : ∀ (i : Nat) (part part' : Value), v.parts[i]? = some part →
        w.parts[i]? = some part' → m.replaces v i = false → m.hide part' = m.hide part := by
      intro i part part' hpart hpart' hreplaces
      refine ih part (List.mem_of_getElem? hpart) fun place hplace => ?_
      have hsame := h (i :: place) (by rw [covers_cons hpart, hreplaces, hplace]; rfl)
      rwa [Value.at?_cons hpart, Value.at?_cons hpart'] at hsame
    rcases Value.cases_of_outline_eq houtline with ⟨items, items', rfl, rfl, hlength⟩ |
      ⟨items, items', rfl, rfl, hlength⟩ | ⟨entries, entries', rfl, rfl, hkeys⟩ | rfl
    · rw [hide, hide, hideAll_congr hlength fun i v w hv hw => hparts i v w hv hw rfl]
    · rw [hide, hide, hideAll_congr hlength fun i v w hv hw => hparts i v w hv hw rfl]
    · rw [hide, hide, hideEntries_congr hkeys fun i k v w hv hw hnames =>
        hparts i v w (Value.getElem?_parts hv) (Value.getElem?_parts hw)
          ((replaces_dict hv).trans hnames)]
    · rfl

/-! ## What can go wrong -/

theorem exists_of_hideAll_eq_error {items : List Value} (h : m.hideAll items = .error f) :
    ∃ (i : Nat) (v : Value), items[i]? = some v ∧ m.hide v = .error f := by
  induction items with
  | nil => cases h
  | cons v rest ih =>
    rcases eq_error_of_bind_eq_error h with h | ⟨w, -, h⟩
    · exact ⟨0, v, rfl, h⟩
    rcases eq_error_of_bind_eq_error h with h | ⟨others, -, h⟩
    · obtain ⟨i, v, hv, hhide⟩ := ih h
      exact ⟨i + 1, v, hv, hhide⟩
    · cases h

theorem exists_of_hideEntries_eq_error {entries : Entries} (h : m.hideEntries entries = .error f) :
    ∃ (i : Nat) (e : Value × Value), entries[i]? = some e ∧ m.hideEntry e = .error f := by
  induction entries with
  | nil => cases h
  | cons e rest ih =>
    rw [hideEntries_cons] at h
    rcases eq_error_of_bind_eq_error h with h | ⟨w, -, h⟩
    · exact ⟨0, e, rfl, h⟩
    rcases eq_error_of_bind_eq_error h with h | ⟨others, -, h⟩
    · obtain ⟨i, e, he, hhide⟩ := ih h
      exact ⟨i + 1, e, he, hhide⟩
    · cases h

/-- Masking data with keys that have a text fails at a text, or at a part that is not replaced. -/
theorem cases_of_hide_eq_error (hfinite : v ≠ .cyclic)
    (hkeyed : ∀ key ∈ v.keys, ∃ s, key.toText = .ok s) (h : m.hide v = .error f) :
    (∃ s, v = .text s ∧ m.broken = some f) ∨
      ∃ (i : Nat) (part : Value), v.parts[i]? = some part ∧ m.replaces v i = false ∧
        m.hide part = .error f := by
  cases v with
  | text s => exact .inl ⟨s, rfl, hideText_eq_error_iff.1 (eq_error_of_map_eq_error h)⟩
  | list items | tuple items =>
    obtain ⟨i, part, hpart, hhide⟩ := exists_of_hideAll_eq_error (eq_error_of_map_eq_error h)
    exact .inr ⟨i, part, hpart, rfl, hhide⟩
  | dict entries =>
    obtain ⟨i, e, he, hentry⟩ := exists_of_hideEntries_eq_error (eq_error_of_map_eq_error h)
    obtain ⟨name, hname⟩ := hkeyed e.1 (List.mem_of_getElem? (Value.getElem?_keys he))
    refine .inr ⟨i, e.2, Value.getElem?_parts he, ?_, ?_⟩
    · rw [replaces_dict he]
      refine Bool.eq_false_iff.2 fun hnames => ?_
      cases (hideEntry_of_names hnames).symm.trans hentry
    · rwa [hideEntry_of_not_names hname] at hentry
      refine Bool.eq_false_iff.2 fun hnames => ?_
      cases (hideEntry_of_names hnames).symm.trans hentry
  | cyclic => exact absurd rfl hfinite
  | _ => cases h

/-- Masking legible data fails exactly if a replacement of a rule cannot be read and
there is a text that is not covered. -/
theorem hide_eq_error_iff (hlegible : v.Legible) :
    m.hide v = .error f ↔ m.broken = some f ∧ m.Exposes v := by
  have hfails : ∀ g, m.hide v = .error g → m.broken = some g ∧ m.Exposes v := by
    intro g h
    induction v using Value.induction_on_parts with
    | step v ih =>
      have hfinite : v ≠ .cyclic := fun hv => hlegible.finite [] (congrArg some hv)
      rcases cases_of_hide_eq_error hfinite (hlegible.keyed [] v · rfl) h with ⟨s, rfl, hbroken⟩ |
        ⟨i, part, hpart, hreplaces, hhide⟩
      · exact ⟨hbroken, [], s, rfl, rfl⟩
      · obtain ⟨hbroken, place, s, hplace, htext⟩ :=
          ih part (List.mem_of_getElem? hpart) (hlegible.part hpart) hhide
        refine ⟨hbroken, i :: place, s, ?_, ?_⟩
        · rw [covers_cons hpart, hreplaces, hplace]
          rfl
        · rw [Value.at?_cons hpart, htext]
  constructor
  · exact hfails f
  · rintro ⟨hbroken, place, s, hplace, htext⟩
    cases h : m.hide v with
    | error g =>
      obtain rfl := Option.some.inj ((hfails g h).1.symm.trans hbroken)
      rfl
    | ok w =>
      -- The text has been masked, so every replacement can be read.
      rcases hide_at h hplace with ⟨hnone, -⟩ | ⟨u, u', hu, -, hhide⟩
      · cases htext.symm.trans hnone
      obtain rfl := Option.some.inj (htext.symm.trans hu)
      obtain ⟨s', hs', -⟩ := exists_of_map_eq_ok hhide
      cases (broken_of_hideText hs').symm.trans hbroken

/-- Every other legible value is masked. -/
theorem exists_hide (hlegible : v.Legible) (hreadable : m.broken = none ∨ ¬ m.Exposes v) :
    ∃ w, m.hide v = .ok w := by
  cases h : m.hide v with
  | ok w => exact ⟨w, rfl⟩
  | error f =>
    obtain ⟨hbroken, hexposes⟩ := (hide_eq_error_iff hlegible).1 h
    rcases hreadable with hnone | hcovered
    · cases hnone.symm.trans hbroken
    · exact absurd hexposes hcovered

/-! ## What is concealed -/

theorem names_eq_true_iff {key : Value} {name : String} (hname : key.toText = .ok name) :
    m.names key = true ↔ Text.lower name ∈ m.keys := by
  simp only [names, hname]
  exact List.contains_iff_mem

/-- What a masker leaves of a value.  Outside of what is covered it looks as before,
but for the texts, and the entries that are to be replaced have the mask for their
value. -/
structure Conceals (m : Masker) (v w : Value) : Prop where
  shape : ∀ place, m.covers v place = false →
    (w.at? place).map Value.outline = (v.at? place).map fun u => m.rewritten u.outline
  entry : ∀ (place : List Nat) (entries : Entries) (i : Nat) (key item : Value) (name : String),
    m.covers v place = false → v.at? place = some (.dict entries) →
    entries[i]? = some (key, item) → key.toText = .ok name → Text.lower name ∈ m.keys →
    w.at? (place ++ [i]) = some (.text maskText)

theorem conceals_of_hide (h : m.hide v = .ok w) : m.Conceals v w where
  shape _ hplace := outline_hide_at h hplace
  entry _ _ _ _ _ _ hplace hentries he hname hmem :=
    hide_at_entry h hplace hentries
      ((replaces_dict he).trans ((names_eq_true_iff hname).2 hmem))

/-- An enabled masker refuses legible data only for a replacement that cannot be
read, and only if a text outside of what it covers has to be rewritten.  Otherwise it
conceals the secrets, and the result does not depend on what it covers. -/
theorem maskValue_conceals (m : Masker) (v : Value) (henabled : m.enabled = true)
    (hlegible : v.Legible) :
    (∀ f, m.maskValue v = .error f ↔ m.broken = some f ∧ m.Exposes v) ∧
    (m.broken = none ∨ ¬ m.Exposes v → ∃ w, m.maskValue v = .ok w ∧ m.Conceals v w ∧
      ∀ v', m.SameOutside v v' → m.maskValue v' = .ok w) := by
  have hmask : ∀ u, m.maskValue u = m.hide u := fun u => by rw [maskValue, if_pos henabled]
  refine ⟨fun f => by rw [hmask, hide_eq_error_iff hlegible], fun hreadable => ?_⟩
  obtain ⟨w, h⟩ := exists_hide hlegible hreadable
  refine ⟨w, by rw [hmask, h], conceals_of_hide h, fun v' hsame => ?_⟩
  rw [hmask, hide_congr hsame, h]

/-- A query with a password among its variables. -/
theorem maskValue_conceals_password :
    let v (secret : Value) : Value :=
      .dict [(.text "login", .list [.null, .dict [(.text "Password", secret)]])]
    ∃ w, standard.maskValue (v (.text "hunter2")) = .ok w ∧
      w.at? [0, 1, 0] = some (.text maskText) ∧ standard.maskValue (v .null) = .ok w := by
  intro v
  have hleaf : Value.null.Legible ∧ (Value.text "hunter2").Legible :=
    ⟨Value.legible_of_parts_eq_nil (by simp) rfl rfl,
      Value.legible_of_parts_eq_nil (by simp) rfl rfl⟩
  have hinner : (Fields.toValue [("Password", .text "hunter2")]).Legible :=
    Value.legible_fields _ (by simpa using hleaf.2)
  have hlegible : (v (.text "hunter2")).Legible := by
    refine Value.legible_fields [("login", _)] ?_
    simpa using Value.legible_list (by simpa using ⟨hleaf.1, hinner⟩)
  obtain ⟨-, hconceals⟩ := maskValue_conceals standard (v (.text "hunter2")) rfl hlegible
  obtain ⟨w, hw, hconcealed, hsame⟩ := hconceals (.inl rfl)
  refine ⟨w, hw, ?_, hsame _ ?_⟩
  · exact hconcealed.entry [0, 1] _ 0 _ _ "Password" (by decide) rfl rfl rfl (by decide)
  · intro place hplace
    match place with
    | [] | [0] | [0, 1] | 0 :: 0 :: _ | (_ + 1) :: _ | 0 :: (_ + 2) :: _
    | 0 :: 1 :: (_ + 1) :: _ => rfl
    | 0 :: 1 :: 0 :: _ => cases hplace

/-- A masker with a replacement that cannot be read.  It refuses a text that its
pattern does not occur in. -/
theorem maskValue_refuses_text : ∃ m, ofTexts true [("a", "\\2")] [] = .ok m ∧
    m.enabled = true ∧ (Value.text "x").Legible ∧
    m.maskValue (.text "x") =
      .error (.plain .pattern "invalid group reference 2 at position 1") := by
  have hpattern : ReadPattern.ofText "a" =
      .ok { pattern := .char .ignored 'a', groups := 0, names := [] } := by cbv
  have hreplacement : Replacement.ofText
      { pattern := .char .ignored 'a', groups := 0, names := [] } "\\2" =
      .error { cause := .noGroup 2, position := some 1 } := by cbv
  have hmake : ofTexts true [("a", "\\2")] [] =
      .ok { standard with
        rules := []
        broken := some (.plain .pattern "invalid group reference 2 at position 1") } := by
    simp only [ofTexts, readRules, hpattern, hreplacement, bind, Except.bind]
    rfl
  exact ⟨_, hmake, rfl, Value.legible_of_parts_eq_nil (by simp) rfl rfl, rfl⟩

/-! ## Names in any letters -/

theorem keys_make {keys : List String} (hkeys : keys ≠ []) (enabled : Bool) (rules : List Rule) :
    (make enabled rules keys).keys = keys :=
  if_neg (by simpa using hkeys)

/-- An entry whose key is not among the names is masked like other data. -/
theorem hide_entry_of_not_names {name : String} (h : m.isSecret name = false)
    (hitem : m.hide v = .ok w) :
    m.hide (.dict [(.text name, v)]) = .ok (.dict [(.text name, w)]) := by
  have hentry : m.hideEntry (.text name, v) = .ok w :=
    (hideEntry_of_not_names rfl (show m.names (.text name) = false from h)).trans hitem
  rw [hide, hideEntries_cons, hentry]
  rfl

/-- The entries of a name are replaced in whatever letters their keys are written,
in all legible data, exactly if the masker has the name in small letters. -/
theorem conceals_member_iff (rules : List Rule) (keys : List String) (hkeys : keys ≠ [])
    (member : String) :
    (∀ v : Value, v.Legible → ∃ w, (make true rules keys).maskValue v = .ok w ∧
      ∀ (place : List Nat) (entries : Entries) (i : Nat) (key : String) (item : Value),
        v.at? place = some (.dict entries) → entries[i]? = some (.text key, item) →
        Text.lower key = Text.lower member →
        (make true rules keys).covers v place = true ∨
          w.at? (place ++ [i]) = some (.text maskText)) ↔
    Text.lower member ∈ keys := by
  constructor
  · intro h
    refine Classical.byContradiction fun hmem => ?_
    have hsecret : (make true rules keys).isSecret member = false := by
      refine Bool.eq_false_iff.2 fun hsecret => hmem ?_
      rw [← keys_make hkeys true rules]
      exact List.contains_iff_mem.1 hsecret
    have hlegible : (Value.dict [(.text member, .null)]).Legible :=
      Value.legible_fields [(member, _)]
        (by simpa using Value.legible_of_parts_eq_nil (by simp) rfl rfl)
    obtain ⟨w, hw, hreplaced⟩ := h _ hlegible
    obtain rfl := Except.ok.inj ((hide_entry_of_not_names hsecret (v := .null) rfl).symm.trans hw)
    rcases hreplaced [] _ 0 member .null rfl rfl rfl with hcovers | hmask
    · cases hcovers
    · cases hmask
  · intro hmem v hlegible
    obtain ⟨w, hw⟩ := exists_hide (m := make true rules keys) hlegible (.inl rfl)
    have hconcealed := conceals_of_hide hw
    refine ⟨w, hw, fun place entries i key item hplace he hkey => ?_⟩
    refine Classical.or_iff_not_imp_left.2 fun hcovers => ?_
    refine hconcealed.entry place entries i _ item key (by simpa using hcovers) hplace he rfl ?_
    rwa [hkey, keys_make hkeys]

/-- A name given in small letters. -/
theorem conceals_member_ssn : ∃ w,
    (make true [] ["ssn"]).maskValue (.tuple [.dict [(.text "SSN", .text "123")]]) = .ok w ∧
      w.at? [0, 0] = some (.text maskText) := by
  have hentry : (Fields.toValue [("SSN", .text "123")]).Legible :=
    Value.legible_fields _ (by simpa using Value.legible_of_parts_eq_nil (by simp) rfl rfl)
  have hlegible : (Value.tuple [Fields.toValue [("SSN", .text "123")]]).Legible :=
    Value.legible_tuple (by simpa using hentry)
  obtain ⟨w, hw, hreplaced⟩ :=
    (conceals_member_iff [] ["ssn"] (by simp) "ssn").2 (by decide) _ hlegible
  refine ⟨w, hw, (hreplaced [0] _ 0 "SSN" _ rfl rfl (by decide)).resolve_left ?_⟩
  decide

/-- A name given in capitals.  The entry is kept although its key is that very
name. -/
theorem not_conceals_member_ssn :
    (make true [] ["SSN"]).maskValue (.dict [(.text "SSN", .text "123")]) =
      .ok (.dict [(.text "SSN", .text "123")]) := by
  have hmarks : isMark '1' = false ∧ isMark '2' = false ∧ isMark '3' = false := by decide
  have hplain : (make true [] ["SSN"]).applyRules "123" = "123" :=
    applyRules_of_plain rfl (by simpa using hmarks)
  refine hide_entry_of_not_names (by decide) ?_
  rw [hide, hideText, show (make true [] ["SSN"]).broken = none from rfl]
  simp only [hplain]
  rfl

end QueryTelemetry.Log.Masker
