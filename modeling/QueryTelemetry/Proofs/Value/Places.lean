import QueryTelemetry.Value.Text

/-!
# Places in data

Lists, tuples and maps have parts, and a place says how to get from a value to one
of its parts, to a part of that, and so on.  `Value.outline` is what a value looks
like when its parts are not looked at, so the outlines at all places say everything
about a value.  Induction on values goes by their parts (`induction_on_parts`).
-/

namespace QueryTelemetry.Value

/-! ## Parts -/

/-- The items of a list or a tuple, and the values of a map. -/
def parts : Value → List Value
  | .list items | .tuple items => items
  | .dict entries => entries.map (·.2)
  | _ => []

/-- The keys of a map. -/
def keys : Value → List Value
  | .dict entries => entries.map (·.1)
  | _ => []

/-- A value with null for each of its parts.  It keeps the kind and the length of
lists and tuples and the keys of maps, and is the value itself for what has no
parts. -/
def outline : Value → Value
  | .list items => .list (items.map fun _ => .null)
  | .tuple items => .tuple (items.map fun _ => .null)
  | .dict entries => .dict (entries.map fun e => (e.1, .null))
  | v => v

theorem sizeOf_lt_of_mem_parts {v part : Value} (h : part ∈ v.parts) : sizeOf part < sizeOf v := by
  cases v with
  | list items | tuple items =>
    have hsize : sizeOf part < sizeOf items := List.sizeOf_lt_of_mem h
    simp only [list.sizeOf_spec, tuple.sizeOf_spec]
    omega
  | dict entries =>
    obtain ⟨⟨k, part⟩, he, rfl⟩ := List.mem_map.1 h
    have hsize : sizeOf (k, part) < sizeOf entries := List.sizeOf_lt_of_mem he
    simp only [dict.sizeOf_spec, Prod.mk.sizeOf_spec] at hsize ⊢
    omega
  | _ => cases h

/-- What holds of a value whenever it holds of its parts holds of every value. -/
theorem induction_on_parts {P : Value → Prop} (step : ∀ v, (∀ part ∈ v.parts, P part) → P v)
    (v : Value) : P v :=
  step v fun part _ => induction_on_parts step part
termination_by sizeOf v
decreasing_by exact sizeOf_lt_of_mem_parts ‹_›

theorem exists_entry_of_part {entries : Entries} {part : Value} {i : Nat}
    (h : (dict entries).parts[i]? = some part) : ∃ k, entries[i]? = some (k, part) := by
  rw [parts, List.getElem?_map] at h
  obtain ⟨⟨k, v⟩, he, rfl⟩ := Option.map_eq_some_iff.1 h
  exact ⟨k, he⟩

theorem exists_entry_of_key {entries : Entries} {key : Value} {i : Nat}
    (h : (dict entries).keys[i]? = some key) : ∃ v, entries[i]? = some (key, v) := by
  rw [keys, List.getElem?_map] at h
  obtain ⟨⟨k, v⟩, he, rfl⟩ := Option.map_eq_some_iff.1 h
  exact ⟨v, he⟩

theorem getElem?_parts {entries : Entries} {e : Value × Value} {i : Nat}
    (h : entries[i]? = some e) : (dict entries).parts[i]? = some e.2 := by
  rw [parts, List.getElem?_map, h, Option.map_some]

theorem getElem?_keys {entries : Entries} {e : Value × Value} {i : Nat}
    (h : entries[i]? = some e) : (dict entries).keys[i]? = some e.1 := by
  rw [keys, List.getElem?_map, h, Option.map_some]

theorem length_parts_outline (v : Value) : v.outline.parts.length = v.parts.length := by
  cases v <;> simp [outline, parts]

theorem outline_list {items items' : List Value} (h : items'.length = items.length) :
    (list items').outline = (list items).outline := by
  rw [outline, outline, List.map_const', List.map_const', h]

theorem outline_tuple {items items' : List Value} (h : items'.length = items.length) :
    (tuple items').outline = (tuple items).outline := by
  rw [outline, outline, List.map_const', List.map_const', h]

theorem outline_dict {entries entries' : Entries}
    (h : entries'.map (·.1) = entries.map (·.1)) :
    (dict entries').outline = (dict entries).outline := by
  have hmap : ∀ es : Entries, es.map (fun e => (e.1, null)) =
      (es.map (·.1)).map fun k => (k, null) := fun es => by rw [List.map_map]; rfl
  rw [outline, outline, hmap, hmap, h]

/-- How two values can look the same. -/
theorem cases_of_outline_eq {v w : Value} (h : w.outline = v.outline) :
    (∃ items items', v = .list items ∧ w = .list items' ∧ items'.length = items.length) ∨
    (∃ items items', v = .tuple items ∧ w = .tuple items' ∧ items'.length = items.length) ∨
    (∃ entries entries', v = .dict entries ∧ w = .dict entries' ∧
      entries'.map (·.1) = entries.map (·.1)) ∨
    w = v := by
  cases v with
  | list items =>
    cases w with
    | list items' =>
      have hlength := congrArg List.length (list.inj h)
      exact .inl ⟨items, items', rfl, rfl, by simpa using hlength⟩
    | _ => cases h
  | tuple items =>
    cases w with
    | tuple items' =>
      have hlength := congrArg List.length (tuple.inj h)
      exact .inr (.inl ⟨items, items', rfl, rfl, by simpa using hlength⟩)
    | _ => cases h
  | dict entries =>
    cases w with
    | dict entries' =>
      have hkeys := congrArg (List.map (·.1)) (dict.inj h)
      rw [List.map_map, List.map_map] at hkeys
      exact .inr (.inr (.inl ⟨entries, entries', rfl, rfl, hkeys⟩))
    | _ => cases h
  | _ =>
    cases w with
    | list _ | tuple _ | dict _ => cases h
    | _ => exact .inr (.inr (.inr h))

/-! ## Places -/

/-- What stands at a place of a value.  A place lists positions among the parts, the
outermost first. -/
def at? (v : Value) : List Nat → Option Value
  | [] => some v
  | i :: place => v.parts[i]?.bind (·.at? place)

theorem at?_cons {v part : Value} {i : Nat} (h : v.parts[i]? = some part) (place : List Nat) :
    v.at? (i :: place) = part.at? place := by
  rw [at?, h, Option.bind_some]

theorem at?_append (v : Value) (place rest : List Nat) :
    v.at? (place ++ rest) = (v.at? place).bind (·.at? rest) := by
  induction place generalizing v with
  | nil => rfl
  | cons i place ih =>
    rw [List.cons_append, at?, at?, Option.bind_assoc]
    exact Option.bind_congr fun part _ => ih part

/-! ## Data that can be gone through -/

/-- No map holds itself, and the keys of all maps have a text. -/
structure Legible (v : Value) : Prop where
  finite : ∀ place, v.at? place ≠ some .cyclic
  keyed : ∀ place part key, v.at? place = some part → key ∈ part.keys → ∃ s, key.toText = .ok s

theorem Legible.part {v part : Value} {i : Nat} (h : v.Legible) (hpart : v.parts[i]? = some part) :
    part.Legible where
  finite place hplace := h.finite (i :: place) ((at?_cons hpart place).trans hplace)
  keyed place part' key hplace :=
    h.keyed (i :: place) part' key ((at?_cons hpart place).trans hplace)

theorem legible_of_parts {v : Value} (hfinite : v ≠ .cyclic)
    (hkeyed : ∀ key ∈ v.keys, ∃ s, key.toText = .ok s)
    (hparts : ∀ part ∈ v.parts, part.Legible) : v.Legible where
  finite place := by
    cases place with
    | nil => exact fun h => hfinite (Option.some.inj h)
    | cons i place =>
      intro h
      obtain ⟨part, hpart, hplace⟩ := Option.bind_eq_some_iff.1 h
      exact (hparts part (List.mem_of_getElem? hpart)).finite place hplace
  keyed place part key hplace hkey := by
    cases place with
    | nil =>
      obtain rfl := Option.some.inj hplace
      exact hkeyed key hkey
    | cons i place =>
      obtain ⟨top, htop, hplace⟩ := Option.bind_eq_some_iff.1 hplace
      exact (hparts top (List.mem_of_getElem? htop)).keyed place part key hplace hkey

/-- Whatever has no parts is legible, except for a map that holds itself. -/
theorem legible_of_parts_eq_nil {v : Value} (hfinite : v ≠ .cyclic) (hkeys : v.keys = [])
    (hparts : v.parts = []) : v.Legible :=
  legible_of_parts hfinite (by simp [hkeys]) (by simp [hparts])

theorem legible_text (s : String) : (text s).Legible :=
  legible_of_parts_eq_nil (by simp) rfl rfl

theorem legible_list {items : List Value} (h : ∀ v ∈ items, v.Legible) : (list items).Legible :=
  legible_of_parts (by simp) (by simp [keys]) h

theorem legible_tuple {items : List Value} (h : ∀ v ∈ items, v.Legible) : (tuple items).Legible :=
  legible_of_parts (by simp) (by simp [keys]) h

/-- A map with texts for keys is legible if its values are. -/
theorem legible_fields (fields : Fields) (h : ∀ e ∈ fields, e.2.Legible) :
    fields.toValue.Legible := by
  refine legible_of_parts (by simp [Fields.toValue]) ?_ ?_
  · intro key hkey
    simp only [Fields.toValue, Fields.toEntries, keys, List.map_map, List.mem_map] at hkey
    obtain ⟨e, -, rfl⟩ := hkey
    exact ⟨e.1, rfl⟩
  · intro part hpart
    simp only [Fields.toValue, Fields.toEntries, parts, List.map_map, List.mem_map] at hpart
    obtain ⟨e, he, rfl⟩ := hpart
    exact h e he

end QueryTelemetry.Value
