import QueryTelemetry.Json.Printer
import QueryTelemetry.Value.Mapping
import QueryTelemetry.Proofs.Value.Sorting

/-!
# Why data cannot be written

Opaque objects are written as their text, and an object may raise a fault in
place of its text.  `Value.Refuses` says that some object within a value does.
Everything else that keeps data from being written is a fault of the data: a
whole number that is too long, a key that is none, keys that cannot be sorted, a
map that holds itself.  So writing JSON fails with a bad value, a value of the
wrong kind, or what an object raises (`Json.refuses_of_print`).
-/

namespace QueryTelemetry

/-- A fault that says that a value is bad or of the wrong kind. -/
def Fault.IsOfData (f : Fault) : Prop := ∃ message, f = .ofValue message ∨ f = .ofType message

theorem Fault.isOfData_ofValue (message : String) : (ofValue message).IsOfData :=
  ⟨message, .inl rfl⟩

theorem Fault.isOfData_ofType (message : String) : (ofType message).IsOfData :=
  ⟨message, .inr rfl⟩

/-- Some object within a value raises a fault in place of its text. -/
inductive Value.Refuses (f : Fault) : Value → Prop
  | object (kind description : String) : Refuses f (.textless kind description f)
  | item {items : List Value} {v : Value} (hmem : v ∈ items) (h : Refuses f v) :
      Refuses f (.list items)
  | part {items : List Value} {v : Value} (hmem : v ∈ items) (h : Refuses f v) :
      Refuses f (.tuple items)
  | entry {entries : Entries} {k v : Value} (hmem : (k, v) ∈ entries) (h : Refuses f v) :
      Refuses f (.dict entries)
  | message {report : Report Value} {message details : Value} {cause : Option Fault}
      (h : Refuses f message) : Refuses f (.fault (.reported report message details cause))

/-! ## Texts -/

namespace Value

theorem isOfData_of_intText {n : Int} {f : Fault} (h : intText n = .error f) : f.IsOfData := by
  rw [intText] at h
  split at h
  · obtain rfl := Except.error.inj h
    exact Fault.isOfData_ofValue _
  · cases h

theorem isOfData_of_shownInt {n : Int} {write : String → String} {f : Fault}
    (h : (intText n >>= fun shown => .ok (write shown)) = .error f) : f.IsOfData := by
  rcases eq_error_of_bind_eq_error h with h | ⟨shown, -, h⟩
  · exact isOfData_of_intText h
  · cases h

theorem isOfData_of_slotText {s : Trace.Slot} {f : Fault} (h : slotText s = .error f) :
    f.IsOfData := by
  cases s with
  | field id => exact isOfData_of_shownInt h
  | _ => cases h

theorem isOfData_of_slotDescription {s : Trace.Slot} {f : Fault}
    (h : slotDescription s = .error f) : f.IsOfData := by
  cases s with
  | field id => exact isOfData_of_shownInt h
  | _ => cases h

mutual

/-- A description fails only for a whole number that is too long. -/
theorem isOfData_of_describe {f : Fault} : ∀ {v : Value}, v.describe = .error f → f.IsOfData
  | .int n, h => isOfData_of_intText h
  | .list items, h | .tuple items, h =>
    isOfData_of_describeAll (eq_error_of_map_eq_error h)
  | .dict entries, h => isOfData_of_describeEntries (eq_error_of_map_eq_error h)
  | .settings kind parts, h => isOfData_of_describeParts (eq_error_of_map_eq_error h)
  | .choice kind name content, h => by
    rcases eq_error_of_bind_eq_error h with h | ⟨shown, -, h⟩
    · exact isOfData_of_describe h
    · cases h
  | .fault g, h => isOfData_of_faultDescribe h
  | .queryError message path locations extensions, h => by
    rcases eq_error_of_bind_eq_error h with h | ⟨shown, -, h⟩
    · exact isOfData_of_describeAll h
    rcases eq_error_of_bind_eq_error h with h | ⟨shown, -, h⟩
    · exact isOfData_of_describeAll h
    rcases eq_error_of_bind_eq_error h with h | ⟨shown, -, h⟩
    · exact isOfData_of_describe h
    · cases h
  | .slot s, h => isOfData_of_slotDescription h
  | .null, h | .bool _, h | .float _, h | .text _, h | .bytes _, h | .object .., h
  | .textless .., h | .cyclic, h => by cases h

theorem isOfData_of_describeAll {f : Fault} :
    ∀ {values : List Value}, describeAll values = .error f → f.IsOfData
  | [], h => by cases h
  | v :: rest, h => by
    rcases eq_error_of_bind_eq_error h with h | ⟨shown, -, h⟩
    · exact isOfData_of_describe h
    rcases eq_error_of_bind_eq_error h with h | ⟨shown, -, h⟩
    · exact isOfData_of_describeAll h
    · cases h

theorem isOfData_of_describeEntries {f : Fault} :
    ∀ {entries : List (Value × Value)}, describeEntries entries = .error f → f.IsOfData
  | [], h => by cases h
  | (k, v) :: rest, h => by
    rcases eq_error_of_bind_eq_error h with h | ⟨shown, -, h⟩
    · exact isOfData_of_describe h
    rcases eq_error_of_bind_eq_error h with h | ⟨shown, -, h⟩
    · exact isOfData_of_describe h
    rcases eq_error_of_bind_eq_error h with h | ⟨shown, -, h⟩
    · exact isOfData_of_describeEntries h
    · cases h

theorem isOfData_of_describeParts {f : Fault} :
    ∀ {parts : List (String × Value)}, describeParts parts = .error f → f.IsOfData
  | [], h => by cases h
  | (name, v) :: rest, h => by
    rcases eq_error_of_bind_eq_error h with h | ⟨shown, -, h⟩
    · exact isOfData_of_describe h
    rcases eq_error_of_bind_eq_error h with h | ⟨shown, -, h⟩
    · exact isOfData_of_describeParts h
    · cases h

theorem isOfData_of_faultDescribe {f : Fault} : ∀ {g : Fault}, g.describe = .error f → f.IsOfData
  | .plain kind message, h => by cases h
  | .reported report message details cause, h => by
    rcases eq_error_of_bind_eq_error h with h | ⟨shown, -, h⟩
    · exact isOfData_of_describe h
    rcases eq_error_of_bind_eq_error h with h | ⟨shown, -, h⟩
    · exact isOfData_of_describe h
    rcases eq_error_of_bind_eq_error h with h | ⟨shown, -, h⟩
    · exact isOfData_of_describeCause h
    · cases h

theorem isOfData_of_describeCause {f : Fault} :
    ∀ {cause : Option Fault}, Fault.describeCause cause = .error f → f.IsOfData
  | none, h => by cases h
  | some g, h => isOfData_of_faultDescribe h

end

mutual

/-- A fault has no text only because of its details, or because of what stands in
the place of its message. -/
theorem refuses_of_text {f : Fault} :
    ∀ {g : Fault}, g.text = .error f → f.IsOfData ∨ (Value.fault g).Refuses f
  | .plain kind message, h => by cases kind <;> cases h
  | .reported report message details cause, h => by
    unfold Fault.text at h
    split at h
    · rcases eq_error_of_bind_eq_error h with h | ⟨shown, -, h⟩
      · exact (refuses_of_toText h).imp_right .message
      rcases eq_error_of_bind_eq_error h with h | ⟨shown, -, h⟩
      · exact .inl (isOfData_of_describe h)
      · cases h
    · split at h
      · cases h
      · obtain rfl := Except.error.inj h
        exact .inl (Fault.isOfData_ofType _)

theorem refuses_of_toText {f : Fault} :
    ∀ {v : Value}, v.toText = .error f → f.IsOfData ∨ v.Refuses f
  | .fault g, h => refuses_of_text h
  | .textless kind description g, h => by
    obtain rfl := Except.error.inj h
    exact .inr (.object kind description)
  | .slot s, h => .inl (isOfData_of_slotText h)
  | .text _, h | .choice .., h | .queryError .., h | .object .., h => by cases h
  | .null, h | .bool _, h | .int _, h | .float _, h | .bytes _, h | .list _, h | .tuple _, h
  | .dict _, h | .settings .., h | .cyclic, h => .inl (isOfData_of_describe h)

end

/-! ## Maps -/

theorem isOfData_of_entriesOf {position : Nat} {items : List Value} {f : Fault}
    (h : entriesOf position items = .error f) : f.IsOfData := by
  induction items generalizing position with
  | nil => cases h
  | cons v rest ih =>
    rcases eq_error_of_bind_eq_error h with h | ⟨entry, -, h⟩
    · unfold entryOf at h
      split at h
      · obtain rfl := Except.error.inj h
        exact Fault.isOfData_ofType _
      · split at h
        · obtain rfl := Except.error.inj h
          exact Fault.isOfData_ofType _
        · cases h
      · obtain rfl := Except.error.inj h
        exact Fault.isOfData_ofValue _
    rcases eq_error_of_bind_eq_error h with h | ⟨others, -, h⟩
    · exact ih h
    · cases h

/-- What is no map is refused for what it is. -/
theorem isOfData_of_toEntries {v : Value} {f : Fault} (h : v.toEntries = .error f) :
    f.IsOfData := by
  unfold toEntries at h
  split at h
  · cases h
  · cases h
  · split at h
    · obtain rfl := Except.error.inj h
      exact Fault.isOfData_ofType _
    · exact isOfData_of_entriesOf (eq_error_of_map_eq_error h)

end Value

/-- Entries sorted by key are the same entries. -/
theorem perm_of_sortEntries {α : Type} {entries out : List (Value × α)}
    (h : sortEntries entries = .ok out) : out.Perm entries := by
  rw [sortEntries] at h
  split at h
  · next hlength =>
    obtain rfl := Except.ok.inj h
    refine ((List.mergeSort_perm _ _).map _).trans (.of_eq ?_)
    -- As many entries have a text for a key as there are entries, so all of them do.
    have hall := List.filterMap_length_eq_length.1 hlength
    rw [List.map_filterMap]
    refine (List.filterMap_congr fun e he => ?_).trans List.filterMap_some
    have hsome := hall e he
    split at hsome
    · simp only [Option.map_some]
    · cases hsome
  · exact Sorting.perm_of_sorted h

/-! ## JSON -/

namespace Json

variable {style : Style} {f : Fault}

theorem isOfData_of_keyText {key : Value} (h : keyText key = .error f) : f.IsOfData := by
  unfold keyText at h
  split at h
  · cases h
  · cases h
  · cases h
  · exact Value.isOfData_of_intText h
  · cases h
  · obtain rfl := Except.error.inj h
    exact Fault.isOfData_ofType _

/-- The members of a map cannot be written because of a key, or because of one of
the values. -/
theorem error_of_members {entries : List (Value × Except Fault String)}
    (h : members entries = .error f) : f.IsOfData ∨ ∃ k, (k, .error f) ∈ entries := by
  induction entries with
  | nil => cases h
  | cons e rest ih =>
    obtain ⟨k, written⟩ := e
    rcases eq_error_of_bind_eq_error h with h | ⟨key, -, h⟩
    · exact .inl (isOfData_of_keyText h)
    rcases eq_error_of_bind_eq_error h with rfl | ⟨item, -, h⟩
    · exact .inr ⟨k, List.mem_cons_self⟩
    rcases eq_error_of_bind_eq_error h with h | ⟨others, -, h⟩
    · exact (ih h).imp_right fun ⟨k, hk⟩ => ⟨k, List.mem_cons_of_mem _ hk⟩
    · cases h

/-- Only the order of the members could be refused besides, for keys that cannot be
compared. -/
theorem error_of_object {depth : Nat} {entries : List (Value × Except Fault String)}
    (h : style.object depth entries = .error f) : f.IsOfData ∨ ∃ k, (k, .error f) ∈ entries := by
  rw [Style.object] at h
  split at h
  · rcases eq_error_of_bind_eq_error h with h | ⟨ordered, hordered, h⟩
    · obtain ⟨clash, -, rfl⟩ := exists_of_mapError_eq_error h
      exact .inl (Fault.isOfData_ofType _)
    rcases eq_error_of_bind_eq_error h with h | ⟨items, -, h⟩
    · have hperm := perm_of_sortEntries (eq_ok_of_mapError_eq_ok hordered)
      exact (error_of_members h).imp_right fun ⟨k, hk⟩ => ⟨k, hperm.mem_iff.1 hk⟩
    · cases h
  · rcases eq_error_of_bind_eq_error h with h | ⟨ordered, hordered, h⟩
    · cases h
    obtain rfl := Except.ok.inj hordered
    rcases eq_error_of_bind_eq_error h with h | ⟨items, -, h⟩
    · exact error_of_members h
    · cases h

theorem refuses_of_asText {v : Value} (h : asText v = .error f) : f.IsOfData ∨ v.Refuses f :=
  Value.refuses_of_toText (eq_error_of_map_eq_error h)

mutual

/-- JSON cannot be written because of the data, or because of what an object raises
in place of its text. -/
theorem refuses_of_write {depth : Nat} :
    ∀ {v : Value}, style.write depth v = .error f → f.IsOfData ∨ v.Refuses f
  | .list items, h => by
    rcases eq_error_of_bind_eq_error h with h | ⟨shown, -, h⟩
    · exact (refuses_of_writeAll h).imp_right fun ⟨v, hmem, hv⟩ => .item hmem hv
    · cases h
  | .tuple items, h => by
    rcases eq_error_of_bind_eq_error h with h | ⟨shown, -, h⟩
    · exact (refuses_of_writeAll h).imp_right fun ⟨v, hmem, hv⟩ => .part hmem hv
    · cases h
  | .dict entries, h => by
    rcases error_of_object h with h | ⟨k, hk⟩
    · exact .inl h
    · exact (refuses_of_writeEntries hk).imp_right fun ⟨v, hmem, hv⟩ => .entry hmem hv
  | .int n, h => .inl (Value.isOfData_of_intText h)
  | .cyclic, h => by
    obtain rfl := Except.error.inj h
    exact .inl (Fault.isOfData_ofValue _)
  | .bytes _, h | .slot _, h | .choice .., h | .settings .., h | .fault _, h | .queryError .., h
  | .object .., h | .textless .., h => refuses_of_asText h
  | .null, h | .bool _, h | .float _, h | .text _, h => by cases h

theorem refuses_of_writeAll {depth : Nat} : ∀ {values : List Value},
    style.writeAll depth values = .error f → f.IsOfData ∨ ∃ v ∈ values, v.Refuses f
  | [], h => by cases h
  | v :: rest, h => by
    rcases eq_error_of_bind_eq_error h with h | ⟨shown, -, h⟩
    · exact (refuses_of_write h).imp_right fun hv => ⟨v, List.mem_cons_self, hv⟩
    rcases eq_error_of_bind_eq_error h with h | ⟨shown, -, h⟩
    · exact (refuses_of_writeAll h).imp_right fun ⟨v, hmem, hv⟩ =>
        ⟨v, List.mem_cons_of_mem _ hmem, hv⟩
    · cases h

theorem refuses_of_writeEntries {depth : Nat} {k : Value} : ∀ {entries : List (Value × Value)},
    (k, .error f) ∈ style.writeEntries depth entries →
      f.IsOfData ∨ ∃ v, (k, v) ∈ entries ∧ v.Refuses f
  | [], h => by cases h
  | (k', v) :: rest, h => by
    rcases List.mem_cons.1 h with h | h
    · obtain ⟨rfl, hwritten⟩ := Prod.mk.inj h
      exact (refuses_of_write hwritten.symm).imp_right fun hv => ⟨v, List.mem_cons_self, hv⟩
    · exact (refuses_of_writeEntries h).imp_right fun ⟨v, hmem, hv⟩ =>
        ⟨v, List.mem_cons_of_mem _ hmem, hv⟩

end

/-- Data that JSON cannot say are data of which it says why, or hold an object that
raises the fault in place of its text. -/
theorem refuses_of_print {v : Value} (h : print style v = .error f) : f.IsOfData ∨ v.Refuses f :=
  refuses_of_write h

end Json

end QueryTelemetry
