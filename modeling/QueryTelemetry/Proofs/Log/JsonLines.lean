import QueryTelemetry.Log.Format
import QueryTelemetry.Proofs.Json.RoundTrip
import QueryTelemetry.Proofs.Log.Masking
import QueryTelemetry.Proofs.Text.Lines

/-!
# Lines of JSON

A record that holds JSON trees shows them in its map, whatever takes the place of
what, and a masker leaves trees trees.  So such a record becomes one line, and
reading the line gives back the masked map of the record (`jsonLine_read`).
-/

namespace QueryTelemetry

/-- Trees laid over a map of trees make one again. -/
theorem Value.isTree_overlay {m n : Fields} (hm : m.toValue.IsTree) (hn : ∀ e ∈ n, e.2.IsTree) :
    (Fields.toValue (Assoc.overlay m n)).IsTree := by
  obtain ⟨hkeys, hvalues⟩ := Value.isTreeWith_toValue_iff.1 hm
  refine .map (Assoc.nodup_keys_overlay hkeys n) fun e he => ?_
  exact (Assoc.mem_or_mem_of_mem_overlay he).elim (hvalues e) (hn e)

namespace Log

/-! ## Masked trees -/

namespace Masker

variable {m : Masker} {v : Value}

theorem hideText_eq (h : m.broken = none) (s : String) : m.hideText s = .ok (m.applyRules s) := by
  rw [hideText, h]

theorem exists_hideEntry {k : String} (h : ∃ w, m.hide v = .ok w ∧ w.IsTree) :
    ∃ w, m.hideEntry (.text k, v) = .ok w ∧ w.IsTree := by
  cases hnames : m.names (.text k) with
  | true => exact ⟨_, hideEntry_of_names hnames, .text maskText⟩
  | false => rwa [hideEntry_of_not_names rfl hnames]

theorem exists_hideAll {items : List Value} (h : ∀ v ∈ items, ∃ w, m.hide v = .ok w ∧ w.IsTree) :
    ∃ items', m.hideAll items = .ok items' ∧ ∀ w ∈ items', w.IsTree := by
  induction items with
  | nil => exact ⟨[], rfl, by simp⟩
  | cons v items ih =>
    obtain ⟨w, hw, htree⟩ := h v List.mem_cons_self
    obtain ⟨items', hitems, htrees⟩ := ih fun v hv => h v (List.mem_cons_of_mem _ hv)
    refine ⟨w :: items', ?_, List.forall_mem_cons.2 ⟨htree, htrees⟩⟩
    rw [hideAll, hw, hitems]
    rfl

theorem exists_hideFields {fields : Fields}
    (h : ∀ e ∈ fields, ∃ w, m.hide e.2 = .ok w ∧ w.IsTree) :
    ∃ masked, m.hideFields fields = .ok masked ∧ ∀ e ∈ masked, e.2.IsTree := by
  induction fields with
  | nil => exact ⟨[], rfl, by simp⟩
  | cons e fields ih =>
    obtain ⟨w, hw, htree⟩ := exists_hideEntry (k := e.1) (h e List.mem_cons_self)
    obtain ⟨masked, hmasked, htrees⟩ := ih fun e he => h e (List.mem_cons_of_mem _ he)
    refine ⟨(e.1, w) :: masked, ?_, List.forall_mem_cons.2 ⟨htree, htrees⟩⟩
    rw [hideFields_cons, hw, hmasked]
    rfl

/-- Masking makes a tree of a tree. -/
theorem exists_hide_of_isTree (hbroken : m.broken = none) (h : v.IsTree) :
    ∃ w, m.hide v = .ok w ∧ w.IsTree := by
  induction h with
  | null => exact ⟨_, rfl, .null⟩
  | bool b => exact ⟨_, rfl, .bool b⟩
  | int n h => exact ⟨_, rfl, .int n h⟩
  | text s =>
    refine ⟨.text (m.applyRules s), ?_, .text _⟩
    rw [hide, hideText_eq hbroken]
    rfl
  | list _ ih =>
    obtain ⟨items, hitems, htrees⟩ := exists_hideAll ih
    refine ⟨_, ?_, .list htrees⟩
    rw [hide, hitems]
    rfl
  | map hkeys _ ih =>
    obtain ⟨masked, hmasked, htrees⟩ := exists_hideFields ih
    refine ⟨masked.toValue, ?_, .map (keys_of_hideFields hmasked ▸ hkeys) htrees⟩
    rw [Fields.toValue, hide, hideEntries_toEntries, hmasked]
    rfl

theorem exists_maskFields (hm : m.enabled = true → m.broken = none) {fields : Fields}
    (h : fields.toValue.IsTree) :
    ∃ masked, m.maskFields fields = .ok masked ∧ masked.toValue.IsTree := by
  unfold maskFields
  split
  · next henabled =>
    obtain ⟨hkeys, htrees⟩ := Value.isTreeWith_toValue_iff.1 h
    obtain ⟨masked, hmasked, htrees'⟩ :=
      exists_hideFields fun e he => exists_hide_of_isTree (hm henabled) (htrees e he)
    exact ⟨masked, hmasked, .map (keys_of_hideFields hmasked ▸ hkeys) htrees'⟩
  · exact ⟨fields, rfl, h⟩

end Masker

/-! ## Records of trees -/

/-- A record of JSON trees whose fault, if it reports one, has a text. -/
structure Record.HoldsTrees (r : Record) : Prop where
  requestId : r.context.requestId.IsTree
  operationName : r.context.operationName.IsTree
  contextExtra : ∀ e ∈ r.context.extra, e.2.IsTree
  extra : ∀ e ∈ r.extra, e.2.IsTree
  exc : ∀ v, r.exc = some v → ∃ shown, v.toText = .ok shown

namespace Record.HoldsTrees

variable {r : Record}

theorem isTree_of_mem_contextFields (h : r.HoldsTrees) :
    ∀ e ∈ r.context.toFields, e.2.IsTree := by
  have hshown : ∀ name (v : Value), v.IsTree → ∀ e ∈ Context.shown name v, e.2.IsTree := by
    intro name v hv e he
    unfold Context.shown at he
    split at he
    · rw [List.mem_singleton.1 he]
      exact hv
    · cases he
  intro e he
  rcases Assoc.mem_or_mem_of_mem_overlay he with he | he
  · rcases List.mem_append.1 he with he | he
    · exact hshown _ _ h.requestId e he
    · exact hshown _ _ h.operationName e he
  · exact h.contextExtra e he

theorem isTree_headFields (h : r.HoldsTrees) : r.headFields.toValue.IsTree := by
  have hown : (Fields.toValue [("timestamp", .text r.timestamp.render),
      ("level", .text r.level.name), ("logger", .text r.logger),
      ("message", .text r.message)]).IsTree := by
    refine .map (show ["timestamp", "level", "logger", "message"].Nodup by decide) ?_
    simp only [List.mem_cons, List.not_mem_nil, or_false]
    rintro e (rfl | rfl | rfl | rfl) <;> exact .text _
  exact Value.isTree_overlay (Value.isTree_overlay hown h.isTree_of_mem_contextFields) h.extra

theorem exists_toFields (h : r.HoldsTrees) :
    ∃ fields, r.toFields = .ok fields ∧ fields.toValue.IsTree := by
  have hput : ∀ (fields : Fields) name s, fields.toValue.IsTree →
      (Fields.toValue (Assoc.put fields name (.text s))).IsTree := fun fields name s htree =>
    Value.isTree_overlay (n := [(name, .text s)]) htree (by simpa using .text s)
  unfold toFields
  cases hexc : r.exc with
  | none => exact ⟨_, rfl, h.isTree_headFields⟩
  | some v =>
    obtain ⟨shown, hshown⟩ := h.exc v hexc
    refine ⟨_, ?_, hput _ "exception" shown (hput _ "exception_type" v.kind h.isTree_headFields)⟩
    simp only [hshown]
    rfl

end Record.HoldsTrees

/-- A record of trees is written as one line of JSON, and the line is read as the masked map
of the record. -/
theorem jsonLine_read {masker : Masker} (hmasker : masker.enabled = true → masker.broken = none)
    {r : Record} (h : r.HoldsTrees) :
    ∃ line fields masked, (Format.json masker none).render r = .ok line ∧
      ¬ Text.HasLineBreak line ∧ r.toFields = .ok fields ∧
      masker.maskFields fields = .ok masked ∧ Json.read line = some masked.toValue := by
  obtain ⟨fields, hfields, htree⟩ := h.exists_toFields
  obtain ⟨masked, hmasked, htree'⟩ := Masker.exists_maskFields hmasker htree
  obtain ⟨line, hprint, hplain, hread⟩ := Json.exists_print htree'
  have hline : ¬ Text.HasLineBreak line :=
    Text.not_hasLineBreak_iff.2 fun c hc => Text.isLineBreak_of_printable (hplain c hc)
  refine ⟨line, fields, masked, ?_, hline, hfields, hmasked, hread⟩
  rw [Format.render, Format.jsonLine, hfields]
  show (masker.maskFields fields >>= fun _ => _) = _
  rw [hmasked]
  exact hprint

/-- A message of two lines, a field that takes the place of the level, and a fault. -/
theorem jsonLine_read_two_lines :
    let r : Record :=
      { level := .error, message := "a\n\"é\"", logger := "t"
        timestamp := ⟨2024, 1, 15, 10, 30, 45, 123456⟩
        context := { Context.empty with requestId := .text "r-1", extra := [("level", .int 3)] }
        extra := [("tags", .list [.bool true, .text "token=x"])]
        exc := some (.fault (.plain .value "bad\n")) }
    ∃ line fields masked, (Format.json .standard none).render r = .ok line ∧
      ¬ Text.HasLineBreak line ∧ r.toFields = .ok fields ∧
      Masker.standard.maskFields fields = .ok masked ∧ Json.read line = some masked.toValue := by
  intro r
  refine jsonLine_read (fun _ => rfl) ⟨.text "r-1", .null, ?_, ?_, ?_⟩
  · simpa [r] using .int 3 (by decide)
  · simpa [r] using .list (by simpa using ⟨.bool true, .text "token=x"⟩)
  · rintro v ⟨⟩
    exact ⟨_, rfl⟩

end Log

end QueryTelemetry
