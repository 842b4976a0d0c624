import QueryTelemetry.Log.Masker
import QueryTelemetry.Log.Record

/-!
# Data that differ only in secrets

`Value.veiled` is data with null in the place of every secret: of what stands
under a secret name in a map, however deep the map is nested in maps, lists and
tuples.  Data differ only in secrets if they are the same when veiled.  Building
the fields of a record out of scopes and arguments commutes with veiling.

A masker that guards the secrets does not look at them (`Masker.hide_veiled`), so
it leaves the same of data that differ only in secrets.
-/

namespace QueryTelemetry

open Log (Masker)

/-- Whether a key of a map names a secret. -/
def Value.namesSecret (key : Value) : Bool :=
  match key.toText with
  | .ok s => Masker.standard.isSecret s
  | .error _ => false

mutual

/-- A value with null in the place of its secrets. -/
def Value.veiled : Value → Value
  | .list items => .list (Value.veiledAll items)
  | .tuple items => .tuple (Value.veiledAll items)
  | .dict entries => .dict (Value.veiledEntries entries)
  | v => v

/-- A list of values with null in the place of their secrets. -/
def Value.veiledAll : List Value → List Value
  | [] => []
  | v :: rest => v.veiled :: Value.veiledAll rest

/-- The entries of a map with null in the place of their secrets. -/
def Value.veiledEntries : List (Value × Value) → List (Value × Value)
  | [] => []
  | (k, v) :: rest =>
    (k, if k.namesSecret then .null else v.veiled) :: Value.veiledEntries rest

end

/-- The value of a name with null in the place of its secrets. -/
def Value.veiledAt (name : String) (v : Value) : Value :=
  if Masker.standard.isSecret name then .null else v.veiled

/-- Named data with null in the place of their secrets. -/
def Fields.veiled (fields : Fields) : Fields := fields.map fun e => (e.1, e.2.veiledAt e.1)

/-! ## Maskers that guard the secrets -/

namespace Log.Masker

/-- A masker guards the secrets if it is enabled and knows their names. -/
structure Guards (m : Masker) : Prop where
  enabled : m.enabled = true
  keys : ∀ key ∈ defaultKeys, key ∈ m.keys

theorem guards_standard : standard.Guards := ⟨rfl, fun _ h => h⟩

variable {m : Masker}

theorem Guards.isSecret (hm : m.Guards) {name : String} (h : standard.isSecret name = true) :
    m.isSecret name = true :=
  List.contains_iff_mem.2 (hm.keys _ (List.contains_iff_mem.1 h))

mutual

/-- What a guarding masker leaves of a value does not depend on its secrets. -/
theorem hide_veiled (hm : m.Guards) : ∀ v : Value, m.hide v.veiled = m.hide v
  | .list items => by rw [Value.veiled, hide, hide, hideAll_veiled hm items]
  | .tuple items => by rw [Value.veiled, hide, hide, hideAll_veiled hm items]
  | .dict entries => by rw [Value.veiled, hide, hide, hideEntries_veiled hm entries]
  | .null | .bool _ | .int _ | .float _ | .text _ | .bytes _ | .slot _ | .choice .. | .settings ..
  | .fault _ | .queryError .. | .object .. | .textless .. | .cyclic => rfl

theorem hideAll_veiled (hm : m.Guards) :
    ∀ values : List Value, m.hideAll (Value.veiledAll values) = m.hideAll values
  | [] => rfl
  | v :: rest => by
    rw [Value.veiledAll, hideAll, hideAll, hide_veiled hm v, hideAll_veiled hm rest]

theorem hideEntries_veiled (hm : m.Guards) : ∀ entries : List (Value × Value),
    m.hideEntries (Value.veiledEntries entries) = m.hideEntries entries
  | [] => rfl
  | (k, v) :: rest => by
    rw [Value.veiledEntries, hideEntries, hideEntries, hideEntries_veiled hm rest, Value.namesSecret]
    cases k.toText with
    | error f => rfl
    | ok name =>
      cases hsecret : standard.isSecret name with
      | false =>
        simp only [bind, Except.bind, hsecret, Bool.false_eq_true, if_false, hide_veiled hm v]
      | true => simp only [bind, Except.bind, hm.isSecret hsecret, if_true]

end

theorem hideFields_veiled (hm : m.Guards) (fields : Fields) :
    m.hideFields fields.veiled = m.hideFields fields := by
  induction fields with
  | nil => rfl
  | cons e rest ih =>
    rw [Fields.veiled, List.map_cons, ← Fields.veiled, hideFields, hideFields, ih, Value.veiledAt]
    cases hsecret : standard.isSecret e.1 with
    | false => simp only [Bool.false_eq_true, if_false, hide_veiled hm]
    | true => simp only [hm.isSecret hsecret, if_true]

theorem maskFields_veiled (hm : m.Guards) (fields : Fields) :
    m.maskFields fields.veiled = m.maskFields fields := by
  rw [maskFields, maskFields, if_pos hm.enabled, if_pos hm.enabled, hideFields_veiled hm]

/-- A guarding masker leaves the same of data that differ only in secrets. -/
theorem maskFields_congr (hm : m.Guards) {fields fields' : Fields}
    (h : fields.veiled = fields'.veiled) : m.maskFields fields = m.maskFields fields' := by
  rw [← maskFields_veiled hm fields, h, maskFields_veiled hm]

end Log.Masker

/-! ## Building fields -/

namespace Fields

theorem veiled_put (fields : Fields) (name : String) (v : Value) :
    Fields.veiled (Assoc.put fields name v) = Assoc.put fields.veiled name (v.veiledAt name) := by
  induction fields with
  | nil => rfl
  | cons e rest ih =>
    obtain ⟨name', v'⟩ := e
    simp only [Fields.veiled, List.map_cons, Assoc.put] at ih ⊢
    by_cases hname : name' = name
    · subst hname
      simp
    · simp [hname, ih]

theorem veiled_overlay (fields more : Fields) :
    Fields.veiled (Assoc.overlay fields more) = Assoc.overlay fields.veiled more.veiled := by
  induction more generalizing fields with
  | nil => rfl
  | cons e more ih =>
    rw [Assoc.overlay_cons, ih, veiled_put]
    rfl

theorem veiled_remove (fields : Fields) (name : String) :
    Fields.veiled (Assoc.remove fields name) = Assoc.remove fields.veiled name := by
  simp only [Assoc.remove, Fields.veiled, List.filter_map, Function.comp_def]

end Fields

namespace Log

/-- A context with null in the place of the secrets among its extra fields. -/
def Context.veiled (c : Context) : Context := { c with extra := c.extra.veiled }

theorem Context.veiled_merge (outer inner : Context) :
    (outer.merge inner).veiled = outer.veiled.merge inner.veiled := by
  simp only [Context.veiled, Context.merge, Fields.veiled_overlay]

/-- The context inside some scopes, the outermost first. -/
def Context.inside (scopes : List Scope) : Context :=
  scopes.foldl (fun c s => (s.enter c).2) .empty

/-- The context inside scopes that differ only in secrets differs only in
secrets. -/
theorem Context.veiled_inside (scopes : List Scope) :
    (inside scopes).veiled = (scopes.map (·.fields.veiled)).foldl merge .empty := by
  have hfrom : ∀ c : Context, (scopes.foldl (fun c s => (s.enter c).2) c).veiled =
      (scopes.map (·.fields.veiled)).foldl merge c.veiled := by
    induction scopes with
    | nil => exact fun _ => rfl
    | cons s scopes ih =>
      intro c
      rw [List.foldl_cons, ih, List.map_cons, List.foldl_cons, ← Context.veiled_merge]
      rfl
  exact hfrom .empty

theorem Context.veiled_toFields {c c' : Context} (h : c.veiled = c'.veiled) :
    c.toFields.veiled = c'.toFields.veiled := by
  obtain ⟨hid, hname, hextra⟩ := Context.mk.inj h
  rw [toFields, toFields, Fields.veiled_overlay, Fields.veiled_overlay, hid, hname, hextra]

/-- Records that differ only in secrets of their context. -/
structure Record.Alike (r r' : Record) : Prop where
  level : r.level = r'.level
  message : r.message = r'.message
  logger : r.logger = r'.logger
  timestamp : r.timestamp = r'.timestamp
  context : r.context.veiled = r'.context.veiled
  extra : r.extra = r'.extra
  exc : r.exc = r'.exc

namespace Record.Alike

variable {r r' : Record}

theorem fields (h : r.Alike r') : r.fields.veiled = r'.fields.veiled := by
  rw [Record.fields, Record.fields, Fields.veiled_overlay, Fields.veiled_overlay, h.extra,
    Context.veiled_toFields h.context]

theorem headFields (h : r.Alike r') : r.headFields.veiled = r'.headFields.veiled := by
  rw [Record.headFields, Record.headFields, Fields.veiled_overlay, Fields.veiled_overlay,
    Fields.veiled_overlay, Fields.veiled_overlay, h.extra, h.timestamp, h.level, h.logger,
    h.message, Context.veiled_toFields h.context]

/-- As maps, such records can be made alike or not at all, for the same reason. -/
theorem toFields (h : r.Alike r') :
    r.toFields.map Fields.veiled = r'.toFields.map Fields.veiled := by
  rw [Record.toFields, Record.toFields, ← h.exc]
  cases r.exc with
  | none => simp only [Except.map, h.headFields]
  | some v =>
    cases htext : v.toText with
    | error f => simp only [htext, bind, Except.bind, Except.map]
    | ok shown =>
      simp only [htext, bind, Except.bind, Except.map, Fields.veiled_put, h.headFields]

end Record.Alike

end Log

end QueryTelemetry
