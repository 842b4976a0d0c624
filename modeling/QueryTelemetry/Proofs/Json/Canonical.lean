import Mathlib.Logic.Basic
import Mathlib.Tactic.Choose
import QueryTelemetry.Proofs.Json.RoundTrip
import QueryTelemetry.Trace.Attributes

/-!
# Sorted JSON is canonical

To sort a tree while it is written is to write its arrangement, the same tree with every
map in the order of its keys (`exists_arranges`).  Trees have one arrangement up to the
order of keys, and what is written is read again, so two trees are written alike exactly
if they differ in nothing but that order (`print_eq_iff`).  The variables of a query are
written in this way (`Trace.written_eq_iff_sameTree`).
-/

namespace QueryTelemetry.Json

/-! ## Named data in the order of the names -/

section

variable {α β : Type} {fields : List (String × α)}

/-- Named data sorted by name. -/
def byName (fields : List (String × α)) : List (String × α) :=
  fields.mergeSort fun a b => !decide (b.1 < a.1)

theorem perm_byName (fields : List (String × α)) : (byName fields).Perm fields :=
  List.mergeSort_perm ..

theorem mem_byName {e : String × α} : e ∈ byName fields ↔ e ∈ fields :=
  (perm_byName fields).mem_iff

/-- Sorting looks at the names alone. -/
theorem byName_map (f : String × α → β) (fields : List (String × α)) :
    byName (fields.map fun e => (e.1, f e)) = (byName fields).map fun e => (e.1, f e) := by
  unfold byName
  exact (List.map_mergeSort (f := fun e : String × α => (e.1, f e)) fun _ _ _ _ => rfl).symm

/-- The names come in order, each of them once. -/
theorem pairwise_keys_byName (h : (Assoc.keys fields).Nodup) :
    (Assoc.keys (byName fields)).Pairwise (· < ·) := by
  have hle : (byName fields).Pairwise fun a b => (!decide (b.1 < a.1)) = true := by
    refine List.pairwise_mergeSort (fun a b c hab hbc => ?_) (fun a b => ?_) fields
    · simp only [Bool.not_eq_true', decide_eq_false_iff_not, String.not_lt] at *
      exact String.le_trans hab hbc
    · simp only [Bool.or_eq_true, Bool.not_eq_true', decide_eq_false_iff_not, String.not_lt]
      exact String.le_total a.1 b.1
  have hne : (byName fields).Pairwise fun a b => a.1 ≠ b.1 :=
    List.pairwise_map.1 (((perm_byName fields).map Prod.fst).nodup_iff.2 h)
  refine List.pairwise_map.2 ((hle.and hne).imp fun hab => ?_)
  simp only [Bool.not_eq_true', decide_eq_false_iff_not, String.not_lt] at hab
  exact Classical.byContradiction fun h => hab.2 (String.le_antisymm hab.1 (String.not_lt.1 h))

/-- Entries whose keys are texts are sorted by their texts. -/
theorem sortEntries_texts (fields : List (String × α)) :
    sortEntries (fields.map fun e => (Value.text e.1, e.2)) =
      .ok ((byName fields).map fun e => (Value.text e.1, e.2)) := by
  have htexts (f : Value × α → Option (String × Value × α))
      (hf : ∀ s a, f (.text s, a) = some (s, .text s, a)) :
      (fields.map fun e => (Value.text e.1, e.2)).filterMap f =
        fields.map fun e => (e.1, Value.text e.1, e.2) := by
    rw [List.filterMap_map, ← List.filterMap_eq_map']
    exact List.filterMap_congr fun e _ => hf e.1 e.2
  have hsort := byName_map (fun e => (Value.text e.1, e.2)) fields
  unfold byName at hsort
  unfold sortEntries
  dsimp only
  rw [htexts _ fun _ _ => rfl, List.length_map, List.length_map, if_pos rfl, hsort, List.map_map]
  rfl

end

/-! ## Arrangements -/

variable {v v' w : Value}

/-- An arrangement of a tree: the same tree with its maps in the order of their keys, to be
written in place of the tree where keys are sorted. -/
structure Arranges (v w : Value) : Prop where
  arranged : w.IsArranged
  same : v.SameTree w
  writes : ∀ depth, Style.sortedLine.write depth v = Style.line.write depth w

theorem arranges_of_leaf (harranged : v.IsArranged) (hsame : v.SameTree v)
    (hwrites : ∀ depth, Style.sortedLine.write depth v = Style.line.write depth v) :
    Arranges v v :=
  ⟨harranged, hsame, hwrites⟩

theorem writeAll_map {items : List Value} {f : Value → Value} {depth : Nat}
    (h : ∀ v ∈ items, Style.sortedLine.write depth v = Style.line.write depth (f v)) :
    Style.sortedLine.writeAll depth items = Style.line.writeAll depth (items.map f) := by
  induction items with
  | nil => rfl
  | cons v items ih =>
    rw [List.map_cons, Style.writeAll, Style.writeAll, h v List.mem_cons_self,
      ih fun v hv => h v (List.mem_cons_of_mem _ hv)]

theorem arranges_list {items : List Value} {f : Value → Value}
    (h : ∀ v ∈ items, Arranges v (f v)) : Arranges (.list items) (.list (items.map f)) where
  arranged := .list (List.forall_mem_map.2 fun v hv => (h v hv).arranged)
  same := by
    refine .list (List.length_map f).symm fun i v w hv hw => ?_
    rw [List.getElem?_map, hv] at hw
    obtain rfl := Option.some.inj hw
    exact (h v (List.mem_of_getElem? hv)).same
  writes depth := by
    rw [Style.write, Style.write, writeAll_map fun v hv => (h v hv).writes (depth + 1)]
    rfl

theorem writeEntries_toEntries (style : Style) (depth : Nat) (fields : Fields) :
    style.writeEntries depth fields.toEntries =
      fields.map fun e => (.text e.1, style.write depth e.2) := by
  induction fields with
  | nil => rfl
  | cons e fields ih => rw [Fields.toEntries_cons, Style.writeEntries, ih, List.map_cons]

theorem write_map {fields : Fields} {f : String × Value → Value} {depth : Nat}
    (h : ∀ e ∈ fields,
      Style.sortedLine.write (depth + 1) e.2 = Style.line.write (depth + 1) (f e)) :
    Style.sortedLine.write depth fields.toValue =
      Style.line.write depth (Fields.toValue ((byName fields).map fun e => (e.1, f e))) := by
  have hentries : sortEntries (Style.sortedLine.writeEntries (depth + 1) fields.toEntries) =
      .ok (Style.line.writeEntries (depth + 1)
        (Fields.toEntries ((byName fields).map fun e => (e.1, f e)))) := by
    have hsort := sortEntries_texts
      (fields.map fun e => (e.1, Style.sortedLine.write (depth + 1) e.2))
    rw [byName_map, List.map_map, List.map_map] at hsort
    rw [writeEntries_toEntries, writeEntries_toEntries, List.map_map]
    refine hsort.trans (congrArg _ (List.map_congr_left fun e he => ?_))
    exact congrArg (Prod.mk _) (h e (mem_byName.1 he))
  rw [Fields.toValue, Fields.toValue, Style.write, Style.write, Style.object, Style.object,
    if_pos (show Style.sortedLine.sorted = true from rfl), if_neg (by decide), hentries]
  rfl

theorem arranges_map {fields : Fields} {f : String × Value → Value}
    (hkeys : (Assoc.keys fields).Nodup) (h : ∀ e ∈ fields, Arranges e.2 (f e)) :
    Arranges fields.toValue (Fields.toValue ((byName fields).map fun e => (e.1, f e))) where
  arranged := by
    refine .map ?_ (List.forall_mem_map.2 fun e he => (h e (mem_byName.1 he)).arranged)
    rw [Assoc.keys, List.map_map]
    exact pairwise_keys_byName hkeys
  same := by
    refine .map ?_ fun k v w hv hw => ?_
    · rw [Assoc.keys, Assoc.keys, List.map_map]
      exact ((perm_byName fields).map Prod.fst).symm
    · obtain ⟨e, he, heq⟩ := List.mem_map.1 hw
      obtain ⟨rfl, rfl⟩ := Prod.mk.inj heq
      -- No key comes twice, so the two entries of the key are one.
      have hget : Assoc.get? fields e.1 = some v := Assoc.get?_of_mem hkeys hv
      rw [Assoc.get?_of_mem hkeys (mem_byName.1 he)] at hget
      obtain rfl := Option.some.inj hget
      exact (h e (mem_byName.1 he)).same
  writes _ := write_map fun e he => (h e he).writes _

/-- Every tree has an arrangement. -/
theorem exists_arranges (h : v.IsTree) : ∃ w, Arranges v w := by
  induction h with
  | null => exact ⟨_, arranges_of_leaf .null .null fun _ => rfl⟩
  | bool b => exact ⟨_, arranges_of_leaf (.bool b) (.bool b) fun _ => rfl⟩
  | int n h => exact ⟨_, arranges_of_leaf (.int n h) (.int n) fun _ => rfl⟩
  | text s => exact ⟨_, arranges_of_leaf (.text s) (.text s) fun _ => rfl⟩
  | list _ ih =>
    choose! f hf using ih
    exact ⟨_, arranges_list hf⟩
  | map hkeys _ ih =>
    choose! f hf using ih
    exact ⟨_, arranges_map hkeys hf⟩

/-! ## Canonical texts -/

/-- Trees are written alike, sorted by key, exactly if they are the same up to the order of
keys. -/
theorem print_eq_iff (h : v.IsTree) (h' : v'.IsTree) : ∃ s s', print .sortedLine v = .ok s ∧
    print .sortedLine v' = .ok s' ∧ (s = s' ↔ v.SameTree v') := by
  obtain ⟨w, hw⟩ := exists_arranges h
  obtain ⟨w', hw'⟩ := exists_arranges h'
  obtain ⟨s, hprint, -, hread⟩ := exists_print hw.arranged.isTree
  obtain ⟨s', hprint', -, hread'⟩ := exists_print hw'.arranged.isTree
  refine ⟨s, s', (hw.writes 0).trans hprint, (hw'.writes 0).trans hprint', ?_, fun hsame => ?_⟩
  · rintro rfl
    obtain rfl := Option.some.inj (hread.symm.trans hread')
    exact hw.same.trans hw'.same.symm
  · have hsame' := (hw.same.symm.trans hsame).trans hw'.same
    obtain rfl := hw.arranged.eq hw'.arranged hsame'
    exact Except.ok.inj (hprint.symm.trans hprint')

end QueryTelemetry.Json

namespace QueryTelemetry.Trace

/-- Variables that are JSON trees are written out, and two of them are written alike exactly
if they are the same up to the order of keys at every depth. -/
theorem written_eq_iff_sameTree {fields fields' : Fields} (h : fields.toValue.IsTree)
    (h' : fields'.toValue.IsTree) :
    ∃ s s', writeVariables fields.toValue = .ok (.text s) ∧
      writeVariables fields'.toValue = .ok (.text s') ∧
      (s = s' ↔ fields.toValue.SameTree fields'.toValue) := by
  obtain ⟨s, s', hprint, hprint', hiff⟩ := Json.print_eq_iff h h'
  have hsorted : ∀ fields : Fields,
      sortedJson fields.toValue = Json.print .sortedLine fields.toValue := fun _ => rfl
  refine ⟨s, s', ?_, ?_, hiff⟩
  · rw [writeVariables, hsorted, hprint]
  · rw [writeVariables, hsorted, hprint']

/-- Variables with a map among them, in two orders of their keys, and with a number in the
place of a truth value. -/
theorem written_eq_reordered :
    let v (flag : Value) : Fields :=
      [("flag", flag), ("user", Fields.toValue [("name", .text "é"), ("id", .null)])]
    let w : Fields :=
      [("user", Fields.toValue [("id", .null), ("name", .text "é")]), ("flag", .bool true)]
    ∃ s s', writeVariables (v (.bool true)).toValue = .ok (.text s) ∧
      writeVariables w.toValue = .ok (.text s) ∧
      writeVariables (v (.int 1)).toValue = .ok (.text s') ∧ s ≠ s' := by
  intro v w
  have hone : (Value.int 1).IsTree := .int 1 (by decide)
  have huser : (Fields.toValue [("name", .text "é"), ("id", .null)]).IsTree :=
    .map (by decide) (by simpa using ⟨.text "é", .null⟩)
  have huser' : (Fields.toValue [("id", .null), ("name", .text "é")]).IsTree :=
    .map (by decide) (by simpa using ⟨.null, .text "é"⟩)
  have hv : ∀ flag : Value, flag.IsTree → (v flag).toValue.IsTree := fun flag hflag =>
    .map (show ["flag", "user"].Nodup by decide) (by simpa [v] using ⟨hflag, huser⟩)
  have hw : w.toValue.IsTree :=
    .map (show ["user", "flag"].Nodup by decide) (by simpa [w] using ⟨huser', .bool true⟩)
  have hsame : (v (.bool true)).toValue.SameTree w.toValue := by
    refine .map (show ["flag", "user"].Perm ["user", "flag"] by decide) ?_
    simp only [v, w, List.mem_cons, List.not_mem_nil, or_false, Prod.mk.injEq]
    rintro k v w (⟨rfl, rfl⟩ | ⟨rfl, rfl⟩) (⟨hk, rfl⟩ | ⟨hk, rfl⟩)
    · exact absurd hk (by decide)
    · exact .bool true
    · refine .map (show ["name", "id"].Perm ["id", "name"] by decide) ?_
      simp only [List.mem_cons, List.not_mem_nil, or_false, Prod.mk.injEq]
      rintro k v w (⟨rfl, rfl⟩ | ⟨rfl, rfl⟩) (⟨hk, rfl⟩ | ⟨hk, rfl⟩)
      · exact absurd hk (by decide)
      · exact .text "é"
      · exact .null
      · exact absurd hk (by decide)
    · exact absurd hk (by decide)
  have hother : ¬ (v (.bool true)).toValue.SameTree (v (.int 1)).toValue := by
    intro h
    obtain ⟨fields, heq, -, hvalues⟩ := h.exists_of_map
    obtain rfl := Fields.toValue_injective heq
    cases hvalues "flag" _ _ List.mem_cons_self List.mem_cons_self
  obtain ⟨s, s₁, hs, hs₁, hiff⟩ := written_eq_iff_sameTree (hv _ (.bool true)) hw
  obtain ⟨s₂, s', hs₂, hs', hiff'⟩ := written_eq_iff_sameTree (hv _ (.bool true)) (hv _ hone)
  obtain rfl := hiff.2 hsame
  obtain rfl : s = s₂ := Written.text.inj (Except.ok.inj (hs.symm.trans hs₂))
  exact ⟨s, s', hs, hs₁, hs', fun heq => hother (hiff'.1 heq)⟩

end QueryTelemetry.Trace
