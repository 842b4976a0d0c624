import Mathlib.Data.List.Basic
import QueryTelemetry.Text.Numeral
import QueryTelemetry.Value.Keys

/-!
# JSON trees

The data that JSON has a form for: null, truth values, whole numbers that are not too
long, texts, lists of trees and maps of trees whose keys are texts, each key once
(`Value.IsTree`).  Two trees are the same up to the order of keys if they differ in
nothing else, at any depth (`Value.SameTree`).
-/

namespace QueryTelemetry

/-- A map laid over another one that shares no key with it goes behind it. -/
theorem Assoc.overlay_eq_append {κ ν : Type} [BEq κ] [LawfulBEq κ] {m n : List (κ × ν)}
    (h : (keys (m ++ n)).Nodup) : overlay m n = m ++ n := by
  induction n generalizing m with
  | nil => rw [overlay_nil, List.append_nil]
  | cons e n ih =>
    have hsplit : m ++ e :: n = (m ++ [e]) ++ n := by simp
    rw [hsplit] at h ⊢
    have hnew : has m e.1 = false := by
      refine Bool.eq_false_iff.2 fun hhas => ?_
      rw [keys, List.map_append, List.map_append] at h
      exact (List.nodup_append.1 (List.nodup_append.1 h).1).2.2 e.1
        (has_eq_true_iff.1 hhas) e.1 List.mem_cons_self rfl
    rw [overlay_cons, put_of_has_eq_false e.2 hnew]
    exact ih h

namespace Fields

theorem toEntries_cons (e : String × Value) (fields : Fields) :
    toEntries (e :: fields) = (.text e.1, e.2) :: toEntries fields := rfl

theorem toEntries_injective {fields fields' : Fields} (h : fields.toEntries = fields'.toEntries) :
    fields = fields' := by
  refine (List.map_inj_right fun e e' heq => ?_).1 h
  obtain ⟨hname, hitem⟩ := Prod.mk.inj heq
  exact Prod.ext (Value.text.inj hname) hitem

theorem toValue_injective {fields fields' : Fields} (h : fields.toValue = fields'.toValue) :
    fields = fields' :=
  toEntries_injective (Value.dict.inj h)

/-- Texts are the same key exactly if they are the same text. -/
theorem text_beq_text (a b : String) : (Value.text a == Value.text b) = (a == b) := by
  show Value.sameKey _ _ = _
  rw [Value.sameKey]

theorem put_toEntries (fields : Fields) (name : String) (v : Value) :
    Assoc.put fields.toEntries (.text name) v = toEntries (Assoc.put fields name v) := by
  induction fields with
  | nil => rfl
  | cons e fields ih =>
    rw [toEntries_cons, Assoc.put, Assoc.put, text_beq_text, ih]
    split <;> rfl

theorem overlay_toEntries (m n : Fields) :
    Assoc.overlay m.toEntries n.toEntries = toEntries (Assoc.overlay m n) := by
  induction n generalizing m with
  | nil => rfl
  | cons e n ih =>
    rw [toEntries_cons, Assoc.overlay_cons, Assoc.overlay_cons, ← ih, put_toEntries]

/-- A map without repeated keys is what its entries make when they are written one after
the other. -/
theorem overlay_nil_toEntries {fields : Fields} (h : (Assoc.keys fields).Nodup) :
    Assoc.overlay [] fields.toEntries = fields.toEntries := by
  have happend := Assoc.overlay_eq_append (m := ([] : Fields)) h
  exact (overlay_toEntries [] fields).trans (congrArg toEntries happend)

end Fields

namespace Value

/-- A value that is a JSON tree, with a condition on the keys of each of its maps. -/
inductive IsTreeWith (keyed : List String → Prop) : Value → Prop
  | null : IsTreeWith keyed .null
  | bool (b : Bool) : IsTreeWith keyed (.bool b)
  | int (n : Int) (h : (toString n.natAbs).length ≤ Text.digitLimit) : IsTreeWith keyed (.int n)
  | text (s : String) : IsTreeWith keyed (.text s)
  | list {items : List Value} (h : ∀ v ∈ items, IsTreeWith keyed v) : IsTreeWith keyed (.list items)
  | map {fields : Fields} (hkeys : keyed (Assoc.keys fields))
      (h : ∀ e ∈ fields, IsTreeWith keyed e.2) : IsTreeWith keyed fields.toValue

/-- A value that is a JSON tree. -/
abbrev IsTree (v : Value) : Prop := v.IsTreeWith List.Nodup

/-- A JSON tree whose maps are all in the order of their keys. -/
abbrev IsArranged (v : Value) : Prop := v.IsTreeWith (List.Pairwise (· < ·))

section

variable {keyed : List String → Prop}

theorem isTreeWith_list_iff {items : List Value} :
    IsTreeWith keyed (.list items) ↔ ∀ v ∈ items, v.IsTreeWith keyed := by
  constructor
  · rintro ⟨⟩
    assumption
  · exact .list

theorem isTreeWith_toValue_iff {fields : Fields} : fields.toValue.IsTreeWith keyed ↔
    keyed (Assoc.keys fields) ∧ ∀ e ∈ fields, e.2.IsTreeWith keyed := by
  constructor
  · intro h
    generalize hv : fields.toValue = v at h
    cases h with
    | map hkeys h =>
      rw [Fields.toValue_injective hv]
      exact ⟨hkeys, h⟩
    | _ => cases hv
  · rintro ⟨hkeys, h⟩
    exact .map hkeys h

theorem IsArranged.isTree {v : Value} (h : v.IsArranged) : v.IsTree := by
  induction h with
  | null => exact .null
  | bool b => exact .bool b
  | int n h => exact .int n h
  | text s => exact .text s
  | list _ ih => exact .list ih
  | map hkeys _ ih => exact .map (hkeys.imp fun h => (String.ne_of_lt h)) ih

end

/-! ## Trees up to the order of keys -/

/-- The same tree up to the order of keys: the same leaf, lists of the same trees item by
item, or maps with the same keys in some order that have the same tree at each of them. -/
inductive SameTree : Value → Value → Prop
  | null : SameTree .null .null
  | bool (b : Bool) : SameTree (.bool b) (.bool b)
  | int (n : Int) : SameTree (.int n) (.int n)
  | text (s : String) : SameTree (.text s) (.text s)
  | list {items items' : List Value} (hlength : items.length = items'.length)
      (h : ∀ (i : Nat) (v w : Value), items[i]? = some v → items'[i]? = some w → SameTree v w) :
      SameTree (.list items) (.list items')
  | map {fields fields' : Fields} (hkeys : (Assoc.keys fields).Perm (Assoc.keys fields'))
      (h : ∀ k v w, (k, v) ∈ fields → (k, w) ∈ fields' → SameTree v w) :
      SameTree fields.toValue fields'.toValue

namespace SameTree

variable {u v w : Value}

theorem symm (h : SameTree v w) : SameTree w v := by
  induction h with
  | null => exact .null
  | bool b => exact .bool b
  | int n => exact .int n
  | text s => exact .text s
  | list hlength _ ih => exact .list hlength.symm fun i v w hv hw => ih i w v hw hv
  | map hkeys _ ih => exact .map hkeys.symm fun k v w hv hw => ih k w v hw hv

theorem exists_of_list {items : List Value} (h : SameTree (.list items) w) :
    ∃ items', w = .list items' ∧ items.length = items'.length ∧
      ∀ (i : Nat) (v w : Value), items[i]? = some v → items'[i]? = some w → SameTree v w := by
  cases h with
  | list hlength h => exact ⟨_, rfl, hlength, h⟩

theorem exists_of_map {fields : Fields} (h : SameTree fields.toValue w) :
    ∃ fields' : Fields, w = fields'.toValue ∧ (Assoc.keys fields).Perm (Assoc.keys fields') ∧
      ∀ k v w, (k, v) ∈ fields → (k, w) ∈ fields' → SameTree v w := by
  generalize hv : fields.toValue = v at h
  cases h with
  | map hkeys h =>
    rw [Fields.toValue_injective hv]
    exact ⟨_, rfl, hkeys, h⟩
  | _ => cases hv

theorem trans (h : SameTree u v) (h' : SameTree v w) : SameTree u w := by
  induction h generalizing w with
  | null | bool | int | text => exact h'
  | @list items items' hlength _ ih =>
    obtain ⟨items'', rfl, hlength', hsame⟩ := exists_of_list h'
    refine .list (hlength.trans hlength') fun i v w hv hw => ?_
    have hi : i < items'.length := hlength ▸ (List.getElem?_eq_some_iff.1 hv).1
    have hmiddle := List.getElem?_eq_getElem hi
    exact ih i v _ hv hmiddle (hsame i _ w hmiddle hw)
  | @map fields fields' hkeys _ ih =>
    obtain ⟨fields'', rfl, hkeys', hsame⟩ := exists_of_map h'
    refine .map (hkeys.trans hkeys') fun k v w hv hw => ?_
    have hk : k ∈ Assoc.keys fields' := hkeys.subset (List.mem_map_of_mem hv)
    obtain ⟨⟨k', u⟩, hu, rfl⟩ := List.mem_map.1 hk
    exact ih k' v u hv hu (hsame k' u w hu hw)

end SameTree

/-- Maps with the same keys that say the same about each of them are the same. -/
theorem eq_of_keys_eq {fields fields' : Fields} (hkeys : Assoc.keys fields = Assoc.keys fields')
    (h : ∀ k v w, (k, v) ∈ fields → (k, w) ∈ fields' → v = w) : fields = fields' := by
  induction fields generalizing fields' with
  | nil => exact (List.map_eq_nil_iff.1 hkeys.symm).symm
  | cons e fields ih =>
    obtain ⟨⟨k, w⟩, fields', rfl, rfl, hmore⟩ := List.map_eq_cons_iff.1 hkeys.symm
    have hfirst : e.2 = w := h e.1 e.2 w List.mem_cons_self List.mem_cons_self
    have hothers := ih hmore.symm fun k v w hv hw =>
      h k v w (List.mem_cons_of_mem _ hv) (List.mem_cons_of_mem _ hw)
    rw [← hfirst, hothers]

/-- No two arrangements are the same tree. -/
theorem IsArranged.eq {v w : Value} (hv : v.IsArranged) (hw : w.IsArranged) (h : SameTree v w) :
    v = w := by
  induction h with
  | null | bool | int | text => rfl
  | list hlength _ ih =>
    replace hv := isTreeWith_list_iff.1 hv
    replace hw := isTreeWith_list_iff.1 hw
    refine congrArg _ (List.ext_getElem hlength fun i hi hi' => ?_)
    exact ih i _ _ (List.getElem?_eq_getElem hi) (List.getElem?_eq_getElem hi')
      (hv _ (List.getElem_mem hi)) (hw _ (List.getElem_mem hi'))
  | map hkeys _ ih =>
    replace hv := isTreeWith_toValue_iff.1 hv
    replace hw := isTreeWith_toValue_iff.1 hw
    refine congrArg _ (eq_of_keys_eq ?_ fun k v w hkv hkw => ?_)
    · exact List.Perm.eq_of_pairwise (fun a b _ _ hab hba => absurd hba (String.lt_asymm hab))
        hv.1 hw.1 hkeys
    · exact ih k v w hkv hkw (hv.2 _ hkv) (hw.2 _ hkw)

end Value

end QueryTelemetry
