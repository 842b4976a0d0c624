/-!
# Ordered maps as lists of pairs

Maps of this library keep the order in which their keys were first written, because every text
and every answer shows it. A map is a list of pairs; `put` writes a key in place when the map has
it and appends it otherwise, so the keys of a map built by `put` are distinct.

The lemmas say what each operation does to the value of a key (`get?_put`, `get?_remove`) and to
the list of keys (`keys_put`, `keys_remove`). They hold for keys whose equality is that of the
logic, such as texts and slots.
-/

namespace QueryTelemetry.Assoc

variable {κ ν : Type} [BEq κ]

/-- The value of a key. -/
def get? (m : List (κ × ν)) (k : κ) : Option ν := m.lookup k

/-- Whether a map has a key. -/
def has (m : List (κ × ν)) (k : κ) : Bool := m.any (·.1 == k)

/-- Write a key: in place when the map has it, at the end otherwise. -/
def put : List (κ × ν) → κ → ν → List (κ × ν)
  | [], k, v => [(k, v)]
  | (k', v') :: m, k, v => if k' == k then (k', v) :: m else (k', v') :: put m k v

/-- Write every pair of the second map into the first. -/
def overlay (m n : List (κ × ν)) : List (κ × ν) := n.foldl (fun m e => put m e.1 e.2) m

/-- A map without a key. -/
def remove (m : List (κ × ν)) (k : κ) : List (κ × ν) := m.filter (!·.1 == k)

/-- The keys of a map in their order. -/
def keys (m : List (κ × ν)) : List κ := m.map (·.1)

theorem has_nil (k : κ) : has ([] : List (κ × ν)) k = false := rfl

theorem has_cons (k' : κ) (v : ν) (m : List (κ × ν)) (k : κ) :
    has ((k', v) :: m) k = (k' == k || has m k) := rfl

theorem put_of_has_eq_false {m : List (κ × ν)} {k : κ} (v : ν) (h : has m k = false) :
    put m k v = m ++ [(k, v)] := by
  induction m with
  | nil => rfl
  | cons e m ih =>
    simp only [has, List.any_cons, Bool.or_eq_false_iff] at h
    simp [put, h.1, ih (by simpa [has] using h.2)]

theorem overlay_nil (m : List (κ × ν)) : overlay m [] = m := rfl

theorem overlay_cons (m : List (κ × ν)) (e : κ × ν) (n : List (κ × ν)) :
    overlay m (e :: n) = overlay (put m e.1 e.2) n := rfl

theorem get?_cons (k' : κ) (v : ν) (m : List (κ × ν)) (k : κ) :
    get? ((k', v) :: m) k = if k == k' then some v else get? m k := by
  simp only [get?, List.lookup_cons]
  split <;> simp_all

theorem keys_remove (m : List (κ × ν)) (k : κ) : keys (remove m k) = (keys m).filter (!· == k) := by
  simp [keys, remove, List.filter_map, Function.comp_def]

section Lawful

variable [LawfulBEq κ]

theorem has_eq_true_iff {m : List (κ × ν)} {k : κ} : has m k = true ↔ k ∈ keys m := by
  simp only [has, List.any_eq_true, keys, List.mem_map]
  exact ⟨fun ⟨e, he, h⟩ => ⟨e, he, eq_of_beq h⟩, fun ⟨e, he, h⟩ => ⟨e, he, by simp [h]⟩⟩

theorem isSome_get? (m : List (κ × ν)) (k : κ) : (get? m k).isSome = has m k := by
  induction m with
  | nil => rfl
  | cons e m ih =>
    obtain ⟨k', v⟩ := e
    rw [get?_cons, has_cons, BEq.comm (a := k')]
    by_cases h : k = k' <;> simp [h, ih]

theorem get?_put (m : List (κ × ν)) (k : κ) (v : ν) (k' : κ) :
    get? (put m k v) k' = if k' == k then some v else get? m k' := by
  induction m with
  | nil => rw [put, get?_cons]
  | cons e m ih =>
    obtain ⟨k₁, v₁⟩ := e
    by_cases h : k₁ = k
    · by_cases h' : k' = k <;> simp [put, get?_cons, h, h']
    · by_cases h' : k' = k₁ <;> simp [put, get?_cons, h, h', ih]

theorem has_put (m : List (κ × ν)) (k : κ) (v : ν) (k' : κ) :
    has (put m k v) k' = (k' == k || has m k') := by
  rw [← isSome_get?, ← isSome_get?, get?_put]
  by_cases h : k' = k <;> simp [h]

/-- Writing a key keeps the order of the keys and adds at most that key, at the end. -/
theorem keys_put (m : List (κ × ν)) (k : κ) (v : ν) :
    keys (put m k v) = if has m k then keys m else keys m ++ [k] := by
  induction m with
  | nil => rfl
  | cons e m ih =>
    obtain ⟨k₁, v₁⟩ := e
    simp only [keys, put, has_cons] at ih ⊢
    by_cases h : k₁ = k
    · simp [h]
    · by_cases hm : has m k = true <;> simp_all

theorem nodup_keys_put {m : List (κ × ν)} (h : (keys m).Nodup) (k : κ) (v : ν) :
    (keys (put m k v)).Nodup := by
  rw [keys_put]
  split
  · exact h
  · next hk =>
    refine List.nodup_append.2 ⟨h, List.nodup_cons.2 ⟨List.not_mem_nil, List.nodup_nil⟩, ?_⟩
    rintro a ha b hb rfl
    rw [List.mem_singleton.1 hb] at ha
    exact hk (has_eq_true_iff.2 ha)

theorem nodup_keys_overlay {m : List (κ × ν)} (h : (keys m).Nodup) (n : List (κ × ν)) :
    (keys (overlay m n)).Nodup := by
  induction n generalizing m with
  | nil => exact h
  | cons e n ih => exact ih (nodup_keys_put h e.1 e.2)

theorem eq_or_mem_of_mem_put {m : List (κ × ν)} {k : κ} {v : ν} {e : κ × ν}
    (h : e ∈ put m k v) : e = (k, v) ∨ e ∈ m := by
  induction m with
  | nil => exact .inl (List.mem_singleton.1 h)
  | cons e' m ih =>
    rw [put] at h
    split at h
    · next hk =>
      rcases List.mem_cons.1 h with rfl | h
      · exact .inl (by rw [eq_of_beq hk])
      · exact .inr (List.mem_cons_of_mem _ h)
    · rcases List.mem_cons.1 h with rfl | h
      · exact .inr List.mem_cons_self
      · exact (ih h).imp_right (List.mem_cons_of_mem _)

theorem mem_or_mem_of_mem_overlay {m n : List (κ × ν)} {e : κ × ν} (h : e ∈ overlay m n) :
    e ∈ m ∨ e ∈ n := by
  induction n generalizing m with
  | nil => exact .inl h
  | cons e' n ih =>
    rcases ih h with h | h
    · rcases eq_or_mem_of_mem_put h with rfl | h
      · exact .inr List.mem_cons_self
      · exact .inl h
    · exact .inr (List.mem_cons_of_mem _ h)

theorem has_overlay (m n : List (κ × ν)) (k : κ) : has (overlay m n) k = (has m k || has n k) := by
  induction n generalizing m with
  | nil => rw [overlay_nil, has_nil, Bool.or_false]
  | cons e n ih =>
    rw [overlay_cons, ih, has_put, has_cons, BEq.comm (a := k)]
    cases has m k <;> cases e.1 == k <;> rfl

theorem mem_of_get? {m : List (κ × ν)} {k : κ} {v : ν} (h : get? m k = some v) : (k, v) ∈ m := by
  obtain ⟨before, after, rfl, -⟩ := List.lookup_eq_some_iff.1 h
  exact List.mem_append_right _ List.mem_cons_self

theorem get?_remove (m : List (κ × ν)) (k k' : κ) :
    get? (remove m k) k' = if k' == k then none else get? m k' := by
  induction m with
  | nil => simp [remove, get?]
  | cons e m ih =>
    obtain ⟨k₁, v₁⟩ := e
    simp only [remove, List.filter_cons] at ih ⊢
    by_cases h : k₁ = k
    · by_cases h' : k' = k <;> simp_all [get?_cons]
    · by_cases h' : k' = k₁ <;> simp [get?_cons, h, h', ih]

/-- Every pair of a map with distinct keys is found. -/
theorem get?_of_mem {m : List (κ × ν)} (h : (keys m).Nodup) {e : κ × ν} (he : e ∈ m) :
    get? m e.1 = some e.2 := by
  obtain ⟨before, after, rfl⟩ := List.append_of_mem he
  refine List.lookup_eq_some_iff.2 ⟨before, after, rfl, ?_⟩
  intro p hp
  have hne : p.1 ≠ e.1 := by
    rw [keys, List.map_append] at h
    exact (List.nodup_append.1 h).2.2 p.1 (List.mem_map_of_mem hp) e.1 (by simp)
  simpa using hne.symm

/-- A map with distinct keys splits at every pair that is found, and the key occurs on neither
side. -/
theorem exists_split_of_get? {m : List (κ × ν)} (h : (keys m).Nodup) {k : κ} {v : ν}
    (hget : get? m k = some v) :
    ∃ before after, m = before ++ (k, v) :: after ∧
      (∀ e ∈ before, e.1 ≠ k) ∧ ∀ e ∈ after, e.1 ≠ k := by
  obtain ⟨before, after, rfl, -⟩ := List.lookup_eq_some_iff.1 hget
  rw [keys, List.map_append, List.map_cons] at h
  obtain ⟨-, hright, hcross⟩ := List.nodup_append.1 h
  refine ⟨before, after, rfl, ?_, ?_⟩
  · intro e he
    exact hcross e.1 (List.mem_map_of_mem he) k (by simp)
  · intro e he heq
    have hmem : e.1 ∈ after.map (·.1) := List.mem_map_of_mem he
    exact (List.nodup_cons.1 hright).1 (heq ▸ hmem)

end Lawful

end QueryTelemetry.Assoc
