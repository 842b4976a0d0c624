import Mathlib.Data.List.Induction
import Mathlib.Order.Bounds.Basic
import QueryTelemetry.Trace.SlotTree

/-!
# The order of live slots

A slot tree is used in any way: slots are entered, left and looked up, and the tree
is drained.  `entries` are the times at which a slot is entered, so what the tree
holds can be compared with what was done to it.

A live slot holds the context of its most recent entry that was not rejected
(`get?_used_iff`), and draining returns every live slot once.  What the tree says
about the order of the slots is less: a slot that is entered while it is live keeps
its place.  So the slots are listed by the times at which they became live.  This
is the order of their most recent entries for as long as no live slot but the last
one is entered again (`drained_in_entry_order`).  In a strict tree no entry of a
live slot succeeds, and the two orders agree.  `reentered_slot_keeps_place` is a
tree in which they do not.
-/

namespace QueryTelemetry.Trace.SlotTree

/-! ## Uses of a tree -/

/-- A use of a slot tree. -/
inductive Use where
  | enter (k : Slot) (c : Context)
  | exit (k : Slot)
  | get (k : Slot)
  | drain

/-- A use leaves a slot. -/
def Use.Leaves (u : Use) (k : Slot) : Prop := u = .exit k ∨ u = .drain

/-- The tree after a use. -/
def after (t : SlotTree) : Use → SlotTree
  | .enter k c => (t.enter k c).2
  | .exit k => (t.exit k).2
  | .get _ => t
  | .drain => t.drain.2

/-- A new tree after some uses. -/
def used (strict : Bool) (us : List Use) : SlotTree := us.foldl after (.empty strict)

/-- The times at which a slot is entered with certain results. -/
def entries (strict : Bool) (us : List Use) (result : Entered → Prop) (k : Slot) : Set Nat :=
  {p | ∃ c, us[p]? = some (.enter k c) ∧ result ((used strict (us.take p)).enter k c).1}

/-- The live slots are listed by the times of their most recent entries with certain
results. -/
structure ListedBy (result : Entered → Prop) (strict : Bool) (us : List Use) : Prop where
  entered : ∀ k ∈ (used strict us).keys, ∃ p, IsGreatest (entries strict us result k) p
  rising : (used strict us).keys.Pairwise fun k k' => ∀ p p',
    IsGreatest (entries strict us result k) p → IsGreatest (entries strict us result k') p' → p < p'

/-- The contexts that draining returns. -/
structure Drains (strict : Bool) (us : List Use) : Prop where
  /-- A slot is live if it was entered and not left since. -/
  live : ∀ k, k ∈ (used strict us).keys ↔ ∃ p, IsGreatest (entries strict us (· ≠ .rejected) k) p ∧
    ∀ q u, p < q → us[q]? = some u → ¬ u.Leaves k
  once : (used strict us).keys.Nodup
  /-- Draining returns the live slots in the order opposite to the one in which they are listed. -/
  opposite : (used strict us).drain.1.map (·.1) = (used strict us).keys.reverse
  latest : ∀ e ∈ (used strict us).drain.1, ∃ p,
    IsGreatest (entries strict us (· ≠ .rejected) e.1) p ∧ us[p]? = some (.enter e.1 e.2)
  emptied : (used strict us).drain.2.keys = []

/-! ## What one use does -/

section

variable {t : SlotTree} {u : Use} {k : Slot} {c : Context}

/-- Everything that entering a slot can do. -/
theorem enter_cases (t : SlotTree) (k : Slot) (c : Context) :
    ((t.enter k c).1 = .fresh ∧ k ∉ t.keys ∧ (t.enter k c).2.keys = t.keys ++ [k]) ∨
      ((t.enter k c).1 = .replaced ∧ k ∈ t.keys ∧ t.strict = false ∧
        (t.enter k c).2.keys = t.keys) ∨
      ((t.enter k c).1 = .rejected ∧ t.strict = true ∧ (t.enter k c).2 = t) := by
  have hkeys := Assoc.keys_put t.slots k c
  by_cases hlive : t.isLive k = true
  · rw [show Assoc.has t.slots k = true from hlive, if_pos rfl] at hkeys
    by_cases hstrict : t.strict = true
    · exact .inr (.inr ⟨by simp [enter, hlive, hstrict], hstrict, by simp [enter, hlive, hstrict]⟩)
    · refine .inr (.inl ⟨by simp [enter, hlive, hstrict], isLive_iff_mem_keys.1 hlive,
        by simpa using hstrict, ?_⟩)
      rw [enter, if_pos hlive, if_neg hstrict]
      exact hkeys
  · rw [if_neg (show ¬ Assoc.has t.slots k = true from hlive)] at hkeys
    refine .inl ⟨by simp [enter, hlive], mt isLive_iff_mem_keys.2 hlive, ?_⟩
    rw [enter, if_neg hlive]
    exact hkeys

theorem strict_after (t : SlotTree) (u : Use) : (t.after u).strict = t.strict := by
  cases u with
  | enter k c =>
    simp only [after, enter]
    split
    · split <;> rfl
    · rfl
  | exit | get | drain => rfl

theorem nodup_after (h : t.keys.Nodup) (u : Use) : (t.after u).keys.Nodup := by
  cases u with
  | enter k c => exact nodup_keys_enter h k c
  | exit k => exact nodup_keys_exit h k
  | get => exact h
  | drain => exact List.nodup_nil

/-- Only a slot that was not live takes a place of its own in the order. -/
theorem keys_after_sublist (h : ∀ k c, u = .enter k c → (t.enter k c).1 ≠ .fresh) :
    (t.after u).keys.Sublist t.keys := by
  cases u with
  | enter k c =>
    rcases enter_cases t k c with ⟨hfresh, -⟩ | ⟨-, -, -, hkeys⟩ | ⟨-, -, htree⟩
    · exact absurd hfresh (h k c rfl)
    · exact hkeys ▸ List.Sublist.refl _
    · exact (congrArg keys htree) ▸ List.Sublist.refl _
  | exit k =>
    show (Assoc.keys (Assoc.remove t.slots k)).Sublist t.keys
    rw [Assoc.keys_remove]
    exact List.filter_sublist
  | get => exact List.Sublist.refl _
  | drain => exact List.nil_sublist _

theorem get?_after_of_entered (h : (t.enter k c).1 ≠ .rejected) :
    (t.after (.enter k c)).get? k = some c := by
  have haccepted : (t.isLive k && t.strict) = false := by
    refine Bool.eq_false_iff.2 fun hand => h ?_
    obtain ⟨hlive, hstrict⟩ := Bool.and_eq_true_iff.1 hand
    simp [enter, hlive, hstrict]
  rw [after, get?_enter haccepted, if_pos rfl]

theorem get?_after_of_leaves (h : u.Leaves k) : (t.after u).get? k = none := by
  rcases h with rfl | rfl
  · rw [after, get?_exit, if_pos rfl]
  · rfl

/-- A use that neither leaves a slot nor enters it with success keeps its context. -/
theorem get?_after_of_idle (hleaves : ¬ u.Leaves k)
    (henter : ∀ c, u = .enter k c → (t.enter k c).1 = .rejected) :
    (t.after u).get? k = t.get? k := by
  cases u with
  | enter k' c =>
    by_cases hk : k = k'
    · subst hk
      rcases enter_cases t k c with ⟨h, -⟩ | ⟨h, -⟩ | ⟨-, -, htree⟩
      · exact absurd (h.symm.trans (henter c rfl)) (by decide)
      · exact absurd (h.symm.trans (henter c rfl)) (by decide)
      · rw [after, htree]
    · by_cases hrejected : (t.isLive k' && t.strict) = false
      · rw [after, get?_enter hrejected, if_neg hk]
      · simp only [Bool.not_eq_false, Bool.and_eq_true] at hrejected
        simp [after, enter, hrejected]
  | exit k' =>
    have hk : k ≠ k' := fun hk => hleaves (.inl (by rw [hk]))
    rw [after, get?_exit, if_neg hk]
  | get => rfl
  | drain => exact absurd (.inr rfl) hleaves

end

/-! ## Runs and the times of entries -/

section

variable {strict : Bool} {us : List Use} {u : Use} {result : Entered → Prop} {k : Slot}
  {c : Context} {p : Nat}

theorem used_concat (strict : Bool) (us : List Use) (u : Use) :
    used strict (us ++ [u]) = (used strict us).after u := by
  simp [used]

theorem strict_used (strict : Bool) (us : List Use) : (used strict us).strict = strict := by
  induction us using List.reverseRecOn with
  | nil => rfl
  | append_singleton us u ih => rw [used_concat, strict_after, ih]

theorem nodup_used (strict : Bool) (us : List Use) : (used strict us).keys.Nodup := by
  induction us using List.reverseRecOn with
  | nil => exact List.nodup_nil
  | append_singleton us u ih =>
    rw [used_concat]
    exact nodup_after ih u

/-- What is done at a time of a run was done before, or it is the last use. -/
theorem getElem?_concat_iff {q : Nat} {u' : Use} :
    (us ++ [u])[q]? = some u' ↔ us[q]? = some u' ∨ q = us.length ∧ u = u' := by
  rcases Nat.lt_trichotomy q us.length with hlt | rfl | hgt
  · simp [List.getElem?_append_left hlt, Nat.ne_of_lt hlt]
  · simp
  · have hnone : us[q]? = none := List.getElem?_eq_none (Nat.le_of_lt hgt)
    rw [List.getElem?_append_right (Nat.le_of_lt hgt), hnone,
      List.getElem?_eq_none (by simp; omega)]
    simp [Nat.ne_of_gt hgt]

theorem lt_length_of_mem_entries (h : p ∈ entries strict us result k) : p < us.length := by
  obtain ⟨c, hu, -⟩ := h
  exact (List.getElem?_eq_some_iff.1 hu).1

theorem mem_entries_concat : p ∈ entries strict (us ++ [u]) result k ↔
    p ∈ entries strict us result k ∨
      p = us.length ∧ ∃ c, u = .enter k c ∧ result ((used strict us).enter k c).1 := by
  have htake : ∀ {c}, us[p]? = some (.enter k c) → (us ++ [u]).take p = us.take p := by
    intro c hu
    exact List.take_append_of_le_length (Nat.le_of_lt (List.getElem?_eq_some_iff.1 hu).1)
  simp only [entries, Set.mem_ofPred_eq, getElem?_concat_iff]
  constructor
  · rintro ⟨c, hu | ⟨rfl, hu⟩, hresult⟩
    · exact .inl ⟨c, hu, htake hu ▸ hresult⟩
    · rw [List.take_left] at hresult
      exact .inr ⟨rfl, c, hu, hresult⟩
  · rintro (⟨c, hu, hresult⟩ | ⟨rfl, c, hu, hresult⟩)
    · exact ⟨c, .inl hu, (htake hu).symm ▸ hresult⟩
    · exact ⟨c, .inr ⟨rfl, hu⟩, by rwa [List.take_left]⟩

/-- A use that is no entry of the slot with such a result adds no time. -/
theorem entries_concat_of_idle
    (h : ∀ c, u = .enter k c → ¬ result ((used strict us).enter k c).1) :
    entries strict (us ++ [u]) result k = entries strict us result k := by
  ext p
  rw [mem_entries_concat]
  exact or_iff_left fun ⟨_, c, hu, hresult⟩ => h c hu hresult

/-- The last use is the most recent entry of the slot that it enters. -/
theorem isGreatest_concat (h : result ((used strict us).enter k c).1) :
    IsGreatest (entries strict (us ++ [.enter k c]) result k) p ↔ p = us.length := by
  have hgreatest : IsGreatest (entries strict (us ++ [.enter k c]) result k) us.length := by
    refine ⟨mem_entries_concat.2 (.inr ⟨rfl, c, rfl, h⟩), fun p hp => ?_⟩
    rcases mem_entries_concat.1 hp with hp | ⟨rfl, -⟩
    · exact Nat.le_of_lt (lt_length_of_mem_entries hp)
    · exact Nat.le_refl _
  exact ⟨fun hp => hp.unique hgreatest, fun hp => hp ▸ hgreatest⟩

/-- A slot holds a context if that was entered with success most recently and the slot
was not left since. -/
theorem get?_used_iff (strict : Bool) (us : List Use) (k : Slot) (c : Context) :
    (used strict us).get? k = some c ↔
      ∃ p, IsGreatest (entries strict us (· ≠ .rejected) k) p ∧ us[p]? = some (.enter k c) ∧
        ∀ q u, p < q → us[q]? = some u → ¬ u.Leaves k := by
  induction us using List.reverseRecOn generalizing c with
  | nil =>
    refine iff_of_false (fun h => by simp [used, empty, get?, Assoc.get?] at h) ?_
    rintro ⟨p, hp, -⟩
    exact absurd (lt_length_of_mem_entries hp.1) (Nat.not_lt_zero p)
  | append_singleton us u ih =>
    rw [used_concat]
    have hlast : (us ++ [u])[us.length]? = some u := getElem?_concat_iff.2 (.inr ⟨rfl, rfl⟩)
    by_cases hleaves : u.Leaves k
    · rw [get?_after_of_leaves hleaves]
      refine iff_of_false (by simp) ?_
      rintro ⟨p, ⟨hp, -⟩, -, hsince⟩
      have hidle : ∀ c, u = .enter k c → ¬ ((used strict us).enter k c).1 ≠ .rejected := by
        rintro c rfl
        exact absurd hleaves (by simp [Use.Leaves])
      rw [entries_concat_of_idle hidle] at hp
      exact hsince us.length u (lt_length_of_mem_entries hp) hlast hleaves
    by_cases hentered : ∃ c', u = .enter k c' ∧ ((used strict us).enter k c').1 ≠ .rejected
    · obtain ⟨c', rfl, hresult⟩ := hentered
      rw [get?_after_of_entered hresult]
      constructor
      · rintro ⟨⟩
        refine ⟨us.length, (isGreatest_concat hresult).2 rfl, hlast, fun q u hq hu => ?_⟩
        rcases getElem?_concat_iff.1 hu with hu | ⟨rfl, -⟩
        · exact absurd (List.getElem?_eq_some_iff.1 hu).1 (Nat.lt_asymm hq)
        · exact absurd hq (Nat.lt_irrefl _)
      · rintro ⟨p, hp, hu, -⟩
        obtain rfl := (isGreatest_concat hresult).1 hp
        simpa using hlast.symm.trans hu
    · -- Nothing is done to the slot, so its last entry is what it was.
      have hidle : ∀ c, u = .enter k c → ¬ ((used strict us).enter k c).1 ≠ .rejected :=
        fun c hu hresult => hentered ⟨c, hu, hresult⟩
      rw [get?_after_of_idle hleaves fun c hu => Classical.not_not.1 (hidle c hu), ih,
        entries_concat_of_idle hidle]
      refine exists_congr fun p => and_congr_right fun hp => ?_
      have hlt := lt_length_of_mem_entries hp.1
      rw [List.getElem?_append_left hlt]
      refine and_congr_right fun _ => ⟨fun hsince q u' hq hu' => ?_, fun hsince q u' hq hu' => ?_⟩
      · rcases getElem?_concat_iff.1 hu' with hu' | ⟨-, rfl⟩
        · exact hsince q u' hq hu'
        · exact hleaves
      · exact hsince q u' hq (getElem?_concat_iff.2 (.inl hu'))

/-- What draining a tree returns. -/
theorem drains (strict : Bool) (us : List Use) : Drains strict us := by
  have hnodup := nodup_used strict us
  refine ⟨fun k => ?_, hnodup, List.map_reverse .., fun e he => ?_, rfl⟩
  · rw [← isLive_iff_mem_keys, isLive_eq_isSome_get?, Option.isSome_iff_exists]
    constructor
    · rintro ⟨c, hget⟩
      obtain ⟨p, hp, -, hsince⟩ := (get?_used_iff strict us k c).1 hget
      exact ⟨p, hp, hsince⟩
    · rintro ⟨p, hp, hsince⟩
      obtain ⟨c, hu, -⟩ := id hp.1
      exact ⟨c, (get?_used_iff strict us k c).2 ⟨p, hp, hu, hsince⟩⟩
  · have hget := Assoc.get?_of_mem hnodup (List.mem_reverse.1 he)
    obtain ⟨p, hp, hu, -⟩ := (get?_used_iff strict us e.1 e.2).1 hget
    exact ⟨p, hp, hu⟩

end

/-! ## The order of the slots -/

namespace ListedBy

variable {strict : Bool} {us : List Use} {u : Use} {result : Entered → Prop} {k : Slot}
  {c : Context}

/-- The order stays while slots are only left. -/
theorem concat_of_idle (h : ListedBy result strict us)
    (hidle : ∀ k c, u = .enter k c → ¬ result ((used strict us).enter k c).1)
    (hkeys : (used strict (us ++ [u])).keys.Sublist (used strict us).keys) :
    ListedBy result strict (us ++ [u]) := by
  have hentries : ∀ k, entries strict (us ++ [u]) result k = entries strict us result k :=
    fun k => entries_concat_of_idle (hidle k)
  refine ⟨fun k hk => ?_, ?_⟩
  · rw [hentries]
    exact h.entered k (hkeys.subset hk)
  · simp only [hentries]
    exact h.rising.sublist hkeys

/-- The order stays when the slot that is entered is listed last. -/
theorem concat_of_last (h : ListedBy result strict us)
    (hresult : result ((used strict us).enter k c).1) {others : List Slot}
    (hothers : others.Sublist (used strict us).keys) (hk : k ∉ others)
    (hkeys : (used strict (us ++ [.enter k c])).keys = others ++ [k]) :
    ListedBy result strict (us ++ [.enter k c]) := by
  have hlast : ∀ p, IsGreatest (entries strict (us ++ [.enter k c]) result k) p ↔
      p = us.length := fun p => isGreatest_concat hresult
  have hentries : ∀ k' ∈ others, entries strict (us ++ [.enter k c]) result k' =
      entries strict us result k' := by
    intro k' hk'
    refine entries_concat_of_idle fun c' hu => ?_
    obtain ⟨rfl, -⟩ := Use.enter.inj hu
    exact absurd hk' hk
  refine ⟨fun k' hk' => ?_, ?_⟩
  · rw [hkeys] at hk'
    rcases List.mem_append.1 hk' with hk' | hk'
    · rw [hentries k' hk']
      exact h.entered k' (hothers.subset hk')
    · rw [List.mem_singleton.1 hk']
      exact ⟨us.length, (hlast _).2 rfl⟩
  · rw [hkeys]
    refine List.pairwise_append.2 ⟨?_, List.pairwise_singleton .., ?_⟩
    · refine (h.rising.sublist hothers).imp_of_mem fun {k₁ k₂} hk₁ hk₂ hrising => ?_
      rw [hentries k₁ hk₁, hentries k₂ hk₂]
      exact hrising
    · intro k' hk' k'' hk'' p p' hp hp'
      obtain rfl := List.mem_singleton.1 hk''
      obtain rfl := (hlast p').1 hp'
      rw [hentries k' hk'] at hp
      exact lt_length_of_mem_entries hp.1

end ListedBy

/-- Whatever is done to a tree, its slots are listed by the times at which they became
live. -/
theorem listedBy_fresh (strict : Bool) (us : List Use) : ListedBy (· = .fresh) strict us := by
  induction us using List.reverseRecOn with
  | nil => exact ⟨fun k hk => absurd hk List.not_mem_nil, List.Pairwise.nil⟩
  | append_singleton us u ih =>
    by_cases hfresh : ∃ k c, u = .enter k c ∧ ((used strict us).enter k c).1 = .fresh
    · obtain ⟨k, c, rfl, hfresh⟩ := hfresh
      rcases enter_cases (used strict us) k c with ⟨-, hdead, hkeys⟩ | ⟨h, -⟩ | ⟨h, -⟩
      · refine ih.concat_of_last hfresh (List.Sublist.refl _) hdead ?_
        rw [used_concat]
        exact hkeys
      · exact absurd (h.symm.trans hfresh) (by decide)
      · exact absurd (h.symm.trans hfresh) (by decide)
    · have hidle : ∀ k c, u = .enter k c → ((used strict us).enter k c).1 ≠ .fresh :=
        fun k c hu h => hfresh ⟨k, c, hu, h⟩
      refine ih.concat_of_idle hidle ?_
      rw [used_concat]
      exact keys_after_sublist hidle

/-- Whenever a live slot is entered with success, it is the last one. -/
def ReentersLast (strict : Bool) (us : List Use) : Prop :=
  ∀ before k c after, us = before ++ .enter k c :: after →
    ((used strict before).enter k c).1 = .replaced → (used strict before).keys.getLast? = some k

theorem ReentersLast.before {strict : Bool} {before after : List Use}
    (h : ReentersLast strict (before ++ after)) : ReentersLast strict before := by
  rintro before' k c after' rfl
  exact h before' k c (after' ++ after) (by simp)

/-- If no live slot but the last one is entered, the slots are listed by the times of
their most recent entries. -/
theorem ReentersLast.listedBy {strict : Bool} {us : List Use} (h : ReentersLast strict us) :
    ListedBy (· ≠ .rejected) strict us := by
  induction us using List.reverseRecOn with
  | nil => exact ⟨fun k hk => absurd hk List.not_mem_nil, List.Pairwise.nil⟩
  | append_singleton us u ih =>
    have ih := ih h.before
    by_cases hentered : ∃ k c, u = .enter k c ∧ ((used strict us).enter k c).1 ≠ .rejected
    · obtain ⟨k, c, rfl, hresult⟩ := hentered
      rcases enter_cases (used strict us) k c with ⟨-, hdead, hkeys⟩ | ⟨hreplaced, -, -, hkeys⟩ |
        ⟨hrejected, -⟩
      · refine ih.concat_of_last hresult (List.Sublist.refl _) hdead ?_
        rw [used_concat]
        exact hkeys
      · -- The slot keeps its place, which is the last one anyway.
        obtain ⟨others, hothers⟩ := List.getLast?_eq_some_iff.1 (h us k c [] rfl hreplaced)
        have hnodup := nodup_used strict us
        rw [hothers] at hnodup
        refine ih.concat_of_last hresult (?_ : others.Sublist _) ?_ ?_
        · rw [hothers]
          exact List.sublist_append_left ..
        · exact fun hk => (List.nodup_append.1 hnodup).2.2 k hk k (by simp) rfl
        · rw [used_concat, ← hothers]
          exact hkeys
      · exact absurd hrejected hresult
    · have hidle : ∀ k c, u = .enter k c → ¬ ((used strict us).enter k c).1 ≠ .rejected :=
        fun k c hu hresult => hentered ⟨k, c, hu, hresult⟩
      refine ih.concat_of_idle hidle ?_
      rw [used_concat]
      refine keys_after_sublist fun k c hu hfresh => hidle k c hu ?_
      rw [hfresh]
      decide

/-- A live slot that is entered again and is not the last one is listed too early. -/
theorem ListedBy.getLast?_eq {strict : Bool} {us : List Use} {k : Slot} {c : Context}
    (h : ListedBy (· ≠ .rejected) strict (us ++ [.enter k c]))
    (hreplaced : ((used strict us).enter k c).1 = .replaced) :
    (used strict us).keys.getLast? = some k := by
  have hresult : ((used strict us).enter k c).1 ≠ .rejected := by
    rw [hreplaced]
    decide
  obtain ⟨hlive, hkeys⟩ : k ∈ (used strict us).keys ∧
      (used strict (us ++ [.enter k c])).keys = (used strict us).keys := by
    rw [used_concat]
    rcases enter_cases (used strict us) k c with ⟨h, -⟩ | ⟨-, hlive, -, hkeys⟩ | ⟨h, -⟩
    · exact absurd (h.symm.trans hreplaced) (by decide)
    · exact ⟨hlive, hkeys⟩
    · exact absurd (h.symm.trans hreplaced) (by decide)
  obtain ⟨entered, rising⟩ := h
  rw [hkeys] at entered rising
  rcases List.eq_nil_or_concat (used strict us).keys with hnil | ⟨others, k', hothers⟩
  · rw [hnil] at hlive
    exact absurd hlive List.not_mem_nil
  rw [List.concat_eq_append] at hothers
  rw [hothers] at hlive entered rising ⊢
  rw [List.getLast?_concat]
  by_cases hk : k' = k
  · rw [hk]
  -- The last slot was entered before, and so it comes too late.
  have hk' : k ∈ others := (List.mem_append.1 hlive).resolve_right (by simpa using Ne.symm hk)
  obtain ⟨p', hp'⟩ := entered k' (by simp)
  have hlt := (List.pairwise_append.1 rising).2.2 k hk' k' (by simp) us.length p'
    ((isGreatest_concat hresult).2 rfl) hp'
  have hold : p' ∈ entries strict us (· ≠ .rejected) k' := by
    refine (mem_entries_concat.1 hp'.1).resolve_right ?_
    rintro ⟨-, c', hu, -⟩
    exact hk (Use.enter.inj hu).1.symm
  exact absurd (lt_length_of_mem_entries hold) (Nat.lt_asymm hlt)

/-- Draining a tree returns every live slot once, with the context of its most recent
successful entry, and leaves no slot.  The slots are listed by the times at which they
became live, and drained in the opposite order.  At every point of a run this is also
the order of their most recent successful entries if and only if no live slot but the
last one is ever entered with success.  In a strict tree it is. -/
theorem drained_in_entry_order (strict : Bool) (us : List Use) :
    Drains strict us ∧ ListedBy (· = .fresh) strict us ∧
      ((∀ before after, us = before ++ after → ListedBy (· ≠ .rejected) strict before) ↔
        ReentersLast strict us) ∧
      (strict = true → ListedBy (· ≠ .rejected) strict us) := by
  refine ⟨drains strict us, listedBy_fresh strict us, ⟨?_, ?_⟩, ?_⟩
  · rintro h before k c after rfl
    exact (h (before ++ [.enter k c]) after (by simp)).getLast?_eq
  · rintro h before after rfl
    exact h.before.listedBy
  · rintro rfl
    refine ReentersLast.listedBy fun before k c after _ hreplaced => ?_
    rcases enter_cases (used true before) k c with ⟨h, -⟩ | ⟨-, -, hstrict, -⟩ | ⟨h, -⟩
    · exact absurd (h.symm.trans hreplaced) (by decide)
    · exact absurd ((strict_used true before).symm.trans hstrict) (by decide)
    · exact absurd (h.symm.trans hreplaced) (by decide)

/-- A tree that is not strict is entered for the request, for parsing and for the
request again.  The request has been entered most recently, but it is listed first and
drained last. -/
theorem reentered_slot_keeps_place :
    let c (n : Nat) : Context := Context.empty.withSpan { identity := .invalid, entry := some n }
    let us : List Use := [.enter .request (c 1), .enter .parse (c 2), .enter .request (c 3)]
    (used false us).keys = [.request, .parse] ∧
      (used false us).drain.1 = [(.parse, c 2), (.request, c 3)] ∧
      ¬ ListedBy (· ≠ .rejected) false us := by
  intro c us
  have hkeys : (used false us).keys = [.request, .parse] := rfl
  refine ⟨hkeys, rfl, fun h => ?_⟩
  have hrequest : IsGreatest
      (entries false (us.take 2 ++ [.enter .request (c 3)]) (· ≠ .rejected) .request) 2 :=
    (isGreatest_concat (by decide)).2 rfl
  have hparse : IsGreatest
      (entries false (us.take 2 ++ [.enter .request (c 3)]) (· ≠ .rejected) .parse) 1 := by
    have hfirst : IsGreatest
        (entries false (us.take 1 ++ [.enter .parse (c 2)]) (· ≠ .rejected) .parse) 1 :=
      (isGreatest_concat (by decide)).2 rfl
    rw [entries_concat_of_idle]
    · exact hfirst
    · intro c' hu
      exact absurd (Use.enter.inj hu).1 (by decide)
  have hrising := h.rising
  rw [hkeys] at hrising
  exact absurd ((List.pairwise_cons.1 hrising).1 .parse (by simp) 2 1 hrequest hparse) (by decide)

end QueryTelemetry.Trace.SlotTree
