import Mathlib.Data.List.Perm.Basic
import QueryTelemetry.Proofs.Fault.Steps
import QueryTelemetry.Sorting

/-!
# Sorting keeps every item

Each step of sorting moves items and neither loses nor invents one, whatever the
comparison says: a run is a part of the list, a merge on its way holds the items
of both runs (`Merge.items`), and a stack of runs those that were put on it
(`Stack.items`).  So a sorted list has the items of the list that was sorted
(`sorted_perm`).
-/

namespace QueryTelemetry.Sorting

variable {α ε : Type} {lt : Comparison α ε}

/-! ## Runs -/

theorem append_of_runOn {down : Bool} {last : α} {items run rest : List α}
    (h : runOn lt down last items = .ok (run, rest)) : run ++ rest = items := by
  induction items generalizing last run with
  | nil =>
    obtain ⟨rfl, rfl⟩ := Prod.mk.inj (Except.ok.inj h)
    rfl
  | cons x items ih =>
    obtain ⟨before, -, h⟩ := exists_of_bind_eq_ok h
    split at h
    · obtain ⟨⟨more, rest'⟩, hmore, h⟩ := exists_of_bind_eq_ok h
      obtain ⟨rfl, rfl⟩ := Prod.mk.inj (Except.ok.inj h)
      rw [List.cons_append, ih hmore]
    · obtain ⟨rfl, rfl⟩ := Prod.mk.inj (Except.ok.inj h)
      rfl

theorem perm_of_firstRun {items run rest : List α} (h : firstRun lt items = .ok (run, rest)) :
    (run ++ rest).Perm items := by
  match items with
  | [] | [x] =>
    obtain ⟨rfl, rfl⟩ := Prod.mk.inj (Except.ok.inj h)
    rw [List.append_nil]
  | x :: y :: items =>
    obtain ⟨down, -, h⟩ := exists_of_bind_eq_ok h
    obtain ⟨⟨more, rest'⟩, hmore, h⟩ := exists_of_bind_eq_ok h
    obtain ⟨rfl, rfl⟩ := Prod.mk.inj (Except.ok.inj h)
    rw [← append_of_runOn hmore]
    split
    · exact (List.reverse_perm _).append_right rest'
    · rfl

theorem perm_of_insert {run run' : List α} {x : α} (h : insert lt run x = .ok run') :
    run'.Perm (run ++ [x]) := by
  obtain ⟨place, -, h⟩ := exists_of_bind_eq_ok h
  obtain rfl := Except.ok.inj h
  calc (run.take place ++ x :: run.drop place).Perm (x :: (run.take place ++ run.drop place)) :=
        List.perm_middle
    _ = x :: run := by rw [List.take_append_drop]
    _ |>.Perm (run ++ [x]) := (List.perm_append_singleton x run).symm

theorem perm_of_foldlM_insert {items run run' : List α}
    (h : items.foldlM (insert lt) run = .ok run') : run'.Perm (run ++ items) := by
  induction items generalizing run with
  | nil =>
    obtain rfl := Except.ok.inj h
    rw [List.append_nil]
  | cons x items ih =>
    obtain ⟨longer, hlonger, h⟩ := exists_of_bind_eq_ok h
    refine (ih h).trans ?_
    rw [List.append_cons]
    exact (perm_of_insert hlonger).append_right items

/-! ## Merges -/

namespace Merge

/-- The items of a merge on its way. -/
def items (m : Merge α) : List α := m.left ++ m.right ++ m.merged

theorem items_takeLeft (m : Merge α) (n : Nat) : (m.takeLeft n).items.Perm m.items := by
  have htaken : ((m.left.take n).reverse ++ m.merged).Perm (m.left.take n ++ m.merged) :=
    (List.reverse_perm _).append_right _
  calc (m.takeLeft n).items
      _ |>.Perm ((m.left.drop n ++ m.right) ++ (m.left.take n ++ m.merged)) := htaken.append_left _
      _ |>.Perm (m.left.take n ++ (m.left.drop n ++ m.right) ++ m.merged) := by
        rw [← List.append_assoc]
        exact List.perm_append_comm.append_right _
      _ = m.items := by rw [← List.append_assoc, List.take_append_drop, items]

theorem items_takeRight (m : Merge α) (n : Nat) : (m.takeRight n).items.Perm m.items := by
  have htaken : ((m.right.take n).reverse ++ m.merged).Perm (m.right.take n ++ m.merged) :=
    (List.reverse_perm _).append_right _
  calc (m.takeRight n).items
      _ = m.left ++ (m.right.drop n ++ ((m.right.take n).reverse ++ m.merged)) := by
        simp only [items, takeRight, List.append_assoc]
      _ |>.Perm (m.left ++ (m.right.drop n ++ (m.right.take n ++ m.merged))) :=
        (htaken.append_left _).append_left _
      _ |>.Perm (m.left ++ (m.right ++ m.merged)) := by
        refine List.Perm.append_left _ ?_
        rw [← List.append_assoc]
        refine List.Perm.append_right _ ?_
        conv_rhs => rw [← List.take_append_drop n m.right]
        exact List.perm_append_comm
      _ = m.items := (List.append_assoc ..).symm

theorem result_perm (m : Merge α) : m.result.Perm m.items := by
  rw [result, items]
  split
  · exact ((List.reverse_perm _).append (List.reverse_perm _)).trans List.perm_append_comm
      |>.append_right _
  · calc (m.merged.reverse ++ m.right ++ m.left).Perm (m.merged ++ m.right ++ m.left) :=
          ((List.reverse_perm _).append_right _).append_right _
      _ |>.Perm (m.left ++ (m.merged ++ m.right)) := List.perm_append_comm
      _ |>.Perm (m.left ++ (m.right ++ m.merged)) := List.perm_append_comm.append_left _
      _ = m.left ++ m.right ++ m.merged := (List.append_assoc ..).symm

theorem perm_of_oneByOne {limit fuel wonLeft wonRight : Nat} {m m' : Merge α}
    (h : oneByOne lt limit fuel wonLeft wonRight m = .ok m') : m'.items.Perm m.items := by
  induction fuel generalizing wonLeft wonRight m with
  | zero =>
    obtain rfl := Except.ok.inj h
    rfl
  | succ fuel ih =>
    rw [oneByOne] at h
    split at h
    · obtain ⟨before, -, h⟩ := exists_of_bind_eq_ok h
      dsimp only at h
      split at h
      · split at h
        · obtain rfl := Except.ok.inj h
          exact items_takeLeft m 1
        · exact (ih h).trans (items_takeLeft m 1)
      · split at h
        · obtain rfl := Except.ok.inj h
          exact items_takeRight m 1
        · exact (ih h).trans (items_takeRight m 1)
    · obtain rfl := Except.ok.inj h
      rfl

theorem perm_of_leaping {fuel limit limit' : Nat} {m m' : Merge α}
    (h : leaping lt fuel limit m = .ok (m', limit')) : m'.items.Perm m.items := by
  induction fuel generalizing limit m with
  | zero =>
    obtain ⟨rfl, -⟩ := Prod.mk.inj (Except.ok.inj h)
    rfl
  | succ fuel ih =>
    rw [leaping] at h
    -- Both ends of the right run are treated alike: some items of the left run are taken.
    split at h
    all_goals
      obtain ⟨lefts, -, h⟩ := exists_of_bind_eq_ok h
      have hlefts := m.items_takeLeft lefts
      have hright := ((m.takeLeft lefts).items_takeRight 1).trans hlefts
      dsimp only at h
      split at h
      · obtain ⟨rfl, -⟩ := Prod.mk.inj (Except.ok.inj h)
        exact hlefts
      · split at h
        · obtain ⟨rfl, -⟩ := Prod.mk.inj (Except.ok.inj h)
          exact hright
        · split at h
          all_goals
            obtain ⟨rights, -, h⟩ := exists_of_bind_eq_ok h
            have hrights := (items_takeRight _ rights).trans hright
            have hleft := (items_takeLeft _ 1).trans hrights
            split at h
            · obtain ⟨rfl, -⟩ := Prod.mk.inj (Except.ok.inj h)
              exact hrights
            · split at h
              · obtain ⟨rfl, -⟩ := Prod.mk.inj (Except.ok.inj h)
                exact hleft
              · split at h
                · exact (ih h).trans hleft
                · obtain ⟨rfl, -⟩ := Prod.mk.inj (Except.ok.inj h)
                  exact hleft

theorem perm_of_finish {fuel limit limit' : Nat} {m : Merge α} {merged : List α}
    (h : finish lt fuel limit m = .ok (merged, limit')) : merged.Perm m.items := by
  induction fuel generalizing limit m with
  | zero =>
    obtain ⟨rfl, -⟩ := Prod.mk.inj (Except.ok.inj h)
    exact m.result_perm
  | succ fuel ih =>
    rw [finish] at h
    split at h
    · obtain ⟨rfl, -⟩ := Prod.mk.inj (Except.ok.inj h)
      exact m.result_perm
    · obtain ⟨m₁, hfirst, h⟩ := exists_of_bind_eq_ok h
      have hone := perm_of_oneByOne hfirst
      split at h
      · obtain ⟨rfl, -⟩ := Prod.mk.inj (Except.ok.inj h)
        exact m₁.result_perm.trans hone
      · obtain ⟨⟨m₂, limit₂⟩, hsecond, h⟩ := exists_of_bind_eq_ok h
        exact (ih h).trans ((perm_of_leaping hsecond).trans hone)

end Merge

/-- Two runs are merged into one that has the items of both. -/
theorem perm_of_merge {limit limit' : Nat} {left right merged : List α}
    (h : merge lt limit left right = .ok (merged, limit')) : merged.Perm (left ++ right) := by
  cases right with
  | nil =>
    obtain ⟨rfl, -⟩ := Prod.mk.inj (Except.ok.inj h)
    rw [List.append_nil]
  | cons b rest =>
    generalize hright : b :: rest = right at h ⊢
    rw [← hright, merge, hright] at h
    obtain ⟨kept, -, h⟩ := exists_of_bind_eq_ok h
    dsimp only at h
    split at h
    · obtain ⟨rfl, -⟩ := Prod.mk.inj (Except.ok.inj h)
      rfl
    · obtain ⟨used, -, h⟩ := exists_of_bind_eq_ok h
      obtain ⟨⟨between, limit₁⟩, hfinish, h⟩ := exists_of_bind_eq_ok h
      obtain ⟨rfl, -⟩ := Prod.mk.inj (Except.ok.inj h)
      have hbetween : between.Perm (left.drop kept ++ right.take used) := by
        refine (Merge.perm_of_finish hfinish).trans ?_
        split
        · refine (Merge.items_takeRight _ 1).trans ?_
          rw [Merge.items, List.append_nil]
        · refine (Merge.items_takeLeft _ 1).trans ?_
          rw [Merge.items, List.append_nil]
          exact (List.reverse_perm _).append (List.reverse_perm _)
      calc left.take kept ++ between ++ right.drop used
          _ |>.Perm (left.take kept ++ (left.drop kept ++ right.take used) ++ right.drop used) :=
            (hbetween.append_left _).append_right _
          _ = left ++ right := by
            rw [← List.append_assoc, List.take_append_drop, List.append_assoc,
              List.take_append_drop]

/-! ## Stacks of runs -/

/-- The items of the runs on a stack. -/
def Stack.items (s : Stack α) : List α := s.runs.flatMap (·.items)

theorem perm_of_join {limit limit' : Nat} {first second run : Waiting α}
    (h : join lt limit first second = .ok (run, limit')) :
    run.items.Perm (first.items ++ second.items) := by
  obtain ⟨⟨items, limit₁⟩, hmerge, h⟩ := exists_of_bind_eq_ok h
  obtain ⟨rfl, -⟩ := Prod.mk.inj (Except.ok.inj h)
  exact perm_of_merge hmerge

theorem perm_of_settle {level fuel : Nat} {s s' : Stack α} (h : settle lt level fuel s = .ok s') :
    s'.items.Perm s.items := by
  induction fuel generalizing s with
  | zero =>
    obtain rfl := Except.ok.inj h
    rfl
  | succ fuel ih =>
    rw [settle] at h
    split at h
    · next last before others hruns =>
      split at h
      · obtain ⟨⟨run, limit⟩, hjoin, h⟩ := exists_of_bind_eq_ok h
        refine (ih h).trans ?_
        simp only [Stack.items, hruns, List.flatMap_cons, ← List.append_assoc]
        exact ((perm_of_join hjoin).trans List.perm_append_comm).append_right _
      · obtain rfl := Except.ok.inj h
        rfl
    · obtain rfl := Except.ok.inj h
      rfl

theorem perm_of_push {whole : Nat} {s s' : Stack α} {items : List α}
    (h : push lt whole s items = .ok s') : s'.items.Perm (items ++ s.items) := by
  rw [push] at h
  split at h
  · next hruns =>
    obtain rfl := Except.ok.inj h
    simp [Stack.items, hruns]
  · obtain ⟨settled, hsettle, h⟩ := exists_of_bind_eq_ok h
    have hperm := perm_of_settle hsettle
    split at h
    · next last others hruns =>
      obtain rfl := Except.ok.inj h
      simp only [Stack.items, List.flatMap_cons]
      refine List.Perm.append_left _ ?_
      simpa only [Stack.items, hruns, List.flatMap_cons] using hperm
    · next hruns =>
      obtain rfl := Except.ok.inj h
      simp only [Stack.items, hruns, List.flatMap_nil] at hperm ⊢
      simp [List.nil_perm.1 hperm]

theorem perm_of_collapse {fuel : Nat} {s : Stack α} {items : List α}
    (h : collapse lt fuel s = .ok items) : items.Perm s.items := by
  induction fuel generalizing s with
  | zero =>
    obtain rfl := Except.ok.inj h
    rw [← List.flatMap_def]
    exact (List.reverse_perm _).flatMap_right _
  | succ fuel ih =>
    rw [collapse.eq_def] at h
    dsimp only at h
    split at h
    · next hruns =>
      obtain rfl := Except.ok.inj h
      simp [Stack.items, hruns]
    · next run hruns =>
      obtain rfl := Except.ok.inj h
      simp [Stack.items, hruns]
    · next last middle first others hruns =>
      split at h
      · obtain ⟨⟨run, limit⟩, hjoin, h⟩ := exists_of_bind_eq_ok h
        refine (ih h).trans ?_
        simp only [Stack.items, hruns, List.flatMap_cons]
        refine List.Perm.append_left _ ?_
        rw [← List.append_assoc]
        exact ((perm_of_join hjoin).trans List.perm_append_comm).append_right _
      · obtain ⟨⟨run, limit⟩, hjoin, h⟩ := exists_of_bind_eq_ok h
        refine (ih h).trans ?_
        simp only [Stack.items, hruns, List.flatMap_cons, ← List.append_assoc]
        refine List.Perm.append_right _ (List.Perm.append_right _ ?_)
        exact (perm_of_join hjoin).trans List.perm_append_comm
    · next last before hruns =>
      obtain ⟨⟨run, limit⟩, hjoin, h⟩ := exists_of_bind_eq_ok h
      refine (ih h).trans ?_
      simp only [Stack.items, hruns, List.flatMap_cons, List.flatMap_nil, List.append_nil]
      exact (perm_of_join hjoin).trans List.perm_append_comm

/-- The run at the front of a list that is not empty is not empty. -/
theorem ne_nil_of_firstRun {items run rest : List α} (h : firstRun lt items = .ok (run, rest))
    (hitems : items ≠ []) : run ≠ [] := by
  match items with
  | [] => exact absurd rfl hitems
  | [x] =>
    obtain ⟨rfl, -⟩ := Prod.mk.inj (Except.ok.inj h)
    exact List.cons_ne_nil _ _
  | x :: y :: items =>
    obtain ⟨down, -, h⟩ := exists_of_bind_eq_ok h
    obtain ⟨⟨more, rest'⟩, hmore, h⟩ := exists_of_bind_eq_ok h
    obtain ⟨rfl, -⟩ := Prod.mk.inj (Except.ok.inj h)
    split <;> simp

theorem perm_of_gather {whole fuel : Nat} {items : List α} {s s' : Stack α}
    (hfuel : items.length ≤ fuel) (h : gather lt whole fuel items s = .ok s') :
    s'.items.Perm (items ++ s.items) := by
  induction fuel generalizing items s with
  | zero =>
    obtain rfl := Except.ok.inj h
    rw [List.length_eq_zero_iff.1 (Nat.le_zero.1 hfuel), List.nil_append]
  | succ fuel ih =>
    cases items with
    | nil =>
      obtain rfl := Except.ok.inj h
      rfl
    | cons x items =>
      obtain ⟨⟨run, rest⟩, hrun, h⟩ := exists_of_bind_eq_ok h
      obtain ⟨longer, hlonger, h⟩ := exists_of_bind_eq_ok h
      obtain ⟨pushed, hpush, h⟩ := exists_of_bind_eq_ok h
      have hpos := List.length_pos_iff.2 (ne_nil_of_firstRun hrun (List.cons_ne_nil _ _))
      have hparts := perm_of_firstRun hrun
      have hlength := hparts.length_eq
      generalize leastRun whole - run.length = more at hlonger h
      rw [List.length_append] at hlength
      refine (ih (by rw [List.length_drop]; omega) h).trans ?_
      calc rest.drop more ++ pushed.items
          _ |>.Perm (rest.drop more ++ (longer ++ s.items)) := (perm_of_push hpush).append_left _
          _ |>.Perm (rest.drop more ++ ((run ++ rest.take more) ++ s.items)) :=
            ((perm_of_foldlM_insert hlonger).append_right _).append_left _
          _ |>.Perm ((run ++ rest.take more) ++ rest.drop more ++ s.items) := by
            rw [← List.append_assoc]
            exact List.perm_append_comm.append_right _
          _ |>.Perm ((x :: items) ++ s.items) := by
            rw [List.append_assoc run, List.take_append_drop]
            exact hparts.append_right _

/-- A sorted list has the items of the list that was sorted. -/
theorem perm_of_sorted {items out : List α} (h : sorted lt items = .ok out) : out.Perm items := by
  obtain ⟨s, hgather, h⟩ := exists_of_bind_eq_ok h
  have hperm := perm_of_gather (Nat.le_refl _) hgather
  have hempty : Stack.items ({ runs := [], limit := Merge.worthLeaping } : Stack α) = [] := rfl
  rw [hempty, List.append_nil] at hperm
  exact (perm_of_collapse h).trans hperm

end QueryTelemetry.Sorting
