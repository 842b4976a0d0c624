import Mathlib.Data.List.Perm.Basic
import QueryTelemetry.CacheControl

/-!
# The strictest directive

`strictest` says what some directives come to together, without merging them:
the result is public if all of them are, and its age is the smallest one that
any of them sets.

There are three ways to merge directives.  An aggregator gets them by calls,
each with one directive or with several (`Delivery`); `mergeAll` folds a list;
and merges of two can be nested in any shape (`Nesting`).  Each way gives the
strictest directive of all that it was given, in whatever order and grouping
(`delivered_strictest`).

A merge makes a new directive, and the age of every new directive is checked.
`mergeChecked` is a merge with that check.  It is never refused
(`mergeChecked_eq`), so no way of merging is.
-/

namespace QueryTelemetry.CacheControl

/-! ## What directives come to together -/

/-- The smallest age that is set, or zero if none is. -/
def smallestSet (ages : List Nat) : Nat := ((ages.filter (· ≠ 0)).min?).getD 0

/-- The directive that some directives come to together. -/
def strictest (given : List CacheControl) : CacheControl :=
  { isPublic := given.all (·.isPublic), maxAge := smallestSet (given.map (·.maxAge)) }

theorem pickAge_zero_left (age : Nat) : pickAge 0 age = age := by
  unfold pickAge
  exact if_pos rfl

theorem pickAge_zero_right (age : Nat) : pickAge age 0 = age := by
  unfold pickAge
  split
  · omega
  · exact if_pos rfl

theorem pickAge_of_pos {a b : Nat} (ha : 0 < a) (hb : 0 < b) : pickAge a b = min a b := by
  unfold pickAge
  rw [if_neg (by omega), if_neg (by omega)]

/-- The smallest age that is set, one age at a time. -/
theorem smallestSet_cons (age : Nat) (ages : List Nat) :
    smallestSet (age :: ages) = pickAge age (smallestSet ages) := by
  unfold smallestSet
  by_cases hage : age = 0
  · subst hage
    rw [pickAge_zero_left, List.filter_cons_of_neg (by simp)]
  · rw [List.filter_cons_of_pos (by simpa using hage), List.min?_cons, Option.getD_some]
    cases hmin : (ages.filter (· ≠ 0)).min? with
    | none => exact (pickAge_zero_right age).symm
    | some least =>
      have hmem : least ∈ ages.filter (· ≠ 0) := List.min?_mem hmin
      have hset : least ≠ 0 := by simpa using (List.mem_filter.1 hmem).2
      exact (pickAge_of_pos (by omega) (by omega)).symm

theorem strictest_nil : strictest [] = neutral := rfl

theorem strictest_cons (c : CacheControl) (given : List CacheControl) :
    strictest (c :: given) = c.merge (strictest given) := by
  show CacheControl.mk _ (smallestSet (c.maxAge :: given.map (·.maxAge))) = _
  rw [smallestSet_cons]
  rfl

theorem strictest_singleton (c : CacheControl) : strictest [c] = c := by
  rw [strictest_cons, strictest_nil, merge_neutral]

theorem strictest_append (given more : List CacheControl) :
    strictest (given ++ more) = (strictest given).merge (strictest more) := by
  induction given with
  | nil => exact (neutral_merge _).symm
  | cons c given ih => rw [List.cons_append, strictest_cons, ih, strictest_cons, merge_assoc]

instance : LeftCommutative merge :=
  ⟨fun a b c => by rw [← merge_assoc, merge_comm a b, merge_assoc]⟩

/-- The order of directives does not matter. -/
theorem strictest_perm {given given' : List CacheControl} (h : given.Perm given') :
    strictest given = strictest given' := by
  have hfold : ∀ cs : List CacheControl, strictest cs = cs.foldr merge neutral := by
    intro cs
    induction cs with
    | nil => exact strictest_nil
    | cons c cs ih => rw [strictest_cons, ih, List.foldr_cons]
  rw [hfold, hfold]
  exact h.foldr_eq neutral

/-! ## Merging with the check of new directives -/

/-- The smaller of two ages that may be any numbers, where zero sets none. -/
def pickNumber (a b : Int) : Int :=
  if a = 0 then b else if b = 0 then a else min a b

/-- Two directives in one, with the check of its age. -/
def mergeChecked (a b : CacheControl) : Except Fault CacheControl :=
  ofAge (a.isPublic && b.isPublic) (pickNumber a.maxAge b.maxAge)

/-- The age of a merged directive passes the check. -/
theorem mergeChecked_eq (a b : CacheControl) : a.mergeChecked b = .ok (a.merge b) := by
  have hnumber : pickNumber a.maxAge b.maxAge = (pickAge a.maxAge b.maxAge : Nat) := by
    unfold pickNumber pickAge
    split_ifs <;> omega
  unfold mergeChecked ofAge
  rw [hnumber, if_pos (Int.natCast_nonneg _), Int.toNat_natCast]
  rfl

theorem foldlM_mergeChecked (c : CacheControl) (cs : List CacheControl) :
    cs.foldlM mergeChecked c = .ok (cs.foldl merge c) := by
  have hpure : mergeChecked = fun a b => pure (a.merge b) := by
    funext a b
    exact mergeChecked_eq a b
  rw [hpure]
  exact List.foldlM_pure

/-! ## Folding a list -/

theorem foldl_merge (c : CacheControl) (cs : List CacheControl) :
    cs.foldl merge c = strictest (c :: cs) := by
  induction cs generalizing c with
  | nil => exact (strictest_singleton c).symm
  | cons d cs ih =>
    calc
      (d :: cs).foldl merge c = strictest (c.merge d :: cs) := ih (c.merge d)
      _ = (c.merge d).merge (strictest cs) := strictest_cons ..
      _ = c.merge (d.merge (strictest cs)) := merge_assoc ..
      _ = strictest (c :: d :: cs) := by rw [strictest_cons, strictest_cons]

theorem mergeAll_eq_strictest (cs : List CacheControl) : mergeAll cs = strictest cs := by
  unfold mergeAll
  rw [foldl_merge, strictest_cons, neutral_merge]

/-! ## Deliveries to an aggregator -/

/-- A call that delivers directives. -/
inductive Delivery where
  | add (c : CacheControl)
  | extend (cs : List CacheControl)

/-- The directives that a call delivers. -/
def Delivery.controls : Delivery → List CacheControl
  | add c => [c]
  | extend cs => cs

namespace Aggregator

/-- The aggregator after a call. -/
def accept (a : Aggregator) : Delivery → Aggregator
  | .add c => a.add c
  | .extend cs => a.extend cs

/-- The aggregator after a call, with the check of every directive that is made. -/
def acceptChecked (a : Aggregator) : Delivery → Except Fault Aggregator
  | .add c => do
    let result ← a.result.mergeChecked c
    .ok ⟨result⟩
  | .extend cs => do
    let merged ← cs.foldlM mergeChecked neutral
    let result ← a.result.mergeChecked merged
    .ok ⟨result⟩

theorem result_accept (a : Aggregator) (d : Delivery) :
    (a.accept d).result = a.result.merge (strictest d.controls) := by
  cases d with
  | add c =>
    show a.result.merge c = a.result.merge (strictest [c])
    rw [strictest_singleton]
  | extend cs =>
    show a.result.merge (mergeAll cs) = a.result.merge (strictest cs)
    rw [mergeAll_eq_strictest]

theorem acceptChecked_eq (a : Aggregator) (d : Delivery) :
    a.acceptChecked d = .ok (a.accept d) := by
  cases d with
  | add c =>
    simp only [acceptChecked, mergeChecked_eq]
    rfl
  | extend cs =>
    simp only [acceptChecked, foldlM_mergeChecked]
    show a.result.mergeChecked (mergeAll cs) >>= _ = _
    rw [mergeChecked_eq]
    rfl

theorem result_foldl_accept (a : Aggregator) (ds : List Delivery) :
    (ds.foldl accept a).result = strictest (a.result :: ds.flatMap Delivery.controls) := by
  induction ds generalizing a with
  | nil => exact (strictest_singleton _).symm
  | cons d ds ih =>
    rw [List.foldl_cons, ih, result_accept, List.flatMap_cons, strictest_cons, strictest_cons,
      strictest_append, merge_assoc]

theorem foldlM_acceptChecked (a : Aggregator) (ds : List Delivery) :
    ds.foldlM acceptChecked a = .ok (ds.foldl accept a) := by
  have hpure : acceptChecked = fun a d => pure (a.accept d) := by
    funext a d
    exact acceptChecked_eq a d
  rw [hpure]
  exact List.foldlM_pure

/-- An aggregator that starts from no directive starts from one that restricts
nothing. -/
theorem result_start (initial : Option CacheControl) :
    (start initial).result = strictest initial.toList := by
  cases initial with
  | none => rfl
  | some c => exact (strictest_singleton c).symm

end Aggregator

/-! ## Nested merges -/

/-- Merges of two directives, nested in some shape. -/
inductive Nesting where
  | single (c : CacheControl)
  | pair (l r : Nesting)

namespace Nesting

/-- The directives of a nesting, from left to right. -/
def controls : Nesting → List CacheControl
  | single c => [c]
  | pair l r => l.controls ++ r.controls

/-- What a nesting merges to. -/
def merged : Nesting → CacheControl
  | single c => c
  | pair l r => l.merged.merge r.merged

/-- What a nesting merges to, with the check of every directive that is made. -/
def mergedChecked : Nesting → Except Fault CacheControl
  | single c => .ok c
  | pair l r => do
    let left ← l.mergedChecked
    let right ← r.mergedChecked
    left.mergeChecked right

theorem merged_eq_strictest (t : Nesting) : t.merged = strictest t.controls := by
  induction t with
  | single c => exact (strictest_singleton c).symm
  | pair l r ihl ihr =>
    show l.merged.merge r.merged = strictest (l.controls ++ r.controls)
    rw [ihl, ihr, strictest_append]

theorem mergedChecked_eq (t : Nesting) : t.mergedChecked = .ok t.merged := by
  induction t with
  | single c => rfl
  | pair l r ihl ihr =>
    unfold mergedChecked
    rw [ihl, ihr]
    exact mergeChecked_eq l.merged r.merged

end Nesting

/-! ## Every way gives the strictest directive -/

/-- Directives that are delivered to an aggregator by any calls in any order,
folded in any order, or merged in pairs in any order and shape: no merge is
refused, and the result is the strictest of the directives, the one that the
aggregator starts from included. -/
theorem delivered_strictest (initial : Option CacheControl) (given : List CacheControl) :
    (∀ ds : List Delivery, (ds.flatMap Delivery.controls).Perm given →
      ds.foldlM Aggregator.acceptChecked (.start initial) =
          .ok (ds.foldl Aggregator.accept (.start initial)) ∧
        (ds.foldl Aggregator.accept (.start initial)).result =
          strictest (initial.toList ++ given)) ∧
    (∀ cs : List CacheControl, cs.Perm (initial.toList ++ given) →
      cs.foldlM mergeChecked neutral = .ok (mergeAll cs) ∧
        mergeAll cs = strictest (initial.toList ++ given)) ∧
    ∀ t : Nesting, t.controls.Perm (initial.toList ++ given) →
      t.mergedChecked = .ok t.merged ∧ t.merged = strictest (initial.toList ++ given) := by
  refine ⟨?_, ?_, ?_⟩
  · intro ds hperm
    refine ⟨Aggregator.foldlM_acceptChecked _ ds, ?_⟩
    rw [Aggregator.result_foldl_accept, strictest_cons, Aggregator.result_start,
      strictest_perm hperm, strictest_append]
  · intro cs hperm
    refine ⟨foldlM_mergeChecked neutral cs, ?_⟩
    rw [mergeAll_eq_strictest]
    exact strictest_perm hperm
  · intro t hperm
    refine ⟨t.mergedChecked_eq, ?_⟩
    rw [t.merged_eq_strictest]
    exact strictest_perm hperm

/-- Three directives after a private one, in two calls and as a nesting. -/
theorem delivered_strictest_in_two_calls :
    let first : CacheControl := { isPublic := false, maxAge := 60 }
    let unset : CacheControl := { isPublic := true, maxAge := 0 }
    let short : CacheControl := { isPublic := true, maxAge := 30 }
    let long : CacheControl := { isPublic := true, maxAge := 90 }
    let calls : List Delivery := [.extend [long, unset], .add short]
    let shape : Nesting := .pair (.pair (.single short) (.single first))
      (.pair (.single unset) (.single long))
    (calls.flatMap Delivery.controls).Perm [unset, short, long] ∧
      (calls.foldl Aggregator.accept (.start (some first))).result =
        { isPublic := false, maxAge := 30 } ∧
      mergeAll [long, first, short, unset] = { isPublic := false, maxAge := 30 } ∧
      shape.mergedChecked = .ok { isPublic := false, maxAge := 30 } := by
  intro first unset short long calls shape
  obtain ⟨hcalls, hlists, hshapes⟩ := delivered_strictest (some first) [unset, short, long]
  have hperm : (calls.flatMap Delivery.controls).Perm [unset, short, long] := by decide
  have hresult : strictest ((some first).toList ++ [unset, short, long]) =
      { isPublic := false, maxAge := 30 } := by decide
  have hshape := hshapes shape (by decide)
  refine ⟨hperm, ?_, ?_, ?_⟩
  · rw [(hcalls calls hperm).2, hresult]
  · rw [(hlists [long, first, short, unset] (by decide)).2, hresult]
  · rw [hshape.1, hshape.2, hresult]

end QueryTelemetry.CacheControl
