import Mathlib.Data.List.Induction
import Mathlib.Logic.Function.Basic
import QueryTelemetry.Log.Context

/-!
# Scopes within scopes

A thread enters and leaves scopes, each as often as it likes.  `opened` follows the
brackets: it gives the scopes that are open after some calls, the innermost first,
if every call leaves the scope that was entered last.

A scope remembers one context only.  So the context after a scope is left is the one
in which it was entered, unless it was entered once more in between: then the inner
call has used up what the scope remembers, and the outer one puts nothing back
(`Thread.current_left`).  Scopes nest as they should, then, exactly for calls that
enter no open scope (`scopes_nest`).  `reentered_scope_stays` is the shortest run in
which they do not.
-/

namespace QueryTelemetry

/-- The second map has the last word about its keys. -/
theorem Assoc.get?_overlay {κ ν : Type} [BEq κ] [LawfulBEq κ] (m : List (κ × ν))
    {n : List (κ × ν)} (h : (keys n).Nodup) (k : κ) :
    get? (overlay m n) k = (get? n k).or (get? m k) := by
  induction n generalizing m with
  | nil => rfl
  | cons e n ih =>
    obtain ⟨hk, hn⟩ := List.nodup_cons.1 h
    obtain ⟨k₁, v₁⟩ := e
    rw [overlay_cons, ih _ hn, get?_put, get?_cons]
    by_cases heq : k = k₁
    · subst heq
      have hnone : get? n k = none :=
        Option.eq_none_iff_forall_ne_some.2 fun _ hget =>
          hk (List.mem_map.2 ⟨_, mem_of_get? hget, rfl⟩)
      simp [hnone]
    · simp [heq]

namespace Log

/-! ## Fields of a context -/

/-- A field of a context. -/
inductive Field where
  | requestId
  | operationName
  | extra (name : String)

/-- What a context says about a field.  The request id and the operation name count as
set when they are given. -/
def Context.value? (c : Context) : Field → Option Value
  | .requestId => if c.requestId.isGiven then some c.requestId else none
  | .operationName => if c.operationName.isGiven then some c.operationName else none
  | .extra name => Assoc.get? c.extra name

theorem Context.value?_merge (outer : Context) {inner : Context}
    (hkeys : (Assoc.keys inner.extra).Nodup) (f : Field) :
    (outer.merge inner).value? f = (inner.value? f).or (outer.value? f) := by
  have hprefer : ∀ a b : Value, (if (prefer a b).isGiven then some (prefer a b) else none) =
      (if a.isGiven then some a else none).or (if b.isGiven then some b else none) := by
    intro a b
    cases ha : a.isGiven <;> simp [prefer, ha]
  cases f with
  | requestId => exact hprefer ..
  | operationName => exact hprefer ..
  | extra name => exact Assoc.get?_overlay _ hkeys name

/-! ## Threads -/

/-- A call that enters a scope, or one that leaves it. -/
inductive Crossing (ι : Type) where
  | enter (i : ι)
  | leave (i : ι)
deriving DecidableEq

/-- Scopes that one thread enters and leaves, and its current context. -/
structure Thread (ι : Type) where
  scopes : ι → Scope
  current : Context

variable {ι : Type} [DecidableEq ι]

namespace Thread

/-- A thread before any of its scopes was entered. -/
def new (fields : ι → Context) (current : Context) : Thread ι :=
  { scopes := fun i => .ofFields (fields i), current }

/-- The thread after a call. -/
def next (t : Thread ι) : Crossing ι → Thread ι
  | .enter i =>
    let (scope, current) := (t.scopes i).enter t.current
    { scopes := Function.update t.scopes i scope, current }
  | .leave i =>
    let (scope, current) := (t.scopes i).leave t.current
    { scopes := Function.update t.scopes i scope, current }

/-- The thread after some calls. -/
def run (t : Thread ι) (calls : List (Crossing ι)) : Thread ι := calls.foldl next t

theorem run_append (t : Thread ι) (calls calls' : List (Crossing ι)) :
    t.run (calls ++ calls') = (t.run calls).run calls' := List.foldl_append

theorem run_concat (t : Thread ι) (calls : List (Crossing ι)) (x : Crossing ι) :
    t.run (calls ++ [x]) = (t.run calls).next x := run_append t calls [x]

theorem fields_next (t : Thread ι) (x : Crossing ι) (j : ι) :
    ((t.next x).scopes j).fields = (t.scopes j).fields := by
  cases x with
  | enter i | leave i =>
    simp only [next, Function.update_apply]
    split
    · next hj =>
      rw [hj]
      rfl
    · rfl

theorem current_enter (t : Thread ι) (i : ι) :
    (t.next (.enter i)).current = t.current.merge (t.scopes i).fields := rfl

theorem current_leave (t : Thread ι) (i : ι) :
    (t.next (.leave i)).current = (t.scopes i).saved.getD t.current := rfl

theorem saved_enter (t : Thread ι) (i j : ι) : ((t.next (.enter i)).scopes j).saved =
    if j = i then some t.current else (t.scopes j).saved := by
  simp only [next, Scope.enter, Function.update_apply]
  split <;> rfl

theorem saved_leave (t : Thread ι) (i j : ι) : ((t.next (.leave i)).scopes j).saved =
    if j = i then none else (t.scopes j).saved := by
  simp only [next, Scope.leave, Function.update_apply]
  split <;> rfl

end Thread

/-! ## Brackets -/

/-- The scopes that are open after one more call, if the call leaves none but the
innermost one. -/
def Crossing.stack : List ι → Crossing ι → Option (List ι)
  | stack, .enter i => some (i :: stack)
  | j :: stack, .leave i => if i = j then some stack else none
  | [], .leave _ => none

/-- The scopes that calls leave open beyond those that were open before, the innermost
first, if the brackets match. -/
def openedFrom (stack : List ι) (calls : List (Crossing ι)) : Option (List ι) :=
  calls.foldlM Crossing.stack stack

/-- The scopes that are open after some calls, the innermost first. -/
def opened (calls : List (Crossing ι)) : Option (List ι) := openedFrom [] calls

theorem openedFrom_concat (stack : List ι) (calls : List (Crossing ι)) (x : Crossing ι) :
    openedFrom stack (calls ++ [x]) = (openedFrom stack calls).bind (Crossing.stack · x) := by
  simp [openedFrom]

theorem opened_concat (calls : List (Crossing ι)) (x : Crossing ι) :
    opened (calls ++ [x]) = (opened calls).bind (Crossing.stack · x) :=
  openedFrom_concat ..

theorem opened_append (calls calls' : List (Crossing ι)) :
    opened (calls ++ calls') = (opened calls).bind (openedFrom · calls') := by
  simp [opened, openedFrom, List.foldlM_append]

section

variable {stack top below : List ι} {calls : List (Crossing ι)} {i j : ι}

/-- Brackets that match do so whatever was open before. -/
theorem openedFrom_of_opened (h : opened calls = some top) (below : List ι) :
    openedFrom below calls = some (top ++ below) := by
  induction calls using List.reverseRecOn generalizing top with
  | nil =>
    obtain rfl : [] = top := Option.some.inj h
    rfl
  | append_singleton calls x ih =>
    rw [opened_concat] at h
    obtain ⟨stack, hstack, hx⟩ := Option.bind_eq_some_iff.1 h
    rw [openedFrom_concat, ih hstack, Option.bind_some]
    cases x with
    | enter i =>
      obtain rfl := Option.some.inj hx
      rfl
    | leave i =>
      cases stack with
      | nil => cases hx
      | cons j stack =>
        obtain ⟨rfl, hstack'⟩ := Option.ite_none_right_eq_some.1 hx
        obtain rfl := Option.some.inj hstack'
        exact if_pos rfl

/-- The scopes that are open inside a scope. -/
theorem opened_inside {before inside : List (Crossing ι)} (hbefore : opened before = some below)
    (hinside : opened inside = some top) (i : ι) :
    opened (before ++ .enter i :: inside) = some (top ++ i :: below) := by
  rw [opened_append, hbefore]
  exact openedFrom_of_opened hinside (i :: below)

/-- The scopes that are open after a scope are those that were open before. -/
theorem opened_enclosed {before inside : List (Crossing ι)} (hbefore : opened before = some below)
    (hinside : opened inside = some []) (i : ι) :
    opened (before ++ .enter i :: inside ++ [.leave i]) = some below := by
  rw [opened_concat, opened_inside hbefore hinside]
  exact if_pos rfl

/-- A scope that is open was entered, and calls with matching brackets followed. -/
theorem exists_enter_of_opened (h : opened calls = some (top ++ i :: below)) :
    ∃ before inside, calls = before ++ .enter i :: inside ∧ opened before = some below ∧
      opened inside = some top := by
  induction calls using List.reverseRecOn generalizing top with
  | nil => exact absurd (Option.some.inj h) (by simp)
  | append_singleton calls x ih =>
    rw [opened_concat] at h
    obtain ⟨stack, hstack, hx⟩ := Option.bind_eq_some_iff.1 h
    have hconcat : ∀ top', stack = top' ++ i :: below → Crossing.stack top' x = some top →
        ∃ before inside, calls ++ [x] = before ++ .enter i :: inside ∧
          opened before = some below ∧ opened inside = some top := by
      rintro top' rfl hx'
      obtain ⟨before, inside, rfl, hbefore, hinside⟩ := ih hstack
      refine ⟨before, inside ++ [x], by simp, hbefore, ?_⟩
      rw [opened_concat, hinside]
      exact hx'
    cases x with
    | enter j =>
      have hx : j :: stack = top ++ i :: below := Option.some.inj hx
      cases top with
      | nil =>
        obtain ⟨rfl, rfl⟩ := List.cons.inj hx
        exact ⟨calls, [], rfl, hstack, rfl⟩
      | cons j' top =>
        obtain ⟨rfl, rfl⟩ := List.cons.inj hx
        exact hconcat top rfl rfl
    | leave j =>
      cases stack with
      | nil => cases hx
      | cons j' stack =>
        obtain ⟨rfl, hstack'⟩ := Option.ite_none_right_eq_some.1 hx
        obtain rfl := Option.some.inj hstack'
        exact hconcat (j :: top) rfl (if_pos rfl)

theorem enter_mem_of_opened (h : opened calls = some stack) (hi : i ∈ stack) :
    .enter i ∈ calls := by
  obtain ⟨top, below, rfl⟩ := List.append_of_mem hi
  obtain ⟨before, inside, rfl, -⟩ := exists_enter_of_opened h
  simp

/-- A scope that is open is left by the call that matches, if all scopes are left in the
end. -/
theorem exists_leave_of_openedFrom (h : openedFrom (top ++ i :: below) calls = some []) :
    ∃ inside after, calls = inside ++ .leave i :: after ∧ openedFrom top inside = some [] := by
  induction calls generalizing top with
  | nil => exact absurd (Option.some.inj h) (by simp)
  | cons x calls ih =>
    obtain ⟨stack, hx, hstack⟩ := Option.bind_eq_some_iff.1 h
    have hcons : ∀ top', stack = top' ++ i :: below → Crossing.stack top x = some top' →
        ∃ inside after, x :: calls = inside ++ .leave i :: after ∧
          openedFrom top inside = some [] := by
      rintro top' rfl hx'
      obtain ⟨inside, after, rfl, hinside⟩ := ih hstack
      exact ⟨x :: inside, after, rfl, Option.bind_eq_some_iff.2 ⟨top', hx', hinside⟩⟩
    cases x with
    | enter j => exact hcons (j :: top) (Option.some.inj hx).symm rfl
    | leave j =>
      cases top with
      | nil =>
        obtain ⟨rfl, -⟩ := Option.ite_none_right_eq_some.1 hx
        exact ⟨[], calls, rfl, rfl⟩
      | cons j' top =>
        obtain ⟨rfl, hstack'⟩ := Option.ite_none_right_eq_some.1 hx
        exact hcons top (Option.some.inj hstack').symm (if_pos rfl)

end

/-! ## What scopes are for -/

/-- After every scope the context is the one in which it was entered. -/
def Restores (t : Thread ι) (calls : List (Crossing ι)) : Prop :=
  ∀ before i inside after, calls = before ++ .enter i :: inside ++ .leave i :: after →
    opened inside = some [] →
      (t.run (before ++ .enter i :: inside ++ [.leave i])).current = (t.run before).current

/-- Wherever calls have got to, every field has the value that the innermost open scope
with the field gives it, and the value from before if no open scope has it. -/
def ShowsInnermost (t : Thread ι) (calls : List (Crossing ι)) : Prop :=
  ∀ before after stack, calls = before ++ after → opened before = some stack →
    ∀ f, (t.run before).current.value? f =
      (stack.findSome? fun i => (t.scopes i).fields.value? f).or (t.current.value? f)

/-- No scope is entered while it is open. -/
def EntersClosed (calls : List (Crossing ι)) : Prop :=
  ∀ before i after stack, calls = before ++ .enter i :: after → opened before = some stack →
    i ∉ stack

theorem entersClosed_nil : EntersClosed ([] : List (Crossing ι)) := by
  intro before i after stack h
  exact absurd h (by simp)

theorem EntersClosed.before {before after : List (Crossing ι)}
    (h : EntersClosed (before ++ after)) : EntersClosed before := by
  rintro before' i after' stack rfl
  exact h before' i (after' ++ after) stack (by simp)

theorem EntersClosed.concat {calls : List (Crossing ι)} {x : Crossing ι} (h : EntersClosed calls)
    (hx : ∀ i stack, x = .enter i → opened calls = some stack → i ∉ stack) :
    EntersClosed (calls ++ [x]) := by
  intro before i after stack hcalls hbefore
  rcases List.eq_nil_or_concat after with rfl | ⟨after, y, rfl⟩
  · obtain ⟨rfl, hlast⟩ := List.append_inj' hcalls rfl
    exact hx i stack (List.singleton_inj.1 hlast) hbefore
  · have hcalls : calls ++ [x] = (before ++ .enter i :: after) ++ [y] := by simpa using hcalls
    exact h before i after stack (List.append_inj' hcalls rfl).1 hbefore

/-! ## Calls that enter no open scope -/

namespace Thread

variable {t : Thread ι} {calls : List (Crossing ι)} {i : ι} {stack : List ι}

/-- The context inside open scopes, the innermost of which comes first. -/
def within (fields : ι → Context) (base : Context) (stack : List ι) : Context :=
  stack.foldr (fun i c => c.merge (fields i)) base

omit [DecidableEq ι] in
theorem value?_within {fields : ι → Context}
    (hkeys : ∀ i, (Assoc.keys (fields i).extra).Nodup) (base : Context) (stack : List ι)
    (f : Field) : (within fields base stack).value? f =
      (stack.findSome? fun i => (fields i).value? f).or (base.value? f) := by
  induction stack with
  | nil => rfl
  | cons i stack ih =>
    rw [List.findSome?_cons]
    show (Context.merge (within fields base stack) (fields i)).value? f = _
    rw [Context.value?_merge _ (hkeys i), ih]
    cases (fields i).value? f <;> rfl

/-- The invariant of calls that enter no open scope: every open scope remembers the
context inside those around it. -/
structure Nested (fields : ι → Context) (base : Context) (stack : List ι) (t : Thread ι) :
    Prop where
  nodup : stack.Nodup
  current : t.current = within fields base stack
  saved : ∀ top i below, stack = top ++ i :: below →
    (t.scopes i).saved = some (within fields base below)
  fields : ∀ i, (t.scopes i).fields = fields i

namespace Nested

variable {fields : ι → Context} {base : Context}

theorem enter (h : Nested fields base stack t) (hi : i ∉ stack) :
    Nested fields base (i :: stack) (t.next (.enter i)) := by
  refine ⟨List.nodup_cons.2 ⟨hi, h.nodup⟩, ?_, ?_, fun j => (fields_next ..).trans (h.fields j)⟩
  · rw [current_enter, h.current, h.fields]
    rfl
  · intro top j below hstack
    rw [saved_enter]
    cases top with
    | nil =>
      obtain ⟨rfl, rfl⟩ := List.cons.inj hstack
      rw [if_pos rfl, h.current]
    | cons i' top =>
      obtain ⟨rfl, rfl⟩ := List.cons.inj hstack
      rw [if_neg fun hj => hi (by simp [hj])]
      exact h.saved top j below rfl

theorem leave (h : Nested fields base (i :: stack) t) :
    Nested fields base stack (t.next (.leave i)) := by
  obtain ⟨hi, hnodup⟩ := List.nodup_cons.1 h.nodup
  refine ⟨hnodup, ?_, ?_, fun j => (fields_next ..).trans (h.fields j)⟩
  · rw [current_leave, h.saved [] i stack rfl, Option.getD_some]
  · rintro top j below rfl
    rw [saved_leave, if_neg fun hj => hi (by simp [hj])]
    exact h.saved (i :: top) j below rfl

end Nested

/-- The invariant holds at every point of a run. -/
theorem nested_run (fields : ι → Context) (base : Context) (hclosed : EntersClosed calls)
    (hstack : opened calls = some stack) :
    Nested fields base stack ((new fields base).run calls) := by
  induction calls using List.reverseRecOn generalizing stack with
  | nil =>
    obtain rfl : [] = stack := Option.some.inj hstack
    exact ⟨List.nodup_nil, rfl, fun top i below h => absurd h (by simp), fun _ => rfl⟩
  | append_singleton calls x ih =>
    rw [opened_concat] at hstack
    obtain ⟨stack', hstack', hx⟩ := Option.bind_eq_some_iff.1 hstack
    have ih := ih hclosed.before hstack'
    rw [run_concat]
    cases x with
    | enter i =>
      obtain rfl := Option.some.inj hx
      exact ih.enter (hclosed calls i [] stack' rfl hstack')
    | leave i =>
      cases stack' with
      | nil => cases hx
      | cons j stack' =>
        obtain ⟨rfl, hstack⟩ := Option.ite_none_right_eq_some.1 hx
        obtain rfl := Option.some.inj hstack
        exact ih.leave

/-! ## What a scope remembers -/

/-- What a scope remembers that is not open: nothing once it was entered. -/
theorem saved_run (t : Thread ι) (hstack : opened calls = some stack) (hi : i ∉ stack) :
    ((t.run calls).scopes i).saved =
      if .enter i ∈ calls then none else (t.scopes i).saved := by
  induction calls using List.reverseRecOn generalizing stack with
  | nil => rfl
  | append_singleton calls x ih =>
    rw [opened_concat] at hstack
    obtain ⟨stack', hstack', hx⟩ := Option.bind_eq_some_iff.1 hstack
    rw [run_concat]
    cases x with
    | enter j =>
      obtain rfl := Option.some.inj hx
      obtain ⟨hj, hi⟩ := not_or.1 (mt List.mem_cons.2 hi)
      rw [saved_enter, if_neg hj, ih hstack' hi]
      simp [hj]
    | leave j =>
      cases stack' with
      | nil => cases hx
      | cons j' stack' =>
        obtain ⟨rfl, hstack⟩ := Option.ite_none_right_eq_some.1 hx
        obtain rfl := Option.some.inj hstack
        rw [saved_leave]
        by_cases hj : i = j
        · subst hj
          have hmem := enter_mem_of_opened hstack' (List.mem_cons_self ..)
          rw [if_pos rfl, if_pos (List.mem_append_left _ hmem)]
        · rw [if_neg hj, ih hstack' (List.not_mem_cons_of_ne_of_not_mem hj hi)]
          simp

/-- Leaving a scope puts back the context in which it was entered, unless it was entered
once more in between.  Then the context stays. -/
theorem current_left (t : Thread ι) (before : List (Crossing ι)) (i : ι)
    {inside : List (Crossing ι)} (hinside : opened inside = some []) :
    (t.run (before ++ .enter i :: inside ++ [.leave i])).current =
      if .enter i ∈ inside then (t.run (before ++ .enter i :: inside)).current
      else (t.run before).current := by
  have hsaved := saved_run ((t.run before).next (.enter i)) hinside List.not_mem_nil (i := i)
  have hrun : t.run (before ++ .enter i :: inside) =
      ((t.run before).next (.enter i)).run inside := run_append ..
  rw [run_concat, current_leave, hrun, hsaved, saved_enter, if_pos rfl]
  split <;> rfl

end Thread

/-! ## When scopes nest -/

/-- If an open scope is entered again, that happens between its outermost entry and the
call that leaves it for good. -/
theorem exists_left_open {calls before after : List (Crossing ι)} {i : ι} {stack : List ι}
    (hcalls : opened calls = some []) (hsplit : calls = before ++ .enter i :: after)
    (hbefore : opened before = some stack) (hi : i ∈ stack) :
    ∃ outside inside rest below, calls = outside ++ .enter i :: inside ++ .leave i :: rest ∧
      opened outside = some below ∧ i ∉ below ∧ opened inside = some [] ∧ .enter i ∈ inside := by
  -- The outermost place where the scope is open.
  obtain ⟨top, below, rfl, hbelow⟩ : ∃ top below, stack = top ++ i :: below ∧ i ∉ below := by
    obtain ⟨below, top, hreverse, hbelow⟩ := List.eq_append_cons_of_mem (List.mem_reverse.2 hi)
    refine ⟨top.reverse, below.reverse, ?_, fun h => hbelow (List.mem_reverse.1 h)⟩
    rw [← List.reverse_reverse stack, hreverse]
    simp
  obtain ⟨outside, start, rfl, houtside, hstart⟩ := exists_enter_of_opened hbefore
  rw [hsplit, opened_append, hbefore] at hcalls
  obtain ⟨finish, rest, hfinish, hinside⟩ := exists_leave_of_openedFrom hcalls
  refine ⟨outside, start ++ finish, rest, below, ?_, houtside, hbelow, ?_, ?_⟩
  · rw [hsplit, hfinish]
    simp
  · rw [opened_append, hstart]
    exact hinside
  · cases finish with
    | nil => cases hfinish
    | cons x finish =>
      obtain ⟨rfl, -⟩ := List.cons.inj hfinish
      simp

/-- Fields of scopes of which only one sets the request id. -/
def identifying (i j : ι) : Context :=
  if j = i then { Context.empty with requestId := .text "id" } else .empty

theorem value?_identifying (i j : ι) : (identifying i j).value? .requestId =
    if j = i then some (.text "id") else none := by
  rw [identifying]
  split <;> rfl

theorem nodup_keys_identifying (i j : ι) : (Assoc.keys (identifying i j).extra).Nodup := by
  rw [identifying]
  split <;> exact List.nodup_nil

/-- If an open scope is entered again, its request id is still there after it was left
for good. -/
theorem entersClosed_of_showsInnermost {calls : List (Crossing ι)}
    (hcalls : opened calls = some [])
    (h : ∀ i, ShowsInnermost (.new (identifying i) .empty) calls) : EntersClosed calls := by
  intro before i after stack hsplit hbefore hi
  obtain ⟨outside, inside, rest, below, hsplit, houtside, hbelow, hinside, hmem⟩ :=
    exists_left_open hcalls hsplit hbefore hi
  have hsame := (Thread.new (identifying i) .empty).current_left outside i hinside
  rw [if_pos hmem] at hsame
  have hlast : ((Thread.new (identifying i) .empty).run
      (outside ++ .enter i :: inside)).current.value? .requestId = some (.text "id") := by
    rw [h i _ _ _ hsplit (opened_inside houtside hinside i), List.nil_append,
      List.findSome?_cons]
    simp only [Thread.new, Scope.ofFields, value?_identifying, if_pos]
    rfl
  have hafter : ((Thread.new (identifying i) .empty).run
      (outside ++ .enter i :: inside ++ [.leave i])).current.value? .requestId = none := by
    rw [h i _ rest _ (by simp [hsplit]) (opened_enclosed houtside hinside i)]
    have hnone : ∀ j ∈ below, (identifying i j).value? .requestId = none := by
      intro j hj
      rw [value?_identifying, if_neg]
      rintro rfl
      exact hbelow hj
    simp only [Thread.new, Scope.ofFields, List.findSome?_eq_none_iff.2 hnone]
    rfl
  rw [hsame, hlast] at hafter
  cases hafter

/-- Scopes nest as they should if no open scope is entered. -/
theorem EntersClosed.nests {calls : List (Crossing ι)} (hclosed : EntersClosed calls)
    (hcalls : opened calls = some []) {fields : ι → Context}
    (hkeys : ∀ i, (Assoc.keys (fields i).extra).Nodup) (base : Context) :
    Restores (.new fields base) calls ∧ ShowsInnermost (.new fields base) calls := by
  have hnested : ∀ before after stack, calls = before ++ after → opened before = some stack →
      Thread.Nested fields base stack ((Thread.new fields base).run before) := by
    rintro before after stack rfl hstack
    exact Thread.nested_run fields base hclosed.before hstack
  refine ⟨fun before i inside after hsplit hinside => ?_,
    fun before after stack hsplit hstack f => ?_⟩
  · obtain ⟨below, hbelow⟩ : ∃ below, opened before = some below := by
      rw [hsplit, List.append_assoc, opened_append] at hcalls
      obtain ⟨below, hbelow, -⟩ := Option.bind_eq_some_iff.1 hcalls
      exact ⟨below, hbelow⟩
    have hbefore := hnested before _ _ (by rw [hsplit, List.append_assoc]) hbelow
    have hafter := hnested _ after _ (by simp [hsplit]) (opened_enclosed hbelow hinside i)
    exact hafter.current.trans hbefore.current.symm
  · rw [(hnested before after stack hsplit hstack).current]
    exact Thread.value?_within hkeys base stack f

/-- Calls whose brackets match enter no open scope if and only if scopes nest as they
should, whatever their fields are and whatever the context is in the beginning: every
scope gives back the context in which it was entered, and inside all of them each field
has the value of the innermost scope that sets it.  In any case a scope gives the context
back if it was not entered once more in between, and leaves it as it is otherwise. -/
theorem scopes_nest (calls : List (Crossing ι)) (hcalls : opened calls = some []) :
    ((∀ (fields : ι → Context) (base : Context), (∀ i, (Assoc.keys (fields i).extra).Nodup) →
        Restores (.new fields base) calls ∧ ShowsInnermost (.new fields base) calls) ↔
      EntersClosed calls) ∧
    ∀ (t : Thread ι) before i inside after,
      calls = before ++ .enter i :: inside ++ .leave i :: after → opened inside = some [] →
        (t.run (before ++ .enter i :: inside ++ [.leave i])).current =
          if .enter i ∈ inside then (t.run (before ++ .enter i :: inside)).current
          else (t.run before).current := by
  refine ⟨⟨fun hnest => ?_, fun hclosed fields base hkeys => hclosed.nests hcalls hkeys base⟩,
    fun t before i inside _ _ hinside => t.current_left before i hinside⟩
  exact entersClosed_of_showsInnermost hcalls fun i =>
    (hnest (identifying i) .empty (nodup_keys_identifying i)).2

/-- Two scopes, the second of them inside the first, which is entered again later. -/
theorem scopes_nest_reused :
    let calls : List (Crossing Bool) := [.enter true, .enter false, .leave false, .leave true,
      .enter true, .leave true]
    opened calls = some [] ∧
      Restores (.new (identifying true) .empty) calls ∧
      ShowsInnermost (.new (identifying true) .empty) calls := by
  intro calls
  have hclosed : EntersClosed calls := by
    refine (((((entersClosed_nil.concat (x := .enter true) ?_).concat (x := .enter false)
      ?_).concat (x := .leave false) nofun).concat (x := .leave true) nofun).concat
      (x := .enter true) ?_).concat (x := .leave true) nofun
    all_goals
      rintro _ _ ⟨⟩ ⟨⟩
      decide
  exact ⟨rfl, ((scopes_nest calls rfl).1.2 hclosed) _ .empty (nodup_keys_identifying true)⟩

/-- A scope is entered in itself.  When it was left for the last time, its fields are still
in the context. -/
theorem reentered_scope_stays :
    let fields : Unit → Context := fun _ => { Context.empty with requestId := .text "r-1" }
    let t : Thread Unit := .new fields .empty
    let calls : List (Crossing Unit) := [.enter (), .enter (), .leave (), .leave ()]
    opened calls = some [] ∧ (t.run calls).current = fields () ∧ ¬ Restores t calls ∧
      ¬ ShowsInnermost t calls := by
  intro fields t calls
  refine ⟨rfl, rfl, fun h => ?_, fun h => ?_⟩
  · have hsame := h [] () [.enter (), .leave ()] [] rfl rfl
    have hid : Value.text "r-1" = .null := congrArg Context.requestId hsame
    cases hid
  · have hshown := h calls [] [] rfl rfl .requestId
    cases hshown

end Log

end QueryTelemetry
