/-!
# Sorting by merging runs

`sorted` sorts a list by a comparison that may fail, and fails as soon as a comparison does. Which
failure that is depends on the order in which items are compared, so the order is fixed here.
Stretches that run one way are taken as they come, short ones are made longer by inserting the next
items, and neighbouring runs are merged in an order that keeps the merges balanced. A merge leaves
out what is in its place already, and leaps ahead when one side wins several times in a row.
-/

namespace QueryTelemetry.Sorting

/-- Whether the first of two items comes before the second, unless they cannot be compared. -/
abbrev Comparison (α ε : Type) := α → α → Except ε Bool

variable {α ε : Type}

/-! ## Finding a place -/

/-- The first number from `low` up to `high` at which a condition begins to hold. -/
def bisect (p : Nat → Except ε Bool) (low high : Nat) : Except ε Nat :=
  if low < high then
    (p (low + (high - low) / 2)).bind fun found =>
      if found then bisect p low (low + (high - low) / 2)
      else bisect p (low + (high - low) / 2 + 1) high
  else .ok low
termination_by high - low

/-- Steps of growing size, as long as `go` holds and at most as far as `far`: the last number at
which it held, and the next one. -/
def leap (go : Nat → Except ε Bool) (far last next : Nat) : Except ε (Nat × Nat) :=
  if next < far then
    (go next).bind fun more =>
      if more then leap go far next (2 * next + 1) else .ok (last, next)
  else .ok (last, far)
termination_by far - next

/-- The first number below `size` at which a condition begins to hold, looked for from a hint on. -/
def gallop (p : Nat → Except ε Bool) (size hint : Nat) : Except ε Nat := do
  if ← p hint then
    let (last, next) ← leap (fun i => p (hint - i)) (hint + 1) 0 1
    bisect p (hint + 1 - next) (hint - last)
  else
    let (last, next) ← leap (fun i => (p (hint + i)).map not) (size - hint) 0 1
    bisect p (hint + last + 1) (hint + next)

/-- A condition on items as one on their numbers; it holds beyond the end. -/
def holdsAt (items : Array α) (p : α → Except ε Bool) (i : Nat) : Except ε Bool :=
  match items[i]? with
  | some x => p x
  | none => .ok true

/-! ## Runs -/

/-- The items that run on after `last`, upwards or downwards, and the rest. -/
def runOn (lt : Comparison α ε) (down : Bool) (last : α) :
    List α → Except ε (List α × List α)
  | [] => .ok ([], [])
  | x :: rest => do
    if (← lt x last) = down then
      let (run, rest) ← runOn lt down x rest
      .ok (x :: run, rest)
    else .ok ([], x :: rest)

/-- The run at the front of a list, turned upwards, and the rest. -/
def firstRun (lt : Comparison α ε) : List α → Except ε (List α × List α)
  | x :: y :: rest => do
    let down ← lt y x
    let (more, rest) ← runOn lt down y rest
    .ok (if down then (x :: y :: more).reverse else x :: y :: more, rest)
  | items => .ok (items, [])

/-- A run with one more item, put behind those that it does not come before. -/
def insert (lt : Comparison α ε) (run : List α) (x : α) : Except ε (List α) := do
  let place ← bisect (holdsAt run.toArray (lt x)) 0 run.length
  .ok (run.take place ++ x :: run.drop place)

/-- The least length of a run in a list of some length. -/
def leastRun (length : Nat) : Nat :=
  if length < 64 then length
  else
    let halves := length.log2 - 5
    let size := length / Nat.pow 2 halves
    if length % Nat.pow 2 halves = 0 then size else size + 1

/-! ## Merging -/

/-- A merge on its way: what is left of both runs, in the order in which it is taken, and what is
merged, the last item first. Behind the end of a run its items are taken from the back. -/
structure Merge (α : Type) where
  fromBack : Bool
  left : List α
  right : List α
  merged : List α

namespace Merge

/-- Whether the rest of a merge is plain. -/
def isDone (m : Merge α) : Bool :=
  if m.fromBack then m.left.isEmpty || decide (m.right.length ≤ 1)
  else m.right.isEmpty || decide (m.left.length ≤ 1)

/-- The merged run. -/
def result (m : Merge α) : List α :=
  if m.fromBack then m.right.reverse ++ m.left.reverse ++ m.merged
  else m.merged.reverse ++ m.right ++ m.left

/-- Take items of the left run. -/
def takeLeft (n : Nat) (m : Merge α) : Merge α :=
  { m with left := m.left.drop n, merged := (m.left.take n).reverse ++ m.merged }

/-- Take items of the right run. -/
def takeRight (n : Nat) (m : Merge α) : Merge α :=
  { m with right := m.right.drop n, merged := (m.right.take n).reverse ++ m.merged }

/-- How many of the items that come next can be taken together; they are numbered from the front,
and those from some number on have a property. -/
def countNext (m : Merge α) (items : List α) (p : α → Except ε Bool) : Except ε Nat :=
  if m.fromBack then
    (gallop (holdsAt items.reverse.toArray p) items.length (items.length - 1)).map
      (items.length - ·)
  else gallop (holdsAt items.toArray p) items.length 0

/-- Take items one by one, until the rest is plain or one side has won `limit` times in a row. -/
def oneByOne (lt : Comparison α ε) (limit : Nat) :
    Nat → Nat → Nat → Merge α → Except ε (Merge α)
  | 0, _, _, m => .ok m
  | fuel + 1, wonLeft, wonRight, m =>
    match m.left, m.right with
    | a :: _, b :: _ => do
      let before ← lt b a
      if before = m.fromBack then
        let m := m.takeLeft 1
        if m.isDone || decide (limit ≤ wonLeft + 1) then .ok m
        else oneByOne lt limit fuel (wonLeft + 1) 0 m
      else
        let m := m.takeRight 1
        if m.isDone || decide (limit ≤ wonRight + 1) then .ok m
        else oneByOne lt limit fuel 0 (wonRight + 1) m
    | _, _ => .ok m

/-- So many items in a row make it worth while to go on leaping. -/
def worthLeaping : Nat := 7

/-- Take many items of both runs in turn, as long as it is worth while; also the new limit. -/
def leaping (lt : Comparison α ε) : Nat → Nat → Merge α → Except ε (Merge α × Nat)
  | 0, limit, m => .ok (m, limit)
  | fuel + 1, limit, m => do
    let limit := if 1 < limit then limit - 1 else limit
    let lefts ← match m.right with
      | b :: _ => m.countNext m.left (lt b)
      | [] => .ok 0
    let m := m.takeLeft lefts
    if m.isDone then return (m, limit)
    let m := m.takeRight 1
    if m.isDone then return (m, limit)
    let rights ← match m.left with
      | a :: _ => m.countNext m.right fun b => (lt b a).map not
      | [] => .ok 0
    let m := m.takeRight rights
    if m.isDone then return (m, limit)
    let m := m.takeLeft 1
    if m.isDone then return (m, limit)
    if worthLeaping ≤ lefts ∨ worthLeaping ≤ rights then leaping lt fuel limit m
    else return (m, limit + 1)

/-- The merged run, and the limit for later merges. -/
def finish (lt : Comparison α ε) : Nat → Nat → Merge α → Except ε (List α × Nat)
  | 0, limit, m => .ok (m.result, limit)
  | fuel + 1, limit, m =>
    if m.isDone then .ok (m.result, limit)
    else do
      let steps := m.left.length + m.right.length
      let m ← oneByOne lt limit steps 0 0 m
      if m.isDone then .ok (m.result, limit)
      else
        let (m, limit) ← leaping lt steps (limit + 1) m
        finish lt fuel limit m

end Merge

/-- Two neighbouring runs merged, and the limit for later merges. What is in its place at the front
of the left run and at the back of the right one stays there. -/
def merge (lt : Comparison α ε) (limit : Nat) (left right : List α) :
    Except ε (List α × Nat) :=
  match right with
  | [] => .ok (left, limit)
  | b :: _ => do
    let kept ← gallop (holdsAt left.toArray (lt b)) left.length 0
    let rest := left.drop kept
    match rest.getLast? with
    | none => .ok (left ++ right, limit)
    | some a =>
      let used ← gallop (holdsAt right.toArray fun b => (lt b a).map not) right.length
        (right.length - 1)
      let near := right.take used
      let start : Merge α :=
        if rest.length ≤ near.length then
          Merge.takeRight 1 { fromBack := false, left := rest, right := near, merged := [] }
        else
          Merge.takeLeft 1
            { fromBack := true, left := rest.reverse, right := near.reverse, merged := [] }
      let (merged, limit) ← start.finish lt (left.length + right.length) limit
      .ok (left.take kept ++ merged ++ right.drop used, limit)

/-! ## The order of merges -/

/-- A run that waits to be merged: its items, the number of items before it, and the level on which it
meets the run behind it. -/
structure Waiting (α : Type) where
  items : List α
  start : Nat
  level : Nat

/-- The level on which two neighbouring runs meet: the first binary digit in which their middles, as
fractions of the whole, differ. Both middles are doubled. -/
def meeting (whole : Nat) : Nat → Nat → Nat → Nat
  | 0, _, _ => 0
  | fuel + 1, a, b =>
    if whole ≤ a then 1 + meeting whole fuel (2 * (a - whole)) (2 * (b - whole))
    else if whole ≤ b then 1
    else 1 + meeting whole fuel (2 * a) (2 * b)

/-- The runs that wait, the last one first, and the limit for merges. -/
structure Stack (α : Type) where
  runs : List (Waiting α)
  limit : Nat

/-- Two neighbours of the stack merged into one that stands where the first one stood and meets the
run behind both on the level of the second. -/
def join (lt : Comparison α ε) (limit : Nat) (first second : Waiting α) :
    Except ε (Waiting α × Nat) := do
  let (items, limit) ← merge lt limit first.items second.items
  .ok ({ items, start := first.start, level := second.level }, limit)

/-- Merge the last runs as long as they meet on a level beyond the given one. -/
def settle (lt : Comparison α ε) (level : Nat) : Nat → Stack α → Except ε (Stack α)
  | 0, s => .ok s
  | fuel + 1, s =>
    match s.runs with
    | last :: before :: others =>
      if level < before.level then do
        let (run, limit) ← join lt s.limit before last
        settle lt level fuel { runs := run :: others, limit }
      else .ok s
    | _ => .ok s

/-- A stack with one more run, in a list of some length. -/
def push (lt : Comparison α ε) (whole : Nat) (s : Stack α) (items : List α) :
    Except ε (Stack α) :=
  match s.runs with
  | [] => .ok { s with runs := [{ items, start := 0, level := 0 }] }
  | last :: _ => do
    let n := last.items.length
    let a := 2 * last.start + n
    let level := meeting whole whole a (a + n + items.length)
    let s ← settle lt level s.runs.length s
    match s.runs with
    | last :: others =>
      let start := last.start + last.items.length
      .ok { s with runs := { items, start, level := 0 } :: { last with level } :: others }
    | [] => .ok { s with runs := [{ items, start := 0, level := 0 }] }

/-- All runs of a stack merged; of three the shorter neighbour of the middle one goes first. -/
def collapse (lt : Comparison α ε) : Nat → Stack α → Except ε (List α)
  | 0, s => .ok ((s.runs.reverse.map (·.items)).flatten)
  | fuel + 1, s =>
    match s.runs with
    | [] => .ok []
    | [run] => .ok run.items
    | last :: middle :: first :: others =>
      if first.items.length < last.items.length then do
        let (run, limit) ← join lt s.limit first middle
        collapse lt fuel { runs := last :: run :: others, limit }
      else do
        let (run, limit) ← join lt s.limit middle last
        collapse lt fuel { runs := run :: first :: others, limit }
    | [last, before] => do
      let (run, limit) ← join lt s.limit before last
      collapse lt fuel { runs := [run], limit }

/-- The runs of a list on a stack, after those that are on it. -/
def gather (lt : Comparison α ε) (whole : Nat) : Nat → List α → Stack α → Except ε (Stack α)
  | 0, _, s => .ok s
  | _, [], s => .ok s
  | fuel + 1, items, s => do
    let (run, rest) ← firstRun lt items
    let more := leastRun whole - run.length
    let run ← (rest.take more).foldlM (insert lt) run
    gather lt whole fuel (rest.drop more) (← push lt whole s run)

/-- A list in order, or the failure of the first comparison that fails. -/
def sorted (lt : Comparison α ε) (items : List α) : Except ε (List α) := do
  let s ← gather lt items.length items.length items { runs := [], limit := Merge.worthLeaping }
  collapse lt s.runs.length s

end QueryTelemetry.Sorting
