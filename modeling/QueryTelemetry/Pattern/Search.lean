import QueryTelemetry.Pattern.Basic

/-!
# Searching for a match

`Pattern.first` looks for the preferred match after which a search can go on. It tries one way at a
time and stops at the first that succeeds, so it never lists the ways of a pattern, of which there
may be very many. What it finds is what the list of all ways gives (`Pattern.first_eq_findSome?`).
-/

namespace QueryTelemetry

/-- A step of a search: it goes on from the places behind it until one gives an answer. -/
abbrev SearchStep := Cursor → (Cursor → Option Cursor) → Option Cursor

/-- Go on after a number of rounds of a step. -/
def searchAfter (step : SearchStep) : Nat → SearchStep
  | 0, s, next => next s
  | rounds + 1, s, next => step s fun t => searchAfter step rounds t next

/-- Go on after at most `rounds` rounds of a step. -/
def searchUpto (step : SearchStep) (greedy : Bool) : Nat → SearchStep
  | 0, s, next => next s
  | rounds + 1, s, next =>
    let further (_ : Unit) : Option Cursor :=
      step s fun t =>
        if s.passed < t.passed then searchUpto step greedy rounds t next else next t
    if greedy then
      match further () with
      | some answer => some answer
      | none => next s
    else
      match next s with
      | some answer => some answer
      | none => further ()

/-- The answer of the preferred match that has one. -/
def Pattern.first : Pattern → SearchStep
  | .empty, s, next => next s
  | .set chars, s, next => (s.step? chars.holds).bind next
  | .anchor a, s, next => if s.holds a then next s else none
  | .sequence p q, s, next => p.first s fun t => q.first t next
  | .either p q, s, next =>
    match p.first s next with
    | some answer => some answer
    | none => q.first s next
  | .group number p, s, next =>
    p.first (s.enter number) fun t => next (Cursor.capture number s t)
  | .times greedy least most p, s, next =>
    searchAfter p.first least s fun t =>
      searchUpto p.first greedy (t.spareRounds least most) t next
  | .once p, s, next => (p.first s some).bind next
  | .again letters number, s, next =>
    ((s.group? number).bind (Cursor.steps? letters · s)).bind next
  | .given number p q, s, next =>
    if (s.group? number).isSome then p.first s next else q.first s next
  | .look back negated p, s, next =>
    (s.looked negated ((s.goBack? back).bind fun t => p.first t some)).bind next

/-- A step of a search that tries the places of a list, in order. -/
def Follows (step : SearchStep) (ways : Cursor → List Cursor) : Prop :=
  ∀ s next, step s next = (ways s).findSome? next

theorem findSome?_toList (o : Option Cursor) (next : Cursor → Option Cursor) :
    o.toList.findSome? next = o.bind next := by
  cases o <;> simp

theorem findSome?_some_eq_head? (l : List Cursor) : l.findSome? some = l.head? := by
  cases l <;> rfl

theorem findSome?_flatMap (l : List Cursor) (f : Cursor → List Cursor)
    (next : Cursor → Option Cursor) :
    (l.flatMap f).findSome? next = l.findSome? fun t => (f t).findSome? next := by
  induction l with
  | nil => rfl
  | cons t l ih =>
    rw [List.flatMap_cons, List.findSome?_append, List.findSome?_cons, ih]
    cases (f t).findSome? next <;> rfl

theorem follows_searchAfter {step : SearchStep} {ways : Cursor → List Cursor}
    (h : Follows step ways) (rounds : Nat) :
    Follows (searchAfter step rounds) (afterRounds ways rounds) := by
  induction rounds with
  | zero => intro s next; simp [searchAfter, afterRounds]
  | succ rounds ih =>
    intro s next
    rw [searchAfter, afterRounds, h, findSome?_flatMap]
    congr 1
    funext t
    exact ih t next

theorem follows_searchUpto {step : SearchStep} {ways : Cursor → List Cursor}
    (h : Follows step ways) (greedy : Bool) (rounds : Nat) :
    Follows (searchUpto step greedy rounds) (uptoRounds ways greedy rounds) := by
  induction rounds with
  | zero => intro s next; simp [searchUpto, uptoRounds]
  | succ rounds ih =>
    intro s next
    have further : (step s fun t =>
          if s.passed < t.passed then searchUpto step greedy rounds t next else next t) =
        ((ways s).flatMap fun t =>
          if s.passed < t.passed then uptoRounds ways greedy rounds t else [t]).findSome? next := by
      rw [h, findSome?_flatMap]
      congr 1
      funext t
      split
      · exact ih t next
      · simp
    rw [searchUpto, uptoRounds]
    simp only [further]
    split
    · rw [List.findSome?_append]
      cases List.findSome? next _ <;> simp
    · rw [List.findSome?_cons]
      cases next s <;> rfl

/-- The search finds the answer of the first of all ways that has one. -/
theorem Pattern.first_eq_findSome? (p : Pattern) (s : Cursor) (next : Cursor → Option Cursor) :
    p.first s next = (p.ways s).findSome? next := by
  induction p generalizing s next with
  | empty => simp [first, ways]
  | set chars => rw [first, ways, findSome?_toList]
  | anchor a => rw [first, ways]; split <;> simp
  | sequence p q ihp ihq =>
    rw [first, ways, ihp, findSome?_flatMap]
    congr 1
    funext t
    exact ihq t next
  | either p q ihp ihq =>
    rw [first, ways, List.findSome?_append, ihp, ihq]
    cases List.findSome? next (p.ways s) <;> simp
  | group number p ih => rw [first, ways, ih, List.findSome?_map]; rfl
  | times greedy least most p ih =>
    rw [first, ways, follows_searchAfter ih, findSome?_flatMap]
    congr 1
    funext t
    exact follows_searchUpto ih greedy _ t next
  | once p ih =>
    rw [first, ways, ih, findSome?_some_eq_head?]
    cases p.ways s <;> simp
  | again letters number => rw [first, ways, findSome?_toList]
  | given number p q ihp ihq =>
    rw [first, ways]
    split
    · exact ihp s next
    · exact ihq s next
  | look back negated p ih =>
    rw [first, ways, findSome?_toList]
    simp only [ih, findSome?_some_eq_head?]

end QueryTelemetry
