import QueryTelemetry.Fault

/-!
# Cache control

Every field of a response may carry a directive. The response is public only if every field is,
and its maximum age is the smallest one that any field sets; an age of zero sets none. `merge` is
commutative and associative with `CacheControl.neutral` as its identity, so the order in which
concurrent fields deliver their directives does not matter.
-/

namespace QueryTelemetry

/-- A cache-control directive of a field or of a whole response. An age of zero means none. -/
structure CacheControl where
  isPublic : Bool
  maxAge : Nat
deriving DecidableEq, Repr

namespace CacheControl

/-- The directive that restricts nothing. -/
def neutral : CacheControl := { isPublic := true, maxAge := 0 }

/-- The fault of an age below zero. -/
def negativeAge (age : Int) : Fault := .ofValue s!"max_age must be non-negative, got {age}"

/-- A directive with an age that may be out of range. -/
def ofAge (isPublic : Bool) (age : Int) : Except Fault CacheControl :=
  if 0 ≤ age then .ok { isPublic, maxAge := age.toNat } else .error (negativeAge age)

/-- The smaller of two ages, where zero sets none. -/
def pickAge (a b : Nat) : Nat :=
  if a = 0 then b else if b = 0 then a else min a b

/-- The stricter of two directives in both respects. -/
def merge (a b : CacheControl) : CacheControl :=
  { isPublic := a.isPublic && b.isPublic, maxAge := pickAge a.maxAge b.maxAge }

/-- All directives of a list together. -/
def mergeAll (controls : List CacheControl) : CacheControl := controls.foldl merge neutral

/-- The value of the response header, when an age is set. -/
def headerValue (c : CacheControl) : Option String :=
  if 0 < c.maxAge then
    some ("max-age=" ++ toString c.maxAge ++ if c.isPublic then "" else ", private")
  else none

/-- The directive with another age. -/
def withMaxAge (c : CacheControl) (age : Int) : Except Fault CacheControl := ofAge c.isPublic age

/-- The directive for private caches only. -/
def withPrivate (c : CacheControl) : CacheControl := { c with isPublic := false }

/-- The full description of a directive. -/
def describe (c : CacheControl) : String :=
  "CacheControl(public=" ++ (if c.isPublic then "True" else "False") ++ ", max_age=" ++
    toString c.maxAge ++ ")"

theorem merge_comm (a b : CacheControl) : a.merge b = b.merge a := by
  simp only [merge, pickAge, CacheControl.mk.injEq, Bool.and_comm, true_and]
  split <;> split <;> omega

theorem merge_assoc (a b c : CacheControl) : (a.merge b).merge c = a.merge (b.merge c) := by
  simp only [merge, pickAge, CacheControl.mk.injEq, Bool.and_assoc, true_and]
  repeat' split
  all_goals omega

theorem neutral_merge (a : CacheControl) : neutral.merge a = a := by simp [neutral, merge, pickAge]

theorem merge_neutral (a : CacheControl) : a.merge neutral = a := by
  rw [merge_comm, neutral_merge]

/-- Collects the directives of concurrently resolved fields. -/
structure Aggregator where
  result : CacheControl
deriving DecidableEq, Repr

namespace Aggregator

/-- An aggregator that starts from a directive, or from none. -/
def start (initial : Option CacheControl) : Aggregator := ⟨initial.getD neutral⟩

/-- Merge one directive into the result. -/
def add (a : Aggregator) (c : CacheControl) : Aggregator := ⟨a.result.merge c⟩

/-- Merge several directives into the result. -/
def extend (a : Aggregator) (cs : List CacheControl) : Aggregator := a.add (mergeAll cs)

end Aggregator

end CacheControl

end QueryTelemetry
