/-!
# Sets of code points as alternating bounds

A property of characters that no short rule describes is kept as a list of bounds: the first
code point inside, the first one past that stretch, the next one inside, and so on. The tables
of this library are in this form, in increasing order.
-/

namespace QueryTelemetry.Text

/-- Whether `n` lies in a stretch of the alternating bounds. -/
def inRanges : List Nat → Nat → Bool
  | lo :: hi :: rest, n => (decide (lo ≤ n) && decide (n < hi)) || (decide (hi ≤ n) && inRanges rest n)
  | _, _ => false

theorem inRanges_nil (n : Nat) : inRanges [] n = false := rfl

theorem inRanges_cons (lo hi n : Nat) (rest : List Nat) :
    inRanges (lo :: hi :: rest) n =
      ((decide (lo ≤ n) && decide (n < hi)) || (decide (hi ≤ n) && inRanges rest n)) := rfl

end QueryTelemetry.Text
