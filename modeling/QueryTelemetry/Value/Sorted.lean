import QueryTelemetry.Sorting
import QueryTelemetry.Value.Keys

/-!
# Sorted keys

Numbers come before one another by size, texts by their code points, bytes and sequences from the
left. Nothing else can be compared, and things of different classes cannot either; a sequence can be
compared with another one when their first items that differ can. Texts are sorted by any stable
sort; other keys are sorted by merging runs, which settles the two keys that are found not
comparable.
-/

namespace QueryTelemetry

/-- Two keys that cannot be compared. -/
structure KeyClash where
  left : Value
  right : Value

mutual

/-- Whether the first value comes before the second. -/
def Value.precedes : Value → Value → Except KeyClash Bool
  | .text a, .text b => .ok (decide (a < b))
  | .bytes a, .bytes b => .ok (decide (a < b))
  | .tuple a, .tuple b => Value.itemsPrecede a b
  | .list a, .list b => Value.itemsPrecede a b
  | a, b =>
    match a.quantity?, b.quantity? with
    | some x, some y => .ok (x.lt y)
    | _, _ => .error { left := a, right := b }

/-- Whether the first list of values comes before the second: the first items that differ decide. -/
def Value.itemsPrecede : List Value → List Value → Except KeyClash Bool
  | [], bs => .ok !bs.isEmpty
  | _ :: _, [] => .ok false
  | a :: as, b :: bs => if a.sameKey b then Value.itemsPrecede as bs else a.precedes b

end

/-- The entries of a map sorted by key, or two keys that cannot be compared. -/
def sortEntries {α : Type} (entries : List (Value × α)) : Except KeyClash (List (Value × α)) :=
  let texts := entries.filterMap fun e =>
    match e.1 with
    | .text s => some (s, e)
    | _ => none
  if texts.length = entries.length then
    .ok ((texts.mergeSort fun a b => !decide (b.1 < a.1)).map (·.2))
  else Sorting.sorted (fun a b => a.1.precedes b.1) entries

end QueryTelemetry
