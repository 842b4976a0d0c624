import QueryTelemetry.Value.Keys

/-!
# Equal data

Two pieces of data are equal when they hold the same: numbers count by their size, whatever their
kind, sequences item by item, and maps by their entries, whatever their order.
-/

namespace QueryTelemetry.Value

mutual

/-- Whether two pieces of data are equal. -/
def sameData : Value → Value → Bool
  | .list a, .list b => sameItems a b
  | .tuple a, .tuple b => sameItems a b
  | .dict a, .dict b => a.length == b.length && sameEntries a b
  | .settings kind a, .settings kind' b => kind == kind' && sameNamed a b
  | a, b => a.sameKey b

/-- Whether two lists of data are equal item by item. -/
def sameItems : List Value → List Value → Bool
  | [], [] => true
  | a :: as, b :: bs => a.sameData b && sameItems as bs
  | _, _ => false

/-- Whether a map has every entry of a list. -/
def sameEntries : List (Value × Value) → List (Value × Value) → Bool
  | [], _ => true
  | (k, v) :: rest, b =>
    (match Assoc.get? b k with
      | some w => v.sameData w
      | none => false) && sameEntries rest b

/-- Whether the parts of two settings are equal one by one. -/
def sameNamed : List (String × Value) → List (String × Value) → Bool
  | [], [] => true
  | (name, a) :: as, (name', b) :: bs => name == name' && a.sameData b && sameNamed as bs
  | _, _ => false

end

end QueryTelemetry.Value
