import QueryTelemetry.Decimal.Rounding
import QueryTelemetry.Value.Basic

/-!
# Keys of maps

Two keys are the same when they are equal as data: numbers by what they count, whatever their
kind, texts and bytes by their content, sequences item by item and settings part by part. Opaque
objects, faults and errors are the same as nothing else. `withEntry` writes an entry into a map.
-/

namespace QueryTelemetry

/-- The sign and size of a number that counts: `± num / den`, or infinity. -/
inductive Quantity where
  | finite (num : Int) (den : Nat)
  | infinite (negative : Bool)
  | unordered
deriving DecidableEq, Repr

/-- What a number counts. -/
def Quantity.ofFloat (x : Float) : Quantity :=
  if x.isNaN then .unordered
  else if x.isInf then .infinite (Decimal.isNegative x)
  else
    let (m, q) := Decimal.decode x
    let size : Int := ((m * Decimal.twoTo q.toNat : Nat) : Int)
    .finite (if Decimal.isNegative x then -size else size) (Decimal.twoTo (-q).toNat)

/-- Whether the first quantity is smaller. -/
def Quantity.lt : Quantity → Quantity → Bool
  | .finite a b, .finite c d => decide (a * (d : Int) < c * (b : Int))
  | .finite .., .infinite negative => !negative
  | .infinite negative, .finite .. => negative
  | .infinite a, .infinite b => a && !b
  | _, _ => false

/-- Whether two quantities are equal. -/
def Quantity.same : Quantity → Quantity → Bool
  | .finite a b, .finite c d => decide (a * (d : Int) = c * (b : Int))
  | .infinite a, .infinite b => a == b
  | _, _ => false

/-- What a value counts, when it is a number or a truth value. -/
def Value.quantity? : Value → Option Quantity
  | .bool b => some (.finite (if b then 1 else 0) 1)
  | .int n => some (.finite n 1)
  | .float x => some (.ofFloat x)
  | _ => none

mutual

/-- Whether two values are the same key. -/
def Value.sameKey : Value → Value → Bool
  | .null, .null => true
  | .text a, .text b => a == b
  | .bytes a, .bytes b => a == b
  | .slot a, .slot b => a == b
  | .choice kind name _, .choice kind' name' _ => kind == kind' && name == name'
  | .tuple a, .tuple b => Value.sameKeys a b
  | .settings kind a, .settings kind' b => kind == kind' && Value.sameParts a b
  | a, b =>
    match a.quantity?, b.quantity? with
    | some x, some y => x.same y
    | _, _ => false

/-- Whether two lists of values are the same item by item. -/
def Value.sameKeys : List Value → List Value → Bool
  | [], [] => true
  | a :: as, b :: bs => a.sameKey b && Value.sameKeys as bs
  | _, _ => false

/-- Whether the parts of two settings are the same one by one. -/
def Value.sameParts : List (String × Value) → List (String × Value) → Bool
  | [], [] => true
  | (name, a) :: as, (name', b) :: bs => name == name' && a.sameKey b && Value.sameParts as bs
  | _, _ => false

end

instance : BEq Value := ⟨Value.sameKey⟩

/-- A value with an entry written into it; only a map takes entries. -/
def Value.withEntry (v : Value) (name : String) (item : Value) : Except Fault Value :=
  match v with
  | .dict entries => .ok (.dict (Assoc.put entries (.text name) item))
  | .list _ => .error (.plain .type "list indices must be integers or slices, not str")
  | v => .error (.plain .type s!"'{v.kind}' object does not support item assignment")

end QueryTelemetry
