import QueryTelemetry.Fault
import QueryTelemetry.Value.Keys

/-!
# Reading a value as a map

A map reads as itself. A sequence reads as a map when each of its items is a pair: a sequence of
two items, a text of two characters, two bytes or a map of two keys. Nothing else reads as a map.
-/

namespace QueryTelemetry

namespace Value

mutual

/-- The kind of the part of a value that keeps it from being a key. -/
def unusableKey? : Value → Option String
  | .list _ => some "list"
  | .dict _ | .cyclic => some "dict"
  | .tuple items => unusableKeys? items
  | .settings _ parts => unusableParts? parts
  | .queryError _ path locations extensions =>
    ((unusableKeys? path).orElse fun _ => unusableKeys? locations).orElse fun _ =>
      extensions.unusableKey?
  | _ => none

/-- The kind of the first part of a list that keeps a sequence of it from being a key. -/
def unusableKeys? : List Value → Option String
  | [] => none
  | v :: rest => v.unusableKey?.orElse fun _ => unusableKeys? rest

/-- The kind of the first of the parts of settings that keeps them from being a key. -/
def unusableParts? : List (String × Value) → Option String
  | [] => none
  | (_, v) :: rest => v.unusableKey?.orElse fun _ => unusableParts? rest

end

/-- The fault of using a value of some kind as a key. -/
def unusableKey (kind : String) : Fault := .ofType s!"unhashable type: '{kind}'"

/-- The items that a value runs through, when it can be run through. -/
def items? : Value → Option (List Value)
  | .list items | .tuple items => some items
  | .text s => some (s.toList.map fun c => .text c.toString)
  | .bytes b => some (b.map fun x => .int x.toNat)
  | .dict entries => some (entries.map (·.1))
  | .cyclic => some [.text "self"]
  | _ => none

/-- The entry that one item of a sequence stands for. -/
def entryOf (position : Nat) (v : Value) : Except Fault (Value × Value) :=
  match v.items? with
  | none =>
    .error (.ofType
      s!"cannot convert dictionary update sequence element #{position} to a sequence")
  | some [k, item] =>
    match k.unusableKey? with
    | some kind => .error (unusableKey kind)
    | none => .ok (k, item)
  | some items =>
    .error (.ofValue
      s!"dictionary update sequence element #{position} has length {items.length}; 2 is required")

/-- The entries that the items of a sequence stand for. -/
def entriesOf (position : Nat) : List Value → Except Fault (List (Value × Value))
  | [] => .ok []
  | v :: rest => do
    let entry ← entryOf position v
    let others ← entriesOf (position + 1) rest
    .ok (entry :: others)

/-- The entries of a value read as a map. -/
def toEntries : Value → Except Fault (List (Value × Value))
  | .dict entries => .ok entries
  | .cyclic => .ok [(.text "self", .cyclic)]
  | v =>
    match v.items? with
    | none => .error (.ofType s!"'{v.kind}' object is not iterable")
    | some items => (Assoc.overlay []) <$> entriesOf 0 items

end Value

end QueryTelemetry
