import QueryTelemetry.Fault
import QueryTelemetry.Json.Text
import QueryTelemetry.Value.Sorted

/-!
# Writing data as JSON

Maps keep the order of their keys or are sorted by them. A key may be a text, a number, a truth
value or null, and is written as a text; no other key can be written. Data that JSON lacks is
written as its text. A map that holds itself is refused.
-/

namespace QueryTelemetry.Json

/-- How JSON is laid out: on one line, or with an indent for each level; and whether maps are
sorted by key. -/
structure Style where
  indent : Option Nat
  sorted : Bool
deriving DecidableEq, Repr

/-- One line, in the order of the keys. -/
def Style.line : Style := { indent := none, sorted := false }

/-- One line, sorted by key. -/
def Style.sortedLine : Style := { indent := none, sorted := true }

/-- The words of JSON for what is not finite. -/
def numbers : Decimal.Layout := { Decimal.plain with infinity := "Infinity", nan := "NaN" }

/-- The refusal of a map that holds itself. -/
def circular : Fault := .ofValue "Circular reference detected"

/-- The refusal of a key. -/
def badKey (key : Value) : Fault :=
  .ofType s!"keys must be str, int, float, bool or None, not {key.kind}"

/-- The refusal to sort a map. -/
def KeyClash.fault (clash : KeyClash) : Fault :=
  .ofType s!"'<' not supported between instances of '{clash.left.kind}' and '{clash.right.kind}'"

/-- A key as the text that stands for it. -/
def keyText : Value → Except Fault String
  | .text s => .ok s
  | .bool b => .ok (if b then "true" else "false")
  | .null => .ok "null"
  | .int n => Value.intText n
  | .float x => .ok (numbers.render x)
  | v => .error (badKey v)

/-- What stands before the first item and between two items of a container at a depth. -/
def Style.newline (style : Style) (depth : Nat) : String :=
  match style.indent with
  | none => ""
  | some n => "\n" ++ String.ofList (List.replicate (n * depth) ' ')

/-- The items of a container at a depth, between its brackets. -/
def Style.container (style : Style) (depth : Nat) (left right : String) (items : List String) :
    String :=
  let separator := if style.indent.isNone then ", " else "," ++ style.newline (depth + 1)
  if items.isEmpty then left ++ right
  else
    left ++ style.newline (depth + 1) ++ String.intercalate separator items ++
      style.newline depth ++ right

/-- The members of a map as text, the values being written already; a key is looked at before its
value. -/
def members : List (Value × Except Fault String) → Except Fault (List String)
  | [] => .ok []
  | (k, written) :: rest => do
    let key ← keyText k
    let item ← written
    let others ← members rest
    .ok ((literal key ++ ": " ++ item) :: others)

/-- A map as text, the values being written already. -/
def Style.object (style : Style) (depth : Nat) (entries : List (Value × Except Fault String)) :
    Except Fault String := do
  let entries ←
    if style.sorted then (sortEntries entries).mapError KeyClash.fault else .ok entries
  let items ← members entries
  .ok (style.container depth "\x7b" "\x7d" items)

/-- Data without a form of its own, written as its text. -/
def asText (v : Value) : Except Fault String := literal <$> v.toText

mutual

/-- A value as JSON at a depth. -/
def Style.write (style : Style) (depth : Nat) : Value → Except Fault String
  | .null => .ok "null"
  | .bool b => .ok (if b then "true" else "false")
  | .int n => Value.intText n
  | .float x => .ok (numbers.render x)
  | .text s => .ok (literal s)
  | .list items | .tuple items => do
    let items ← style.writeAll (depth + 1) items
    .ok (style.container depth "[" "]" items)
  | .dict entries => style.object depth (style.writeEntries (depth + 1) entries)
  | .cyclic => .error circular
  | .bytes b => asText (.bytes b)
  | .slot s => asText (.slot s)
  | .choice k n c => asText (.choice k n c)
  | .settings k p => asText (.settings k p)
  | .fault f => asText (.fault f)
  | .queryError m p l e => asText (.queryError m p l e)
  | .object k t d => asText (.object k t d)
  | .textless k d f => asText (.textless k d f)

/-- A list of values as JSON. -/
def Style.writeAll (style : Style) (depth : Nat) : List Value → Except Fault (List String)
  | [] => .ok []
  | v :: rest => do
    let first ← style.write depth v
    let others ← style.writeAll depth rest
    .ok (first :: others)

/-- The values of a map as JSON, each with its key; a failure stays with its key. -/
def Style.writeEntries (style : Style) (depth : Nat) :
    List (Value × Value) → List (Value × Except Fault String)
  | [] => []
  | (k, v) :: rest => (k, style.write depth v) :: style.writeEntries depth rest

end

/-- A value as JSON. -/
def print (style : Style) (v : Value) : Except Fault String := style.write 0 v

end QueryTelemetry.Json
