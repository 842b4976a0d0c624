import QueryTelemetry.Decimal.Layout
import QueryTelemetry.Text.Numeral
import QueryTelemetry.Text.Quoted
import QueryTelemetry.Value.Basic

/-!
# The text of a value

Every value has a description, in which texts are quoted and containers show their items, and a
text, which is the description except for texts, choices, faults, query errors and opaque objects.
Either
may fail: a whole number of more than `Text.digitLimit` digits is not written out, and an opaque
object may refuse its text.
-/

namespace QueryTelemetry

/-- The fault of writing out a whole number that is too long. -/
def Fault.tooManyDigits : Fault :=
  .plain .value s!"Exceeds the limit ({Text.digitLimit} digits) for integer string conversion; use sys.set_int_max_str_digits() to increase the limit"

/-- A whole number written out. -/
def Value.intText (n : Int) : Except Fault String :=
  if Text.digitLimit < (toString n.natAbs).length then .error .tooManyDigits else .ok (toString n)

/-- The text of a slot. -/
def Value.slotText : Trace.Slot → Except Fault String
  | .field id => do
    let shown ← intText id
    .ok ("field:" ++ shown)
  | s => .ok s.label

/-- The description of a slot. -/
def Value.slotDescription : Trace.Slot → Except Fault String
  | .field id => do
    let shown ← intText id
    .ok ("FieldSlot(resolve_id=" ++ shown ++ ")")
  | s => .ok s.describe

/-- A slot has its label as its text and its full description as its description, unless it is
that of a field with an id that is too long to be written out. -/
theorem Value.slotText_of_short {s : Trace.Slot}
    (h : ∀ id, s = .field id → (toString id.natAbs).length ≤ Text.digitLimit) :
    slotText s = .ok s.label ∧ slotDescription s = .ok s.describe := by
  cases s with
  | field id =>
    have hid : intText id = .ok (toString id) := if_neg (Nat.not_lt.2 (h id rfl))
    rw [slotText, slotDescription, hid]
    exact ⟨rfl, rfl⟩
  | _ => exact ⟨rfl, rfl⟩

/-- Items between brackets, separated by commas. -/
def enclose (left right : String) (items : List String) : String :=
  left ++ String.intercalate ", " items ++ right

/-- Items of a fixed sequence between parentheses; a single item keeps its comma. -/
def encloseTuple : List String → String
  | [item] => "(" ++ item ++ ",)"
  | items => enclose "(" ")" items

mutual

/-- The description of a value. -/
def Value.describe : Value → Except Fault String
  | .null => .ok "None"
  | .bool b => .ok (if b then "True" else "False")
  | .int n => Value.intText n
  | .float x => .ok (Decimal.plain.render x)
  | .text s => .ok (Text.quote s)
  | .bytes b => .ok (Text.quoteBytes b)
  | .list items => (enclose "[" "]") <$> Value.describeAll items
  | .tuple items => encloseTuple <$> Value.describeAll items
  | .dict entries => (enclose "\x7b" "\x7d") <$> Value.describeEntries entries
  | .slot s => Value.slotDescription s
  | .choice kind name content => do
    let shown ← content.describe
    .ok ("<" ++ kind ++ "." ++ name ++ ": " ++ shown ++ ">")
  | .settings kind parts => (enclose (kind ++ "(") ")") <$> Value.describeParts parts
  | .fault f => f.describe
  | .queryError message path locations extensions => do
    let path ← Value.describeAll path
    let locations ← Value.describeAll locations
    let extensions ← extensions.describe
    .ok ("ServerError(message=" ++ Text.quote message ++ ", path=" ++ encloseTuple path ++
      ", locations=" ++ encloseTuple locations ++ ", extensions=" ++ extensions ++ ")")
  | .object _ _ description => .ok description
  | .textless _ description _ => .ok description
  | .cyclic => .ok "\x7b'self': \x7b...\x7d\x7d"

/-- The descriptions of a list of values. -/
def Value.describeAll : List Value → Except Fault (List String)
  | [] => .ok []
  | v :: rest => do
    let first ← v.describe
    let others ← Value.describeAll rest
    .ok (first :: others)

/-- The descriptions of the entries of a map. -/
def Value.describeEntries : List (Value × Value) → Except Fault (List String)
  | [] => .ok []
  | (k, v) :: rest => do
    let key ← k.describe
    let item ← v.describe
    let others ← Value.describeEntries rest
    .ok ((key ++ ": " ++ item) :: others)

/-- The descriptions of the parts of settings. -/
def Value.describeParts : List (String × Value) → Except Fault (List String)
  | [] => .ok []
  | (name, v) :: rest => do
    let part ← v.describe
    let others ← Value.describeParts rest
    .ok ((name ++ "=" ++ part) :: others)

/-- The description of a fault. -/
def Fault.describe : Fault → Except Fault String
  | .plain kind message => .ok (kind.name ++ "(" ++ Text.quote message ++ ")")
  | .reported report message details cause => do
    let message ← message.describe
    let details ← details.describe
    let cause ← Fault.describeCause cause
    .ok (report.name ++ "(message=" ++ message ++ ", details=" ++ details ++ ", cause=" ++ cause ++
      ")")

/-- The description of a cause that may be missing. -/
def Fault.describeCause : Option Fault → Except Fault String
  | none => .ok "None"
  | some f => f.describe

end

mutual

/-- The text of a fault: its message, followed by its details when it has any. A missing key shows
its message quoted. A message without details has to be a text. -/
def Fault.text : Fault → Except Fault String
  | .plain .key message => .ok (Text.quote message)
  | .plain _ message => .ok message
  | .reported _ message details _ =>
    if details.isGiven then do
      let message ← message.toText
      let shown ← details.describe
      .ok (message ++ " | Details: " ++ shown)
    else
      match message with
      | .text s => .ok s
      | v => .error (.plain .type s!"__str__ returned non-string (type {v.kind})")

/-- The text of a value. -/
def Value.toText : Value → Except Fault String
  | .text s => .ok s
  | .slot s => Value.slotText s
  | .choice kind name _ => .ok (kind ++ "." ++ name)
  | .fault f => f.text
  | .queryError message .. => .ok message
  | .object _ shown _ => .ok shown
  | .textless _ _ f => .error f
  | v => v.describe

end

/-- The texts of a list of values, joined by a separator. -/
def Value.joinTexts (separator : String) (values : List Value) : Except Fault String := do
  let texts ← values.mapM Value.toText
  .ok (String.intercalate separator texts)

end QueryTelemetry
