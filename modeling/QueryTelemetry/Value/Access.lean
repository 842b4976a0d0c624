import QueryTelemetry.Value.Keys

/-!
# Looking into data

Short ways to look at the members of a map by name and to take them for what they should be. A
member that is missing or of another kind reads as nothing, or as the default that is given.
-/

namespace QueryTelemetry.Value

/-- A text. -/
def asText? : Value → Option String
  | .text s => some s
  | _ => none

/-- A whole number. -/
def asInt? : Value → Option Int
  | .int n => some n
  | _ => none

/-- A truth value. -/
def asBool? : Value → Option Bool
  | .bool b => some b
  | _ => none

/-- A fault. -/
def asFault? : Value → Option Fault
  | .fault f => some f
  | _ => none

/-- The items of a sequence. -/
def asItems : Value → List Value
  | .list items | .tuple items => items
  | _ => []

/-- The two items of a pair. -/
def asPair? (v : Value) : Option (Value × Value) :=
  match v.asItems with
  | [a, b] => some (a, b)
  | _ => none

/-- The entries of a map. -/
def asEntries : Value → Entries
  | .dict entries => entries
  | _ => []

/-- The entries of a map whose keys are texts. -/
def asFields : Value → Fields
  | .dict entries => entries.filterMap fun e => e.1.asText?.map (·, e.2)
  | _ => []

/-- A member of a map, or a part of settings. -/
def member? (v : Value) (name : String) : Option Value :=
  match v with
  | .dict entries => Assoc.get? entries (.text name)
  | .settings _ parts => Assoc.get? parts name
  | _ => none

/-- A member of a map that is not null. -/
def given? (v : Value) (name : String) : Option Value :=
  match v.member? name with
  | some .null => none
  | found => found

/-- A member of a map, null when it is missing. -/
def entry (v : Value) (name : String) : Value := (v.member? name).getD .null

/-- A member that is a text. -/
def textAt? (v : Value) (name : String) : Option String := (v.entry name).asText?

/-- A member that is a text, or a default. -/
def textAt (v : Value) (name default : String) : String := (v.textAt? name).getD default

/-- A member that is a whole number. -/
def intAt? (v : Value) (name : String) : Option Int := (v.entry name).asInt?

/-- A member that is a whole number, or a default. -/
def intAt (v : Value) (name : String) (default : Int) : Int := (v.intAt? name).getD default

/-- A member that is a truth value, or a default. -/
def boolAt (v : Value) (name : String) (default : Bool) : Bool :=
  (v.entry name).asBool?.getD default

/-- The items of a member that is a sequence. -/
def itemsAt (v : Value) (name : String) : List Value := (v.entry name).asItems

/-- The texts among the items of a member. -/
def textsAt (v : Value) (name : String) : List String := (v.itemsAt name).filterMap asText?

/-- The entries of a member that is a map. -/
def fieldsAt (v : Value) (name : String) : Fields := (v.entry name).asFields

/-- The entries of a member that is a map. -/
def entriesAt (v : Value) (name : String) : Entries := (v.entry name).asEntries

/-- A list of texts as data. -/
def ofTexts (texts : List String) : Value := .list (texts.map .text)

/-- A number of things as data. -/
def ofNat (n : Nat) : Value := .int n

/-- Data that may be missing. -/
def ofOption {α : Type} (f : α → Value) (a : Option α) : Value := (a.map f).getD .null

end QueryTelemetry.Value
