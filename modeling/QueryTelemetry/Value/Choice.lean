import QueryTelemetry.Signature
import QueryTelemetry.Value.Keys

/-!
# Choices and settings as values

A kind of choices has a name, a few choices, and for each of them its own name and what it stands
for. A value chooses one of them when it is that choice, or what the choice stands for. Settings of
a kind are made of their parts by name; a part that is left out has its default.
-/

namespace QueryTelemetry

/-- A kind of choices. -/
structure Choices (α : Type) where
  kind : String
  all : List α
  name : α → String
  content : α → Value

namespace Choices

variable {α : Type}

/-- A choice as a value. -/
def toValue (c : Choices α) (a : α) : Value := .choice c.kind (c.name a) (c.content a)

/-- The choice of a name. -/
def ofName? (c : Choices α) (name : String) : Option α := c.all.find? (c.name · == name)

/-- The choice that a value is or that stands for it. -/
def ofValue? (c : Choices α) (v : Value) : Option α :=
  match v with
  | .choice kind name _ => if kind == c.kind then c.ofName? name else none
  | v => c.all.find? (c.content · == v)

/-- The choice that a value is or that stands for it; other values are refused. -/
def ofValue (c : Choices α) (v : Value) : Except Fault α :=
  match c.ofValue? v with
  | some a => .ok a
  | none => do
    let shown ← v.describe
    .error (.ofValue (shown ++ " is not a valid " ++ c.kind))

end Choices

/-- Settings of a kind from some of their parts by name; `usual` gives all parts in order, with
their defaults. -/
def Value.settingsOf (kind : String) (usual given : Fields) : Except Fault Value := do
  let signature := Signature.of (kind ++ ".__init__") (usual.map fun e => .may e.1) []
  let bound ← signature.bind [] given
  .ok (.settings kind (usual.map fun e => (e.1, (bound.get? e.1).getD e.2)))

end QueryTelemetry
