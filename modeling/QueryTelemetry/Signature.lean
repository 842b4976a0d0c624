import QueryTelemetry.Fault

/-!
# Arguments of calls

A signature says which arguments a call takes: some by position, which may be given by name too, and
some by name only. `Signature.bind` gives every argument to its parameter. A call that leaves out a
required argument, gives one twice or gives one that is not asked for is refused with a message
that counts the arguments, with the receiver of the call among them.
-/

namespace QueryTelemetry

/-- A parameter of a call, and whether it has to be given. -/
structure Parameter where
  name : String
  required : Bool
deriving DecidableEq, Repr

/-- The arguments that a call takes. -/
structure Signature where
  callee : String
  /-- The parameters that are given by position, or by name. -/
  places : List Parameter
  /-- The parameters that are given by name only. -/
  names : List Parameter
  /-- Whether further arguments may be given by position. -/
  morePlaces : Bool
  /-- Whether further arguments may be given by name. -/
  moreNames : Bool
deriving DecidableEq, Repr

/-- The arguments of a call: those of parameters, and the further ones. -/
structure Bound where
  given : Fields
  items : List Value
  named : Fields

namespace Bound

/-- The argument of a parameter, when it is given. -/
def get? (b : Bound) (name : String) : Option Value := b.given.lookup name

/-- The argument of a parameter, or null. -/
def get (b : Bound) (name : String) : Value := (b.get? name).getD .null

end Bound

/-- A parameter that has to be given. -/
def Parameter.must (name : String) : Parameter := { name, required := true }

/-- A parameter that may be left out. -/
def Parameter.may (name : String) : Parameter := { name, required := false }

namespace Signature

/-- A signature of parameters by position and by name. -/
def of (callee : String) (places names : List Parameter) : Signature :=
  { callee, places, names, morePlaces := false, moreNames := false }

/-- The name of the receiver of a call. -/
def receiver : String := "self"

/-- A number of things, in the plural unless it is one. -/
def plural (n : Nat) (what : String) : String := if n = 1 then what else what ++ "s"

/-- Names in quotes, as a list of words. -/
def wordList (names : List String) : String :=
  match (names.map fun n => "'" ++ n ++ "'").reverse with
  | [] => ""
  | [a] => a
  | [b, a] => a ++ " and " ++ b
  | b :: a :: rest =>
    String.intercalate ", " (rest.reverse ++ [a]) ++ ", and " ++ b

/-- The refusal of a call. -/
def refuse {α : Type} (s : Signature) (what : String) : Except Fault α :=
  .error (.ofType (s.callee ++ "() " ++ what))

/-- The arguments by name, each given to its parameter or kept as a further one. -/
def bindNames (s : Signature) : Fields → Bound → Except Fault Bound
  | [], b => .ok b
  | (name, v) :: rest, b =>
    if name == receiver || (b.get? name).isSome then
      s.refuse ("got multiple values for argument '" ++ name ++ "'")
    else if (s.places ++ s.names).any (·.name == name) then
      s.bindNames rest { b with given := b.given ++ [(name, v)] }
    else if s.moreNames then s.bindNames rest { b with named := b.named ++ [(name, v)] }
    else s.refuse ("got an unexpected keyword argument '" ++ name ++ "'")

/-- The refusal of a call with too many arguments by position. -/
def tooMany {α : Type} (s : Signature) (count : Nat) (b : Bound) : Except Fault α :=
  let takes := s.places.length + 1
  let least := (s.places.filter (·.required)).length + 1
  let range := if least = takes then toString takes else s!"from {least} to {takes}"
  let subject := if least = takes then plural takes "argument" else "arguments"
  let byName := (s.names.filter fun p => (b.get? p.name).isSome).length
  let also :=
    if byName = 0 then ""
    else " positional " ++ plural (count + 1) "argument" ++ " (and " ++ toString byName ++
      " keyword-only " ++ plural byName "argument" ++ ")"
  let verb := if count = 0 ∧ byName = 0 then "was" else "were"
  s.refuse s!"takes {range} positional {subject} but {count + 1}{also} {verb} given"

/-- The refusal of a call that leaves out required arguments. -/
def missing {α : Type} (s : Signature) (how : String) (names : List String) : Except Fault α :=
  let what := plural names.length "argument"
  s.refuse s!"missing {names.length} required {how} {what}: {wordList names}"

/-- The names of the required parameters that have no argument. -/
def unmet (parameters : List Parameter) (b : Bound) : List String :=
  (parameters.filter fun p => p.required && (b.get? p.name).isNone).map (·.name)

/-- The arguments of a call, given by position and by name. -/
def bind (s : Signature) (args : List Value) (named : Fields) : Except Fault Bound := do
  let placed : Fields := (s.places.map (·.name)).zip args
  let start : Bound := { given := placed, items := args.drop s.places.length, named := [] }
  let b ← s.bindNames named start
  if !b.items.isEmpty && !s.morePlaces then s.tooMany args.length b
  else
    match unmet s.places b, unmet s.names b with
    | [], [] => .ok b
    | [], names => s.missing "keyword-only" names
    | places, _ => s.missing "positional" places

end Signature

end QueryTelemetry
