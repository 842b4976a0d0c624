import QueryTelemetry.Decimal.Rounding
import QueryTelemetry.Text.Numeral
import QueryTelemetry.Value.Keys

/-!
# Reading JSON

The reader takes any JSON text. Numbers with a point or an exponent are fractions and all others
whole numbers; maps keep the order of their keys, and a key that comes again replaces its value.
`read` bounds its own recursion by the length of the text, which every step shortens.
-/

namespace QueryTelemetry.Json

/-- A text without the JSON blanks at its front. -/
def skipBlanks (cs : List Char) : List Char :=
  cs.dropWhile fun c => c == ' ' || c == '\n' || c == '\r' || c == '\t'

/-- The UTF-16 unit at the front of a text, after its backslash and `u`. -/
def takeUnit : List Char → Option (Nat × List Char)
  | a :: b :: c :: d :: rest => do
    let a ← Text.hexValue? a
    let b ← Text.hexValue? b
    let c ← Text.hexValue? c
    let d ← Text.hexValue? d
    some (((a * 16 + b) * 16 + c) * 16 + d, rest)
  | _ => none

/-- The character of a short escape. -/
def shortEscape? : Char → Option Char
  | '"' => some '"'
  | '\\' => some '\\'
  | '/' => some '/'
  | 'b' => some (Char.ofNat 8)
  | 'f' => some (Char.ofNat 12)
  | 'n' => some '\n'
  | 'r' => some '\r'
  | 't' => some '\t'
  | _ => none

/-- The character written by an escape of one unit or of a pair of units, and the rest. -/
def takeEscapedUnit (cs : List Char) : Option (Char × List Char) :=
  match takeUnit cs with
  | none => none
  | some (high, rest) =>
    if 55296 ≤ high ∧ high < 56320 then
      match rest with
      | '\\' :: 'u' :: rest =>
        match takeUnit rest with
        | some (low, rest) =>
          if 56320 ≤ low ∧ low < 57344 then
            some (Char.ofNat (65536 + (high - 55296) * 1024 + (low - 56320)), rest)
          else none
        | none => none
      | _ => none
    else some (Char.ofNat high, rest)

/-- The characters of a literal after its opening quote, and what follows the closing one. -/
def takeLiteral : Nat → List Char → Option (List Char × List Char)
  | 0, _ => none
  | _ + 1, [] => none
  | _ + 1, '"' :: rest => some ([], rest)
  | fuel + 1, '\\' :: 'u' :: rest => do
    let (c, rest) ← takeEscapedUnit rest
    let (cs, rest) ← takeLiteral fuel rest
    some (c :: cs, rest)
  | fuel + 1, '\\' :: e :: rest => do
    let c ← shortEscape? e
    let (cs, rest) ← takeLiteral fuel rest
    some (c :: cs, rest)
  | fuel + 1, c :: rest => do
    let (cs, rest) ← takeLiteral fuel rest
    some (c :: cs, rest)

/-- Whether a character can stand in a number. -/
def inNumber (c : Char) : Bool :=
  c.isDigit || c == '-' || c == '+' || c == '.' || c == 'e' || c == 'E'

/-- The number that a run of characters stands for. -/
def number? (cs : List Char) : Option Value :=
  if cs.any fun c => c == '.' || c == 'e' || c == 'E' then
    (Text.readFloat (String.ofList cs)).map .float
  else
    let (negative, body) := Text.takeSign cs
    let (digits, rest) := Text.takeDigits false body
    if digits.isEmpty || !rest.isEmpty then none
    else some (.int (if negative then -(Text.ofDigits digits : Int) else Text.ofDigits digits))

mutual

/-- A value at the front of a text, and the rest. -/
def takeValue : Nat → List Char → Option (Value × List Char)
  | 0, _ => none
  | fuel + 1, cs =>
    match skipBlanks cs with
    | 'n' :: 'u' :: 'l' :: 'l' :: rest => some (.null, rest)
    | 't' :: 'r' :: 'u' :: 'e' :: rest => some (.bool true, rest)
    | 'f' :: 'a' :: 'l' :: 's' :: 'e' :: rest => some (.bool false, rest)
    | '"' :: rest => do
      let (text, rest) ← takeLiteral (rest.length + 1) rest
      some (.text (String.ofList text), rest)
    | '[' :: rest =>
      match skipBlanks rest with
      | ']' :: rest => some (.list [], rest)
      | _ => do
        let (items, rest) ← takeItems fuel rest
        some (.list items, rest)
    | '\x7b' :: rest =>
      match skipBlanks rest with
      | '\x7d' :: rest => some (.dict [], rest)
      | _ => do
        let (entries, rest) ← takeMembers fuel rest
        some (.dict (Assoc.overlay [] entries), rest)
    | c :: rest => do
      let v ← number? (c :: rest.takeWhile inNumber)
      some (v, rest.dropWhile inNumber)
    | [] => none

/-- The items of a list up to its closing bracket, and the rest. -/
def takeItems : Nat → List Char → Option (List Value × List Char)
  | 0, _ => none
  | fuel + 1, cs => do
    let (v, rest) ← takeValue fuel cs
    match skipBlanks rest with
    | ',' :: rest =>
      let (items, rest) ← takeItems fuel rest
      some (v :: items, rest)
    | ']' :: rest => some ([v], rest)
    | _ => none

/-- The members of a map up to its closing brace, and the rest. -/
def takeMembers : Nat → List Char → Option (List (Value × Value) × List Char)
  | 0, _ => none
  | fuel + 1, cs =>
    match skipBlanks cs with
    | '"' :: rest => do
      let (key, rest) ← takeLiteral (rest.length + 1) rest
      match skipBlanks rest with
      | ':' :: rest =>
        let (v, rest) ← takeValue fuel rest
        let entry := (Value.text (String.ofList key), v)
        match skipBlanks rest with
        | ',' :: rest =>
          let (entries, rest) ← takeMembers fuel rest
          some (entry :: entries, rest)
        | '\x7d' :: rest => some ([entry], rest)
        | _ => none
      | _ => none
    | _ => none

end

/-- The value that a JSON text stands for. -/
def read (s : String) : Option Value :=
  match takeValue (s.length + 1) s.toList with
  | some (v, rest) => if (skipBlanks rest).isEmpty then some v else none
  | none => none

end QueryTelemetry.Json
