import QueryTelemetry.Decimal.Rounding
import QueryTelemetry.Text.Blank
import QueryTelemetry.Text.Digit

/-!
# Reading numerals

A numeral may have blanks around it, a sign, digits of any script, and single underscores between
two digits. A whole number of more than `digitLimit` digits is refused, whatever follows the
digits. A fraction may have a point and an exponent, or be one of the words for infinity and for
not a number.
-/

namespace QueryTelemetry.Text

/-- The most digits that a whole number may have when it is read or written as text. -/
def digitLimit : Nat := 4300

/-- Why a text is no whole number. -/
inductive NumeralError where
  | malformed
  | tooLong (digits : Nat)
deriving DecidableEq, Repr

/-- Why a whole number with so many digits cannot be read, in words. -/
def tooLongText (digits : Nat) : String :=
  s!"Exceeds the limit ({digitLimit} digits) for integer string conversion: value has {digits} digits; use sys.set_int_max_str_digits() to increase the limit"

/-- The digits at the front of a text and what follows them; after a digit, a single underscore is
skipped when another digit comes next. -/
def takeDigits (afterDigit : Bool) : List Char → List Nat × List Char
  | [] => ([], [])
  | c :: rest =>
    match digitValue? c with
    | some d =>
      let r := takeDigits true rest
      (d :: r.1, r.2)
    | none =>
      if afterDigit && c == '_' && (rest.head?.bind digitValue?).isSome then takeDigits false rest
      else ([], c :: rest)

/-- The number written by a list of digits. -/
def ofDigits (digits : List Nat) : Nat := digits.foldl (fun n d => 10 * n + d) 0

/-- A sign at the front of a text, and the rest. -/
def takeSign : List Char → Bool × List Char
  | '-' :: rest => (true, rest)
  | '+' :: rest => (false, rest)
  | cs => (false, cs)

/-- The whole number that a text stands for. -/
def readInt (s : String) : Except NumeralError Int :=
  let (negative, body) := takeSign (trimChars s.toList)
  let (digits, rest) := takeDigits false body
  if digits.isEmpty || rest.head? == some '_' then .error .malformed
  else if digitLimit < digits.length then .error (.tooLong digits.length)
  else if !rest.isEmpty then .error .malformed
  else .ok (if negative then -(ofDigits digits : Int) else ofDigits digits)

/-- The exponent part of a fraction: absent, or a mark, a sign and digits. -/
def takeExponent : List Char → Option (Int × List Char)
  | c :: rest =>
    if c == 'e' || c == 'E' then
      let (negative, body) := takeSign rest
      let (digits, after) := takeDigits false body
      if digits.isEmpty then none
      else some (if negative then -(ofDigits digits : Int) else ofDigits digits, after)
    else some (0, c :: rest)
  | [] => some (0, [])

/-- The words for what is not a finite number, in small letters. -/
def notFinite? (word : List Char) : Option Float :=
  let small := String.ofList (word.map Char.toLower)
  if small == "inf" || small == "infinity" then some (1.0 / 0.0)
  else if small == "nan" then some (0.0 / 0.0)
  else none

/-- The fraction that a text stands for. -/
def readFloat (s : String) : Option Float :=
  let (negative, body) := takeSign (trimChars s.toList)
  match notFinite? body with
  | some x => some (if negative then -x else x)
  | none =>
    let (whole, afterWhole) := takeDigits false body
    let (part, afterPart) :=
      match afterWhole with
      | '.' :: rest => takeDigits false rest
      | rest => ([], rest)
    if whole.isEmpty && part.isEmpty then none
    else
      match takeExponent afterPart with
      | some (e, []) =>
        some (Decimal.ofDecimal negative (ofDigits (whole ++ part)) (e - part.length))
      | _ => none

end QueryTelemetry.Text
