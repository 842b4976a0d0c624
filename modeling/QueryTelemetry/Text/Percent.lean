import QueryTelemetry.Text.Digit
import QueryTelemetry.Text.Utf8

/-!
# Percent coding

A text is coded byte by byte: letters and digits of ASCII and four marks stand for themselves, a
space is written as a plus sign, and every other byte as a percent sign and two hexadecimal digits
in capitals. Reading turns plus signs back into spaces and keeps a percent sign that no two
hexadecimal digits follow.
-/

namespace QueryTelemetry.Text

/-- Whether a byte stands for itself. -/
def isUnreserved (b : Nat) : Bool :=
  let c := Char.ofNat b
  decide (b < 128) && (c.isAlphanum || c == '_' || c == '.' || c == '-' || c == '~')

/-- A byte as coded. -/
def percentByte (b : Nat) : List Char :=
  if isUnreserved b then [Char.ofNat b]
  else if b = 32 then ['+']
  else ['%', (hexDigit (b / 16)).toUpper, (hexDigit b).toUpper]

/-- A text coded. -/
def percentEncode (s : String) : String :=
  String.ofList ((encodeUtf8 s.toList).flatMap percentByte)

/-- The bytes that a coded text stands for. -/
def percentBytes : List Char → List Nat
  | [] => []
  | '%' :: a :: b :: rest =>
    match hexValue? a, hexValue? b with
    | some x, some y => (16 * x + y) :: percentBytes rest
    | _, _ => 37 :: percentBytes (a :: b :: rest)
  | c :: rest => (if c == '+' then [32] else utf8Bytes c) ++ percentBytes rest

/-- The text that a coded text stands for. -/
def percentDecode (cs : List Char) : List Char := decodeUtf8 (percentBytes cs)

end QueryTelemetry.Text
