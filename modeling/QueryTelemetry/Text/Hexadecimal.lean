import QueryTelemetry.Text.Digit

/-!
# Reading hexadecimal digits

Two digits write a byte; blanks may stand before each pair and at the end. Digits in a row write a
number.
-/

namespace QueryTelemetry.Text

/-- Whether a character is an ASCII blank. -/
def isAsciiBlank (c : Char) : Bool := c == ' ' || (9 ≤ c.toNat && c.toNat ≤ 13)

/-- The bytes that pairs of digits write from a place on, or the place of the first character that
is wrong. -/
def readPairs (place : Nat) : List Char → Except Nat (List UInt8)
  | [] => .ok []
  | [a] => if isAsciiBlank a then .ok [] else .error (if (hexValue? a).isSome then place + 1 else place)
  | a :: b :: rest =>
    if isAsciiBlank a then readPairs (place + 1) (b :: rest)
    else
      match hexValue? a, hexValue? b with
      | none, _ => .error place
      | some _, none => .error (place + 1)
      | some high, some low => do
        let others ← readPairs (place + 2) rest
        .ok ((16 * high + low).toUInt8 :: others)

/-- The bytes that a text writes, or the place of the first character that is wrong. A character
that is not ASCII is wrong before any other. -/
def readBytes (s : String) : Except Nat (List UInt8) :=
  match s.toList.findIdx? fun c => 127 < c.toNat with
  | some place => .error place
  | none => readPairs 0 s.toList

/-- The number that hexadecimal digits write. -/
def ofHex (s : String) : Nat := s.toList.foldl (fun n c => 16 * n + (hexValue? c).getD 0) 0

end QueryTelemetry.Text
