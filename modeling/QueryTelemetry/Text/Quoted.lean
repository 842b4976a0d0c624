import QueryTelemetry.Text.Digit
import QueryTelemetry.Text.Printable

/-!
# Quoted text

A text inside a larger description is quoted: single quotes, or double quotes when the text holds
a single quote and no double one. Inside, the quote and the backslash are escaped, the three
common controls have a letter escape, and every other character that is not printable is written
by its code. Bytes are quoted the same way, with everything outside ASCII written by its code.
-/

namespace QueryTelemetry.Text

/-- The quote for a text: single, unless the text holds a single quote and no double one. -/
def quoteFor (cs : List Char) : Char :=
  if cs.contains '\'' && !cs.contains '"' then '"' else '\''

/-- The escape of a character by its code: two, four or eight hexadecimal digits. -/
def codeEscape (n : Nat) : List Char :=
  if n < 256 then '\\' :: 'x' :: (hex 2 n).toList
  else if n < 65536 then '\\' :: 'u' :: (hex 4 n).toList
  else '\\' :: 'U' :: (hex 8 n).toList

/-- One character as it stands between the quotes `q`, when `shown` characters stand for themselves. -/
def quoteChar (shown : Char → Bool) (q c : Char) : List Char :=
  if c == q || c == '\\' then ['\\', c]
  else if c == '\n' then ['\\', 'n']
  else if c == '\r' then ['\\', 'r']
  else if c == '\t' then ['\\', 't']
  else if shown c then [c]
  else codeEscape c.toNat

/-- A text in quotes. -/
def quote (s : String) : String :=
  let q := quoteFor s.toList
  String.ofList (q :: s.toList.flatMap (quoteChar isPrintable q) ++ [q])

/-- Whether a byte is shown as the ASCII character it encodes. -/
def isPlainAscii (c : Char) : Bool := decide (32 ≤ c.toNat) && decide (c.toNat < 127)

/-- Bytes in quotes, marked with a leading `b`. -/
def quoteBytes (bytes : List UInt8) : String :=
  let cs := bytes.map fun b => Char.ofNat b.toNat
  let q := quoteFor cs
  String.ofList ('b' :: q :: cs.flatMap (quoteChar isPlainAscii q) ++ [q])

end QueryTelemetry.Text
