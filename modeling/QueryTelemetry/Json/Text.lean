import QueryTelemetry.Text.Digit

/-!
# JSON string literals

A literal is written in ASCII alone: the quote, the backslash and five controls have short
escapes, and every other character outside the printable ASCII range is written as one UTF-16
unit or as a pair of them.
-/

namespace QueryTelemetry.Json

/-- The escape of one UTF-16 unit. -/
def unitEscape (n : Nat) : List Char :=
  ['\\', 'u', Text.hexDigit (n / 4096), Text.hexDigit (n / 256), Text.hexDigit (n / 16),
    Text.hexDigit n]

/-- One character inside a literal. -/
def escapeChar (c : Char) : List Char :=
  if c == '"' then ['\\', '"']
  else if c == '\\' then ['\\', '\\']
  else if c == '\n' then ['\\', 'n']
  else if c == '\r' then ['\\', 'r']
  else if c == '\t' then ['\\', 't']
  else if c.toNat = 12 then ['\\', 'f']
  else if c.toNat = 8 then ['\\', 'b']
  else if 32 ≤ c.toNat ∧ c.toNat < 127 then [c]
  else if c.toNat < 65536 then unitEscape c.toNat
  else
    unitEscape (55296 + (c.toNat - 65536) / 1024) ++ unitEscape (56320 + (c.toNat - 65536) % 1024)

/-- The characters of a literal, with its quotes. -/
def literalChars (cs : List Char) : List Char := '"' :: cs.flatMap escapeChar ++ ['"']

/-- A text as a JSON literal. -/
def literal (s : String) : String := String.ofList (literalChars s.toList)

end QueryTelemetry.Json
