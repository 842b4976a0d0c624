import QueryTelemetry.Pattern.Reader
import QueryTelemetry.Pattern.Replace

/-!
# The written form of replacements

In a replacement the backslash gives groups, by number or, in angle brackets after `g`, by number
or name; it also gives the codes of characters and control characters. Before a plain sign it means
itself.
-/

namespace QueryTelemetry

namespace Reading

/-- A group of the pattern; the text that asks for it began `length` characters before. -/
def groupPiece (known : ReadPattern) (number length : Nat) : Reading Piece :=
  if known.groups < number then failBack length (.noGroup number) else return .group number

/-- A group by its name or number, after the letter for it. -/
def namedPiece (known : ReadPattern) : Reading Piece := do
  if !(← accept '<') then failBack 0 (.missing "<")
  let name ← takeName '>' "group name"
  if Text.isIdentifier name then
    match known.names.lookup name with
    | some number => groupPiece known number (name.length + 1)
    | none => throw { cause := .absentName name, position := none }
  else groupPiece known (← groupNumber name) (name.length + 1)

/-- A code as a piece of a replacement. -/
def codePiece (n : Nat) : Piece := .plain (Char.ofNat n).toString

/-- An escape that starts with a digit other than zero: an octal code of three digits, or a
group. -/
def digitPiece (known : ReadPattern) (c : Char) : Reading Piece := do
  let second ← takeWhile Char.isDigit 1
  let digits := c :: second.toList
  let third ←
    if second.isEmpty || !digits.all isOctal then pure "" else takeWhile isOctal 1
  if third.isEmpty then
    groupPiece known (Text.ofDigits (digits.map fun d => d.toNat - 48)) digits.length
  else
    let code := ofOctal (digits ++ third.toList)
    if code ≤ 255 then return codePiece code
    else failBack 4 (.largeOctal (String.ofList ('\\' :: digits) ++ third))

/-- What an escape in a replacement means. -/
def escapePiece (known : ReadPattern) (c : Char) : Reading Piece := do
  if c = 'g' then namedPiece known
  else if c = '0' then return codePiece (ofOctal (← takeWhile isOctal 2).toList % 256)
  else if c.isDigit then digitPiece known c
  else
    match if c = 'b' then some (Char.ofNat 8) else if c = '\\' then some c else control? c with
    | some d => return .plain d.toString
    | none =>
      if c.isAlpha then failBack 2 (.unknownEscape (Sign.escaped c).text)
      else return .plain (Sign.escaped c).text

/-- The pieces of a replacement, single characters each by itself. -/
def pieces (known : ReadPattern) : Nat → Reading Replacement
  | 0 => return []
  | fuel + 1 => do
    match ← take with
    | none => return []
    | some (.plain c) => return .plain c.toString :: (← pieces known fuel)
    | some (.escaped c) =>
      let piece ← escapePiece known c
      return piece :: (← pieces known fuel)

end Reading

/-- The replacement that a text describes, for the matches of a pattern. -/
def Replacement.ofText (known : ReadPattern) (s : String) : Except Malformed Replacement :=
  (Reading.pieces known (s.length + 1)).run s

end QueryTelemetry
