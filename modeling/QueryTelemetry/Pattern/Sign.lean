import QueryTelemetry.Pattern.Basic
import QueryTelemetry.Pattern.Malformed
import QueryTelemetry.Text.Identifier
import QueryTelemetry.Text.Name
import QueryTelemetry.Text.Numeral

/-!
# The signs of a written pattern

A pattern is written in signs: single characters, and characters after a backslash. `Reading` goes
through the signs of a text and keeps what later signs depend on: the groups so far with their
names and widths, and how the signs are meant. A backslash at the very end is refused as soon as it
comes next.
-/

namespace QueryTelemetry

open Text (LetterCase)

/-- A sign of a pattern. -/
inductive Sign where
  | plain (c : Char)
  | escaped (c : Char)
deriving DecidableEq, Repr

/-- A sign as it is written. -/
def Sign.text : Sign → String
  | .plain c => c.toString
  | .escaped c => String.ofList ['\\', c]

/-- The number of characters of a sign. -/
def Sign.length : Sign → Nat
  | .plain _ => 1
  | .escaped _ => 2

/-- The first sign of a text, and the rest. -/
def Sign.ofChars? : List Char → Option (Sign × List Char)
  | '\\' :: c :: rest => some (.escaped c, rest)
  | c :: rest => some (.plain c, rest)
  | [] => none

/-- How signs are meant. -/
structure ReadMode where
  /-- The signs for the start and the end hold at every line. -/
  byLine : Bool
  /-- The sign for any character means line breaks too. -/
  anyChar : Bool
  /-- Blanks and comments may stand between the signs. -/
  spaced : Bool
  /-- Letters are the same in both cases. -/
  ignoresCase : Bool
  /-- Only the characters of ASCII have a kind and a case. -/
  ascii : Bool
deriving DecidableEq, Repr

/-- How letters are compared. -/
def ReadMode.letters (mode : ReadMode) : LetterCase :=
  if !mode.ignoresCase then .exact else if mode.ascii then .ascii else .ignored

/-- The least and the greatest number of characters of the matches of a pattern, when there is a
greatest one. -/
structure Width where
  least : Nat
  most : Option Nat
deriving DecidableEq, Repr

/-- Where the reading of a text stands. -/
structure ReadState where
  rest : List Char
  position : Nat
  mode : ReadMode
  /-- The number of groups that were opened. -/
  opened : Nat
  /-- The widths of the groups that are complete. -/
  widths : List (Nat × Width)
  names : List (String × Nat)
  /-- The number of groups that were opened before the outermost look back around this place. -/
  lookFrom : Option Nat
  /-- The groups that conditions ask for, with the places. -/
  asked : List (Nat × Nat)
  /-- The flags that were given for the whole text. -/
  flags : List Char
  /-- What will be refused when the whole text is read, with the places, the last found first. -/
  late : List (Nat × Malformed.Cause)

/-- A step of reading. -/
abbrev Reading := StateT ReadState (Except Malformed)

namespace Reading

/-- Refuse the text for what stands at a place. -/
def failAt {α : Type} (position : Nat) (cause : Malformed.Cause) : Reading α :=
  throw { cause, position := some position }

/-- Refuse the text for what began some characters before. -/
def failBack {α : Type} (length : Nat) (cause : Malformed.Cause) : Reading α := do
  failAt ((← get).position - length) cause

/-- The next sign, which is not passed. -/
def peek : Reading (Option Sign) := do
  return (Sign.ofChars? (← get).rest).map (·.1)

/-- Pass the next sign. -/
def take : Reading (Option Sign) := do
  let s ← get
  match Sign.ofChars? s.rest with
  | none => return none
  | some (sign, rest) =>
    let position := s.position + sign.length
    if rest = ['\\'] then failAt position .lonelyBackslash
    else
      set { s with rest, position }
      return some sign

/-- Pass a character when it comes next. -/
def accept (c : Char) : Reading Bool := do
  if (← peek) = some (.plain c) then
    discard take
    return true
  else return false

/-- Pass characters of a kind, at most a number of them. -/
def takeWhile (kind : Char → Bool) : Nat → Reading String
  | 0 => return ""
  | n + 1 => do
    match ← peek with
    | some (.plain c) =>
      if kind c then
        discard take
        return c.toString ++ (← takeWhile kind n)
      else return ""
    | _ => return ""

/-- The characters up to a closing one, which is passed too. -/
def nameUpto (closing : Char) (what : String) : Nat → String → Reading String
  | 0, _ => failBack 0 (.missing what)
  | fuel + 1, name => do
    match ← take with
    | none =>
      if name.isEmpty then failBack 0 (.missing what)
      else failBack name.length (.openName closing)
    | some sign =>
      if sign = .plain closing then
        if name.isEmpty then failBack 1 (.missing what) else return name
      else nameUpto closing what fuel (name ++ sign.text)

/-- A name before a closing character, which is passed too. -/
def takeName (closing : Char) (what : String) : Reading String := do
  nameUpto closing what ((← get).rest.length + 1) ""

/-- Refuse a name, just passed with its closing character, that no group can have. -/
def checkName (name : String) : Reading Unit := do
  if !Text.isIdentifier name then failBack (name.length + 1) (.badName name)

/-- The number of a group in a name that is just passed with its closing character. -/
def groupNumber (name : String) : Reading Nat := do
  match Text.readInt name with
  | .ok (.ofNat n) => return n
  | _ => failBack (name.length + 1) (.badName name)

/-- Whether a character is an octal digit. -/
def isOctal (c : Char) : Bool := decide ('0' ≤ c) && decide (c ≤ '7')

/-- The number written by octal digits. -/
def ofOctal (digits : List Char) : Nat := digits.foldl (fun n c => 8 * n + (c.toNat - 48)) 0

/-- The number written by hexadecimal digits. -/
def ofHex (digits : List Char) : Nat :=
  digits.foldl (fun n c => 16 * n + (Text.hexValue? c).getD 0) 0

/-- The code after an escape for one, of a fixed number of hexadecimal digits. -/
def hexCode (c : Char) (length : Nat) : Reading Nat := do
  let digits ← takeWhile (fun d => (Text.hexValue? d).isSome) length
  let written := String.ofList ['\\', c] ++ digits
  if digits.length < length then failBack written.length (.shortEscape written)
  else
    let code := ofHex digits.toList
    if code ≤ 1114111 then return code
    else failBack written.length (.unknownEscape written)

/-- The code of a character that is given by its name. -/
def namedCode : Reading Nat := do
  if ← accept '\x7b' then
    let name ← takeName '\x7d' "character name"
    match Text.Name.code? name with
    | some code => return code
    | none => failBack (name.length + 4) (.unknownCharacter name)
  else failBack 0 (.missing "\x7b")

/-- The control characters that have a letter escape, besides the one for a step back. -/
def control? : Char → Option Char
  | 'a' => some (Char.ofNat 7)
  | 'f' => some (Char.ofNat 12)
  | 'n' => some '\n'
  | 'r' => some '\r'
  | 't' => some '\t'
  | 'v' => some (Char.ofNat 11)
  | _ => none

/-- The code of an escape that is meant as one character, whether in a set or not. -/
def plainCode (c : Char) : Reading Nat := do
  match control? c with
  | some d => return d.toNat
  | none =>
    match c with
    | 'x' => hexCode c 2
    | 'u' => hexCode c 4
    | 'U' => hexCode c 8
    | 'N' => namedCode
    | _ => if c.isAlphanum then failBack 2 (.unknownEscape (Sign.escaped c).text) else return c.toNat

/-- The kind of characters that an escape stands for, and whether it stands for all others. -/
def kind? : Char → Option (CharKind × Bool)
  | 'd' => some (.digit, false)
  | 'D' => some (.digit, true)
  | 's' => some (.blank, false)
  | 'S' => some (.blank, true)
  | 'w' => some (.word, false)
  | 'W' => some (.word, true)
  | _ => none

/-- The start of the reading of a text, in which the last sign must not be a lone backslash. -/
def run {α : Type} (read : Reading α) (s : String) : Except Malformed α :=
  if s.toList = ['\\'] then .error { cause := .lonelyBackslash, position := some 0 }
  else
    (read.run' {
      rest := s.toList, position := 0
      mode := {
        byLine := false, anyChar := false, spaced := false, ignoresCase := true, ascii := false }
      opened := 0, widths := [], names := [], lookFrom := none, asked := [], flags := []
      late := [] })

end Reading

end QueryTelemetry
