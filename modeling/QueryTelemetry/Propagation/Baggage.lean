import QueryTelemetry.Propagation.TraceState
import QueryTelemetry.Text.Blank
import QueryTelemetry.Text.Percent

/-!
# The baggage header

The header lists named data, separated by commas. Names and values are percent-coded; a value may
be followed by properties, which stay with it. An entry of the wrong form is skipped. Limits bound
the length of an entry, the number of entries and their total length, in both directions.
-/

namespace QueryTelemetry.Propagation.Baggage

/-- The name of the header. -/
def headerName : String := "baggage"

/-- The most bytes that a header may have. -/
def mostBytes : Nat := 8192

/-- The most characters that an entry may have. -/
def longestEntry : Nat := 4096

/-- The most entries that a header may have. -/
def mostEntries : Nat := 180

/-- Whether an entry can be taken at all: it is not empty, in ASCII, and not too long. -/
def isPlain (entry : List Char) : Bool :=
  !entry.isEmpty && entry.all (fun c => decide (c.toNat < 128)) &&
    decide (entry.length ≤ longestEntry)

/-- The entries within the limits, after `count` entries of `total` characters. -/
def withinFrom (count total : Nat) : List (List Char) → List (List Char)
  | [] => []
  | e :: rest =>
    if isPlain e then
      let length := total + e.length + (if count = 0 then 0 else 1)
      if count < mostEntries ∧ length ≤ mostBytes then e :: withinFrom (count + 1) length rest
      else []
    else withinFrom count total rest

/-- The entries within the limits. -/
def within (entries : List (List Char)) : List (List Char) := withinFrom 0 0 entries

/-- The visible characters that cannot stand in a name. -/
def nameBreakers : List Char :=
  ['"', '(', ')', ',', '/', ':', ';', '<', '=', '>', '?', '@', '[', '\\', ']', '\x7b', '\x7d']

/-- The visible characters that cannot stand in a value. -/
def valueBreakers : List Char := ['"', ',', ';', '\\']

/-- Whether a character can stand in a name. -/
def inName (c : Char) : Bool :=
  let n := c.toNat
  decide (33 ≤ n) && decide (n ≤ 126) &&
    !nameBreakers.contains c

/-- Whether a character can stand in a value. -/
def inValue (c : Char) : Bool :=
  let n := c.toNat
  decide (33 ≤ n) && decide (n ≤ 126) && !valueBreakers.contains c

/-- Whether characters are a name. -/
def isName (cs : List Char) : Bool := !cs.isEmpty && cs.all inName

/-- The characters before and after the first place of a mark. -/
def cut (mark : Char) (cs : List Char) : List Char × Option (List Char) :=
  match cs.dropWhile (· != mark) with
  | _ :: rest => (cs.takeWhile (· != mark), some rest)
  | [] => (cs, none)

/-- Whether characters are a property: a name, or a name and a value. -/
def isProperty (cs : List Char) : Bool :=
  match cut '=' cs with
  | (name, none) => isName (TraceState.trimmed name)
  | (name, some value) =>
    isName (TraceState.trimmed name) && (TraceState.trimmed value).all inValue

/-- The pieces of a text between the places of a mark. -/
def pieces (mark : Char) (cs : List Char) : List (List Char) :=
  Text.splitFrom [mark] [] 0 cs

/-- Pieces without the blanks next to the marks between them. -/
def trimAtMarks (first : List Char) : List (List Char) → List (List Char)
  | [] => [first]
  | next :: rest =>
    (first.reverse.dropWhile TraceParent.isSpace).reverse ::
      trimAtMarks (next.dropWhile TraceParent.isSpace) rest

/-- The entries of a header, without the blanks next to the commas between them. -/
def entriesOf (header : List Char) : List (List Char) :=
  match pieces ',' header with
  | first :: rest => trimAtMarks first rest
  | [] => []

/-- Whether characters are a value with its properties. -/
def isValue (cs : List Char) : Bool :=
  match pieces ';' cs with
  | value :: properties =>
    ((value.reverse.dropWhile TraceParent.isSpace).reverse).all inValue &&
      properties.all isProperty
  | [] => true

/-- The text that coded characters stand for. -/
def plainText (cs : List Char) : String :=
  String.ofList (Text.trimChars (Text.percentDecode cs))

/-- The name and the value of an entry. -/
def entry? (cs : List Char) : Option (String × String) :=
  match cut '=' cs with
  | (_, none) => none
  | (name, some value) =>
    let name := TraceState.trimmed name
    let value := TraceState.trimmed value
    if isName name && isValue value then some (plainText name, plainText value) else none

/-- The named data of a header; a later entry takes the place of an earlier one of its name. -/
def read (header : String) : List (String × String) :=
  if mostBytes < (Text.encodeUtf8 header.toList).length then []
  else (within (entriesOf header.toList)).filterMap entry?

/-- One entry as written. Its value must have a text. -/
def writeEntry (e : String × Value) : Except Fault (List Char) := do
  let value ← e.2.toText
  .ok (Text.percentEncode e.1 ++ "=" ++ Text.percentEncode value).toList

/-- The header of named data; nothing when no entry is left. -/
def write (baggage : Fields) : Except Fault (Option String) := do
  let entries ← baggage.mapM writeEntry
  match within entries with
  | [] => .ok none
  | kept => .ok (some (String.intercalate "," (kept.map String.ofList)))

end QueryTelemetry.Propagation.Baggage
