import QueryTelemetry.Text.Name.Alphabets
import QueryTelemetry.Text.Name.Ancient
import QueryTelemetry.Text.Name.Other
import QueryTelemetry.Text.Name.Pictures
import QueryTelemetry.Text.Name.Signs
import QueryTelemetry.Text.Name.Syllables
import QueryTelemetry.Text.Hexadecimal
import QueryTelemetry.Text.Ranges
import QueryTelemetry.Text.Split

/-!
# Characters by their names

Most characters have a name of their own, whose letters may be written in both cases. The names of
unified ideographs and of Hangul syllables are made by rule, from the code and from the sounds, and
are written in capitals alone; those of a few other families are made from the code too. Some
characters have further names.
-/

namespace QueryTelemetry.Text.Name

/-- The bounds of the codes of unified ideographs. -/
def ideographBounds : List Nat := [
  13312, 19904, 19968, 40960, 131072, 173792, 173824, 177977, 177984, 178206, 178208, 183970,
  183984, 191457, 196608, 201547]

/-- What the names of unified ideographs begin with. -/
def ideographLead : String := "CJK UNIFIED IDEOGRAPH-"

/-- What the names of Hangul syllables begin with. -/
def syllableLead : String := "HANGUL SYLLABLE "

/-- The families of characters, besides unified ideographs, whose names end with their codes: what
the names begin with, and the bounds of the codes. -/
def families : List (String × List Nat) := [
  ("CJK COMPATIBILITY IDEOGRAPH-", [63744, 64110, 64112, 64218, 194560, 195102]),
  ("KHITAN SMALL SCRIPT CHARACTER-", [101120, 101590]),
  ("NUSHU CHARACTER-", [110960, 111356])]

/-- The text without another one that it begins with. -/
def after? (lead : String) (s : String) : Option (List Char) :=
  if lead.isPrefixOf s then some (s.toList.drop lead.length) else none

/-- Whether a character is a hexadecimal digit in capitals. -/
def isCode (c : Char) : Bool := c.isDigit || (decide ('A' ≤ c) && decide (c ≤ 'F'))

/-- The number that hexadecimal digits in capitals write. -/
def codeOf? (digits : List Char) : Option Nat :=
  if !digits.isEmpty && digits.all isCode then some (ofHex (String.ofList digits)) else none

/-- The code of a unified ideograph, given by four or five digits. -/
def ideograph? (digits : List Char) : Option Nat := do
  let code ← codeOf? digits
  if (digits.length = 4 ∨ digits.length = 5) ∧ inRanges ideographBounds code then some code
  else none

/-- The sounds that a Hangul syllable can begin with. -/
def initials : List String :=
  ["G", "GG", "N", "D", "DD", "R", "M", "B", "BB", "S", "SS", "", "J", "JJ", "C", "K", "T", "P", "H"]

/-- The vowels of Hangul syllables. -/
def vowels : List String :=
  ["A", "AE", "YA", "YAE", "EO", "E", "YEO", "YE", "O", "WA", "WAE", "OE", "YO", "U", "WEO", "WE",
    "WI", "YU", "EU", "YI", "I"]

/-- The sounds that a Hangul syllable can end with. -/
def finals : List String :=
  ["", "G", "GG", "GS", "N", "NJ", "NH", "D", "L", "LG", "LM", "LB", "LS", "LT", "LP", "LH", "M",
    "B", "BS", "S", "SS", "NG", "J", "C", "K", "T", "P", "H"]

/-- The place of the longest of some sounds that a text begins with, and the rest of the text. -/
def takeSound (sounds : List String) (cs : List Char) : Option (Nat × List Char) :=
  let fitting := sounds.zipIdx.filter fun e => e.1.toList.isPrefixOf cs
  let longest := fitting.foldl (fun (best : Option (String × Nat)) e =>
    match best with
    | some b => if b.1.length < e.1.length then some e else some b
    | none => some e) none
  longest.map fun e => (e.2, cs.drop e.1.length)

/-- The code of a Hangul syllable, given by its sounds. -/
def syllable? (cs : List Char) : Option Nat := do
  let (i, cs) ← takeSound initials cs
  let (v, cs) ← takeSound vowels cs
  let (f, cs) ← takeSound finals cs
  if cs.isEmpty then some (44032 + (i * vowels.length + v) * finals.length + f) else none

/-- The code of a variation selector, given by the digits of its number in its short name. -/
def selector? (digits : List Char) : Option Nat :=
  let n := digits.foldl (fun n c => 10 * n + (c.toNat - 48)) 0
  if (toString n).toList ≠ digits then none
  else if 1 ≤ n ∧ n ≤ 16 then some (65023 + n)
  else if 17 ≤ n ∧ n ≤ 256 then some (917743 + n)
  else none

/-- The code of a character of one of the families, given by its name. -/
def inFamily? (name : String) : Option Nat :=
  families.findSome? fun family => do
    let digits ← after? family.1 name
    let code ← codeOf? digits
    if inRanges family.2 code ∧ digits.head? ≠ some '0' then some code else none

/-- The code of a character that has a name in capitals as a further one. -/
def other? (name : String) : Option Nat :=
  match (after? "VS" name).bind selector? with
  | some code => some code
  | none => (otherNames.find? fun e => e.2.contains name).map (·.1)

/-- The code of a character that has a name in capitals as its own. -/
def own? (name : String) : Option Nat :=
  let words := (splitAt " " name)
  (alphabets ++ signs ++ syllables ++ ancient ++ pictures).findSome? (·.code? words)

/-- The code of the character of a name. -/
def code? (name : String) : Option Nat :=
  match after? ideographLead name, after? syllableLead name with
  | some digits, _ => ideograph? digits
  | none, some sounds => syllable? sounds
  | none, none =>
    let capitals := String.ofList (name.toList.map Char.toUpper)
    ((inFamily? capitals).orElse fun _ => other? capitals).orElse fun _ => own? capitals

end QueryTelemetry.Text.Name
