import QueryTelemetry.Propagation.TraceParent
import QueryTelemetry.Text.Split

/-!
# The trace-state header

The header lists the entries of tracing systems, each a key and a value with an equals sign
between, separated by commas. A key is a name in small letters, or a name of a tenant and one of a
system around an at sign. An entry of the wrong form, a key that comes twice, or too many entries
make the whole header void.
-/

namespace QueryTelemetry.Propagation.TraceState

/-- The name of the header. -/
def headerName : String := "tracestate"

/-- A header of this length is read; a longer one is not. -/
def longest : Nat := 8192

/-- The most entries that a header may have. -/
def mostEntries : Nat := 32

/-- Whether a character is a small letter. -/
def isSmall (c : Char) : Bool := decide ('a' ≤ c) && decide (c ≤ 'z')

/-- Whether a character can stand inside a key. -/
def inKey (c : Char) : Bool :=
  isSmall c || c.isDigit || c == '_' || c == '-' || c == '*' || c == '/'

/-- Whether characters are a name: one that can begin it, and at most `more` others. -/
def isName (first : Char → Bool) (more : Nat) : List Char → Bool
  | c :: cs => first c && cs.all inKey && decide (cs.length ≤ more)
  | [] => false

/-- Whether characters are a key. -/
def isKey (cs : List Char) : Bool :=
  let tenant := cs.takeWhile (· != '@')
  match cs.dropWhile (· != '@') with
  | _ :: system => isName (fun c => isSmall c || c.isDigit) 240 tenant && isName isSmall 13 system
  | [] => isName isSmall 255 tenant

/-- Whether a character can stand in a value. -/
def inValue (c : Char) : Bool :=
  decide (32 ≤ c.toNat) && decide (c.toNat ≤ 126) && c != ',' && c != '='

/-- Whether characters are a value: at least one, at most 256, and no blank at the end. -/
def isValue (cs : List Char) : Bool :=
  cs.all inValue && decide (cs.length ≤ 256) && (cs.getLast?).any (· != ' ')

/-- The characters of an entry without the blanks around it. -/
def trimmed (cs : List Char) : List Char :=
  ((cs.dropWhile TraceParent.isSpace).reverse.dropWhile TraceParent.isSpace).reverse

/-- The key and the value of an entry. -/
def entry? (cs : List Char) : Option (String × String) :=
  let key := cs.takeWhile (· != '=')
  match cs.dropWhile (· != '=') with
  | _ :: value =>
    if isKey key && isValue value then some (String.ofList key, String.ofList value) else none
  | [] => none

/-- The entries of a header after those of `earlier`; nothing when one cannot be used. -/
def entries? (earlier : List (String × String)) : List (List Char) →
    Option (List (String × String))
  | [] => some earlier
  | cs :: rest =>
    if cs.isEmpty then entries? earlier rest
    else do
      let e ← entry? cs
      if Assoc.has earlier e.1 then none else entries? (earlier ++ [e]) rest

/-- The parts of a header's value between commas. -/
def partsOf : Value → Except Fault (List String)
  | .text s => .ok (Text.splitAt "," s)
  | .bytes _ => .error (.ofType "a bytes-like object is required, not 'str'")
  | v => .error (.absent v.kind "split")

/-- The entries of the values of a header after those of `earlier`; nothing as soon as one cannot be
used, whatever the values after it. -/
def readFrom (earlier : List (String × String)) : List Value →
    Except Fault (Option (List (String × String)))
  | [] => .ok (some earlier)
  | v :: rest => do
    let parts ← partsOf v
    match entries? earlier (parts.map fun s => trimmed s.toList) with
    | some entries => readFrom entries rest
    | none => .ok none

/-- The length of the values of a header, with a comma between two of them. -/
def lengthAll (headers : List Value) : Except Fault Nat := do
  let lengths ← headers.mapM lengthOf
  .ok (lengths.foldl (· + ·) (lengths.length - 1))

/-- The entries of the values of a header. Their lengths are taken first. -/
def read (headers : List Value) : Except Fault (List (String × String)) := do
  let length ← lengthAll headers
  if longest < length then .ok []
  else
    match ← readFrom [] headers with
    | some entries => .ok (if mostEntries < entries.length then [] else entries)
    | none => .ok []

/-- The header of some entries. -/
def write (entries : List (String × String)) : String :=
  String.intercalate "," (entries.map fun e => e.1 ++ "=" ++ e.2)

end QueryTelemetry.Propagation.TraceState
