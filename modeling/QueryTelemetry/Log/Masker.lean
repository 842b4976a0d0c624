import QueryTelemetry.Fault
import QueryTelemetry.Pattern.Template
import QueryTelemetry.Text.Case
import QueryTelemetry.Value.Mapping

/-!
# Masking secrets

A masker keeps credentials out of the log. Rules change texts, in order; an entry of a
map whose key names a secret loses its value altogether. Lists, sequences and maps are masked
throughout and keep their shape, and other data is left alone. Keys are compared in small letters
with the names that the masker was given.

Rules are given as texts. A pattern that cannot be read is refused when the masker is made; a
replacement that cannot be read is the fault of every text that is masked.
-/

namespace QueryTelemetry.Log

/-- What stands in the place of a secret. -/
def maskText : String := "***MASKED***"

/-- What hides credentials in texts and data. -/
structure Masker where
  enabled : Bool
  rules : List Rule
  keys : List String
  /-- The fault of the first rule whose replacement cannot be read. -/
  broken : Option Fault

/-- A text that is no pattern or no replacement, as a fault. -/
def faultOf (m : Malformed) (source : String) : Fault :=
  match m.cause with
  | .largeCount => .plain .overflow (m.message source)
  | .longCount _ | .flagsClash => .ofValue (m.message source)
  | .absentName _ => .plain .index (m.message source)
  | _ => .plain .pattern (m.message source)

/-- The rules of patterns and replacements that are given as texts, up to the first replacement that
cannot be read, and the fault of that one. -/
def readRules : List (String × String) → Except Fault (List Rule × Option Fault)
  | [] => .ok ([], none)
  | (pattern, replacement) :: rest =>
    match ReadPattern.ofText pattern with
    | .error e => .error (faultOf e pattern)
    | .ok read => do
      let (rules, broken) ← readRules rest
      match Replacement.ofText read replacement with
      | .ok r => .ok ({ pattern := read.pattern, replacement := r } :: rules, broken)
      | .error e => .ok ([], some (faultOf e replacement))

namespace Masker

/-- One character of a text, whatever its case. -/
def char (c : Char) : Pattern := .char .ignored c

/-- A word, whatever its case. -/
def word (s : String) : Pattern := .word .ignored s

/-- One of some words. -/
def anyWord (words : List String) : Pattern := .oneOf (words.map word)

/-- A set of characters, whatever their case. -/
def charSet (negated : Bool) (items : List CharItem) : Pattern :=
  .set { negated, items, letters := .ignored }

/-- Blanks of every script. -/
def blankItem : CharItem := .kind .blank false false

/-- A set of everything but the given characters and blanks. -/
def anythingBut (cs : List Char) : Pattern := charSet true (cs.map .one ++ [blankItem])

/-- One blank. -/
def blank : Pattern := charSet false [blankItem]

/-- The value of an assignment to the name of a secret. -/
def assignmentRule : Rule where
  pattern := .inOrder [.anchor (.boundary false false),
    .group 1 (anyWord ["password", "secret", "api_key", "token"]), char '=',
    .oneOrMore true (anythingBut ['&', ';'])]
  replacement := [.group 1, .plain ("=" ++ maskText)]

/-- The password in an address. -/
def addressRule : Rule where
  pattern := .inOrder [
    .group 1 (.inOrder [word "://", .oneOrMore true (anythingBut [':', '/', '@']), char ':']),
    .oneOrMore true (anythingBut ['@']), .group 2 (char '@')]
  replacement := [.group 1, .plain maskText, .group 2]

/-- The value of a secret in JSON text. -/
def memberRule : Rule where
  pattern := .inOrder [
    .group 1 (.inOrder [char '"', anyWord ["password", "secret", "token"], char '"',
      .many true blank, char ':', .many true blank, char '"']),
    .oneOrMore true (charSet true [.one '"']), .group 2 (char '"')]
  replacement := [.group 1, .plain maskText, .group 2]

/-- A bearer token. -/
def bearerRule : Rule where
  pattern := .inOrder [.group 1 (.sequence (word "Bearer") (.oneOrMore true blank)),
    .oneOrMore true (charSet false [.range 'A' 'Z', .range 'a' 'z', .range '0' '9', .one '.',
      .one '_', .one '~', .one '+', .one '/', .one '=', .one '-'])]
  replacement := [.group 1, .plain maskText]

/-- The rules of a masker that is given none. -/
def defaultRules : List Rule := [assignmentRule, addressRule, memberRule, bearerRule]

/-- The names of secrets of a masker that is given none. -/
def defaultKeys : List String :=
  ["password", "passwd", "secret", "token", "api_key", "apikey", "access_token", "refresh_token",
    "authorization", "cookie", "credentials"]

/-- A masker of the given rules and names; without any, the default ones. -/
def make (enabled : Bool) (rules : List Rule) (keys : List String) : Masker where
  enabled
  rules := if rules.isEmpty then defaultRules else rules
  keys := if keys.isEmpty then defaultKeys else keys
  broken := none

/-- A masker whose rules are given as texts. -/
def ofTexts (enabled : Bool) (texts : List (String × String)) (keys : List String) :
    Except Fault Masker := do
  let (rules, broken) ← readRules texts
  .ok { make enabled rules keys with rules := if texts.isEmpty then defaultRules else rules, broken }

/-- The masker that is used where none is given. -/
def standard : Masker := make true [] []

/-- Whether a key, given by its text, names a secret. -/
def isSecret (m : Masker) (key : String) : Bool := m.keys.contains (Text.lower key)

/-- A text with the rules applied in order, whether or not the masker is enabled or broken. -/
def applyRules (m : Masker) (s : String) : String :=
  String.ofList (m.rules.foldl (fun cs rule => rule.replaceAll cs) s.toList)

/-- A text with the rules applied, whether or not the masker is enabled. -/
def hideText (m : Masker) (s : String) : Except Fault String :=
  match m.broken with
  | some fault => .error fault
  | none => .ok (m.applyRules s)

/-- A text without its secrets. -/
def maskString (m : Masker) (s : String) : Except Fault String :=
  if m.enabled then m.hideText s else .ok s

/-- The fault of a rule that is applied to what is no text. -/
def notText (v : Value) : Fault :=
  match v with
  | .bytes _ => .ofType "cannot use a string pattern on a bytes-like object"
  | v => .ofType s!"expected string or bytes-like object, got '{v.kind}'"

/-- A text without its secrets, given as a value. An enabled masker refuses other data with its
first rule. -/
def maskTextValue (m : Masker) (v : Value) : Except Fault Value :=
  match v with
  | .text s => .text <$> m.maskString s
  | v =>
    if !m.enabled then .ok v
    else
      match m.rules, m.broken with
      | [], some fault => .error fault
      | _, _ => .error (notText v)

/-- The fault of going through a map that holds itself. -/
def endless : Fault := .plain .recursion "maximum recursion depth exceeded"

mutual

/-- A value with the rules and names applied throughout, whether or not the masker is enabled. The
keys of its maps must have a text. -/
def hide (m : Masker) : Value → Except Fault Value
  | .text s => (.text ·) <$> m.hideText s
  | .list items => (.list ·) <$> m.hideAll items
  | .tuple items => (.tuple ·) <$> m.hideAll items
  | .dict entries => (.dict ·) <$> m.hideEntries entries
  | .cyclic => .error endless
  | v => .ok v

/-- A list of values with the rules and names applied. -/
def hideAll (m : Masker) : List Value → Except Fault (List Value)
  | [] => .ok []
  | v :: rest => do
    let first ← m.hide v
    let others ← m.hideAll rest
    .ok (first :: others)

/-- The entries of a map with the rules and names applied. -/
def hideEntries (m : Masker) : List (Value × Value) → Except Fault (List (Value × Value))
  | [] => .ok []
  | (k, v) :: rest => do
    let key ← k.toText
    let item ← if m.isSecret key then .ok (.text maskText) else m.hide v
    let others ← m.hideEntries rest
    .ok ((k, item) :: others)

end

/-- A value without its secrets. -/
def maskValue (m : Masker) (v : Value) : Except Fault Value :=
  if m.enabled then m.hide v else .ok v

/-- A map without its secrets. Other data is refused by an enabled masker, and read as a map by one
that is not. -/
def maskMap (m : Masker) (v : Value) : Except Fault Value :=
  if m.enabled then
    match v with
    | .dict _ | .cyclic => m.hide v
    | v => .error (.absent v.kind "items")
  else do
    let entries ← v.toEntries
    .ok (.dict entries)

/-- Named data with the rules and names applied. -/
def hideFields (m : Masker) : Fields → Except Fault Fields
  | [] => .ok []
  | (k, v) :: rest => do
    let item ← if m.isSecret k then .ok (.text maskText) else m.hide v
    let others ← m.hideFields rest
    .ok ((k, item) :: others)

/-- Named data without its secrets. -/
def maskFields (m : Masker) (fields : Fields) : Except Fault Fields :=
  if m.enabled then m.hideFields fields else .ok fields

end Masker

end QueryTelemetry.Log
