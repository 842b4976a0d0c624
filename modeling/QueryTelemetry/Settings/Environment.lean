import QueryTelemetry.Fault
import QueryTelemetry.Text.Case
import QueryTelemetry.Text.Numeral
import QueryTelemetry.Text.Split

/-!
# Settings from the environment

A reader looks up variables whose names begin with a common lead, as texts or as whole numbers,
fractions, truth values and lists. A variable that is not set reads as nothing; one that is set to
a text of the wrong form is an error that names the variable and shows the text.
-/

namespace QueryTelemetry.Settings

/-- A reader of environment variables: their values, and the lead of their names. -/
structure Environment where
  entries : List (String × String)
  lead : String

namespace Environment

/-- The lead of a reader that is given none. -/
def defaultLead : String := "GQLEXT"

/-- The full name of a variable. -/
def fullName (env : Environment) (name : String) : String :=
  if env.lead.isEmpty then name else env.lead ++ "_" ++ name

/-- The text of a variable. -/
def get? (env : Environment) (name : String) : Option String :=
  env.entries.lookup (env.fullName name)

/-- The text of a variable that must be set. -/
def getRequired (env : Environment) (name : String) : Except Fault String :=
  match env.get? name with
  | some s => .ok s
  | none => .error (.missingSetting (env.fullName name))

/-- The error of a variable set to a text of the wrong form. -/
def invalid (env : Environment) (name text expected : String) (cause : Option Fault) : Fault :=
  let key := env.fullName name
  .invalidSetting s!"Invalid {expected} value for {key}" key (.text text) expected cause

/-- The fault of a text that is no whole number. -/
def wholeFault (text : String) : Text.NumeralError → Fault
  | .malformed =>
    .ofValue ("invalid literal for int() with base 10: " ++
      String.ofList ((Text.quote text).toList.take 200))
  | .tooLong digits =>
    .ofValue (Text.tooLongText digits)

/-- The fault of a text that is no fraction. -/
def fractionFault (text : String) : Fault :=
  .ofValue ("could not convert string to float: " ++ Text.quote text)

/-- The whole number of a variable. -/
def int? (env : Environment) (name : String) : Except Fault (Option Int) :=
  match env.get? name with
  | none => .ok none
  | some text =>
    match Text.readInt text with
    | .ok n => .ok (some n)
    | .error e => .error (env.invalid name text "integer" (some (wholeFault (Text.trim text) e)))

/-- The fraction of a variable. -/
def float? (env : Environment) (name : String) : Except Fault (Option Float) :=
  match env.get? name with
  | none => .ok none
  | some text =>
    match Text.readFloat text with
    | some x => .ok (some x)
    | none => .error (env.invalid name text "float" (some (fractionFault (Text.trim text))))

/-- The words for true. -/
def trueWords : List String := ["1", "true", "yes", "on"]

/-- The words for false. -/
def falseWords : List String := ["0", "false", "no", "off"]

/-- The truth value that a text names, whatever its case and the blanks around it. -/
def truth? (text : String) : Option Bool :=
  let word := Text.lower (Text.trim text)
  if trueWords.contains word then some true
  else if falseWords.contains word then some false
  else none

/-- The error of a variable that names no truth value. -/
def invalidTruth (env : Environment) (name text : String) : Fault :=
  let key := env.fullName name
  .invalidSetting s!"Invalid boolean value for {key}" key (.text text)
    "boolean (1/0, true/false, yes/no, on/off)" none

/-- The truth value of a variable. -/
def bool? (env : Environment) (name : String) : Except Fault (Option Bool) :=
  match env.get? name with
  | none => .ok none
  | some text =>
    match truth? text with
    | some b => .ok (some b)
    | none => .error (env.invalidTruth name text)

/-- The items of a variable between separators, without the blanks around them. -/
def list? (env : Environment) (name separator : String) : Except Fault (Option (List String)) :=
  match env.get? name with
  | none => .ok none
  | some text =>
    if Text.isBlankText text then .ok (some [])
    else if separator.isEmpty then .error (.ofValue "empty separator")
    else .ok (some ((Text.splitAt separator text).map Text.trim))

end Environment

end QueryTelemetry.Settings
