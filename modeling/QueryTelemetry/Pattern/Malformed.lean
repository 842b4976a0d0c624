import QueryTelemetry.Text.Numeral
import QueryTelemetry.Text.Quoted

/-!
# Texts that are no patterns

A text that describes no pattern, or no replacement for the matches of a pattern, is refused with
the cause and, in most cases, the place of it.
-/

namespace QueryTelemetry

/-- What is wrong with the flags of a group. -/
inductive FlagFault where
  | locale
  | incompatible
  | globalOn
  | kindOff
  | globalOff
  | onAndOff
deriving DecidableEq, Repr

/-- Why a text describes no pattern or no replacement. -/
inductive Malformed.Cause where
  | lonelyBackslash
  | unknownEscape (written : String)
  | shortEscape (written : String)
  | largeOctal (written : String)
  | unknownCharacter (name : String)
  | missing (what : String)
  | openName (closing : Char)
  | badName (name : String)
  | unknownName (name : String)
  | takenName (name : String) (number earlier : Nat)
  /-- A replacement names a group that the pattern has not. -/
  | absentName (name : String)
  | noGroup (number : Nat)
  | groupZero
  | openGroup
  | groupInsideLook
  | openSet
  | badRange (first last : String)
  | nothingToRepeat
  | repeatedTwice
  | reversedCounts
  | largeCount
  /-- A count has more digits than a whole number may have. -/
  | longCount (digits : Nat)
  | endOfText
  | unknownExtension (written : String)
  | openBracket
  | openComment
  | closedTwice
  | manyBranches
  | lateFlags
  | unknownFlag
  | flags (f : FlagFault)
  | flagsClash
  | variableLook
  | farLook
  /-- A repetition, by its name, where the flags admit none. -/
  | repetition (name : String)
deriving DecidableEq, Repr

/-- A text that describes no pattern or no replacement: why, and at which character. -/
structure Malformed where
  cause : Malformed.Cause
  position : Option Nat
deriving DecidableEq, Repr

namespace Malformed

/-- What is wrong with flags, in words. -/
def flagText : FlagFault → String
  | .locale => "cannot use 'L' flag with a str pattern"
  | .incompatible => "flags 'a', 'u' and 'L' are incompatible"
  | .globalOn => "cannot turn on global flag"
  | .kindOff => "cannot turn off flags 'a', 'u' and 'L'"
  | .globalOff => "cannot turn off global flag"
  | .onAndOff => "flag turned on and off"

/-- A cause in words. -/
def Cause.text : Cause → String
  | .lonelyBackslash => "bad escape (end of pattern)"
  | .unknownEscape written => "bad escape " ++ written
  | .shortEscape written => "incomplete escape " ++ written
  | .largeOctal written => "octal escape value " ++ written ++ " outside of range 0-0o377"
  | .unknownCharacter name => "undefined character name " ++ Text.quote name
  | .missing what => "missing " ++ what
  | .openName closing => "missing " ++ closing.toString ++ ", unterminated name"
  | .badName name => "bad character in group name " ++ Text.quote name
  | .unknownName name | .absentName name => "unknown group name " ++ Text.quote name
  | .takenName name number earlier =>
    "redefinition of group name " ++ Text.quote name ++ " as group " ++ toString number ++
      "; was group " ++ toString earlier
  | .noGroup number => "invalid group reference " ++ toString number
  | .groupZero => "bad group number"
  | .openGroup => "cannot refer to an open group"
  | .groupInsideLook => "cannot refer to group defined in the same lookbehind subpattern"
  | .openSet => "unterminated character set"
  | .badRange first last => "bad character range " ++ first ++ "-" ++ last
  | .nothingToRepeat => "nothing to repeat"
  | .repeatedTwice => "multiple repeat"
  | .reversedCounts => "min repeat greater than max repeat"
  | .largeCount => "the repetition number is too large"
  | .longCount digits => Text.tooLongText digits
  | .endOfText => "unexpected end of pattern"
  | .unknownExtension written => "unknown extension ?" ++ written
  | .openBracket => "missing ), unterminated subpattern"
  | .openComment => "missing ), unterminated comment"
  | .closedTwice => "unbalanced parenthesis"
  | .manyBranches => "conditional backref with more than two branches"
  | .lateFlags => "global flags not at the start of the expression"
  | .unknownFlag => "unknown flag"
  | .flags f => "bad inline flags: " ++ flagText f
  | .flagsClash => "ASCII and UNICODE flags are incompatible"
  | .variableLook => "look-behind requires fixed-width pattern"
  | .farLook => "looks too much behind"
  | .repetition name => "internal: unsupported template operator " ++ name

/-- A place in a text; in one of several lines also by line and column, both from one. -/
def placeText (source : List Char) (position : Nat) : String :=
  let before := source.take position
  let column := (before.reverse.takeWhile (· != '\n')).length + 1
  let lines :=
    if source.contains '\n' then
      " (line " ++ toString (before.count '\n' + 1) ++ ", column " ++ toString column ++ ")"
    else ""
  " at position " ++ toString position ++ lines

/-- What is wrong with a text, in words. -/
def message (m : Malformed) (source : String) : String :=
  m.cause.text ++ (m.position.map (placeText source.toList)).getD ""

end Malformed

end QueryTelemetry
