import QueryTelemetry.Pattern.Search

/-!
# Replacing the matches of a pattern

`replaceAll` reads a text from the left. At each place it takes the preferred match, writes the
replacement for it and goes on behind it; where nothing matches it keeps the character. A match of
nothing is replaced too, but never twice at the same place.
-/

namespace QueryTelemetry

/-- A piece of a replacement: characters, or the text of a group, of which the whole match is the one
of number zero. -/
inductive Piece where
  | plain (s : String)
  | group (number : Nat)
deriving DecidableEq, Repr

/-- What is written for a match. -/
abbrev Replacement := List Piece

/-- The replacement for a match from one place to another. -/
def Replacement.expand (r : Replacement) (s t : Cursor) : List Char :=
  r.flatMap fun piece =>
    match piece with
    | .plain text => text.toList
    | .group number => (Cursor.capture 0 s t).group number

/-- A pattern and what is written for its matches. -/
structure Rule where
  pattern : Pattern
  replacement : Replacement
deriving DecidableEq, Repr

/-- The preferred match at a place, and not an empty one when the place was replaced already. -/
def Rule.match? (rule : Rule) (replaced : Bool) (before rest : List Char) : Option Cursor :=
  rule.pattern.first (.start before rest) fun s =>
    if 0 < s.passed ∨ !replaced then some s else none

/-- The text `rest`, which stands after `before`, with every match replaced. -/
def Rule.replaceFrom (rule : Rule) : Nat → Bool → List Char → List Char → List Char
  | 0, _, _, rest => rest
  | fuel + 1, replaced, before, rest =>
    match rule.match? replaced before rest with
    | some s =>
      let written := rule.replacement.expand (.start before rest) s
      if s.passed = 0 then written ++ rule.replaceFrom fuel true before rest
      else written ++ rule.replaceFrom fuel false s.before s.rest
    | none =>
      match rest with
      | c :: rest => c :: rule.replaceFrom fuel false (c :: before) rest
      | [] => []

/-- A text with every match of the rule replaced. Each step replaces at a new place or passes a
character, so twice the length of the text is enough. -/
def Rule.replaceAll (rule : Rule) (cs : List Char) : List Char :=
  rule.replaceFrom (2 * cs.length + 2) false [] cs

end QueryTelemetry
