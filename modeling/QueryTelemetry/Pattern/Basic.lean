import QueryTelemetry.Assoc
import QueryTelemetry.Text.Blank
import QueryTelemetry.Text.Capital
import QueryTelemetry.Text.Word

/-!
# Patterns

A pattern describes pieces of text. Every part of it says how it compares letters: whether their
case counts, and whether only the letters of ASCII have two cases. `Pattern.ways` gives every
way in which a pattern can match from a place in a text, the preferred way first: the first
alternative before the second, more repetitions before fewer where a repetition is greedy. It is
defined by recursion on the pattern; the rounds of a repetition are bounded by the characters that
are left, because a further round is tried only after one that passed some text. A group keeps the
text of its last round; once it starts again that text counts only where it ended at the new start,
which only a condition on the group inside of itself can see.
-/

namespace QueryTelemetry

open Text (LetterCase)

/-- A kind of characters. -/
inductive CharKind where
  | digit
  | blank
  | word
deriving DecidableEq, Repr

/-- Whether a character is of a kind, among the characters of ASCII alone or among all. The four
separators of ASCII that are blank elsewhere are not blank among the characters of ASCII. -/
def CharKind.holds (ascii : Bool) (c : Char) : CharKind → Bool
  | .digit => if ascii then c.isDigit else Text.isDigit c
  | .blank => Text.isBlank c && (!ascii || decide (c.toNat < 28) || c == ' ')
  | .word => if ascii then c.isAlphanum || c == '_' else Text.isWord c

/-- A member of a set of characters. -/
inductive CharItem where
  | one (c : Char)
  | range (first last : Char)
  /-- The characters whose capital lies in a range. -/
  | capital (first last : Char)
  | kind (k : CharKind) (ascii negated : Bool)
deriving DecidableEq, Repr

/-- Whether a character is a member of a set that compares letters in some way. -/
def CharItem.holds (letters : LetterCase) (c : Char) : CharItem → Bool
  | .one x => letters.same x c
  | .range first last =>
    let within (x : Char) : Bool := decide (first ≤ x) && decide (x ≤ last)
    within c || (letters.forms c).any within
  | .capital first last =>
    let x := Text.firstCapital (letters.form c)
    decide (first ≤ x) && decide (x ≤ last)
  | .kind k ascii negated => k.holds ascii c != negated

/-- A set of characters: the members, or everything but the members. -/
structure CharSet where
  negated : Bool
  items : List CharItem
  letters : LetterCase
deriving DecidableEq, Repr

/-- Whether a character is in the set. -/
def CharSet.holds (set : CharSet) (c : Char) : Bool :=
  set.items.any (CharItem.holds set.letters c) != set.negated

/-- A condition on a place in a text. -/
inductive Anchor where
  | textStart
  | lineStart
  | textEnd
  /-- At the end of the text, or before a last line break. -/
  | lastLineEnd
  | lineEnd
  /-- Between a word character, of ASCII or of all, and one that is not, or, negated, anywhere else in
  a text that is not empty. -/
  | boundary (ascii negated : Bool)
deriving DecidableEq, Repr

/-- A description of pieces of text. Groups are numbered from one. -/
inductive Pattern where
  | empty
  | set (chars : CharSet)
  | anchor (a : Anchor)
  | sequence (first second : Pattern)
  | either (first second : Pattern)
  | group (number : Nat) (body : Pattern)
  /-- At least `least` and at most `most` rounds, as many as possible when greedy. -/
  | times (greedy : Bool) (least : Nat) (most : Option Nat) (body : Pattern)
  /-- The preferred match alone. -/
  | once (body : Pattern)
  /-- The text of an earlier group again, with letters compared in some way. -/
  | again (letters : LetterCase) (number : Nat)
  /-- One of two patterns, as a group took part before or did not. -/
  | given (number : Nat) (yes no : Pattern)
  /-- Whether the body matches, or, negated, does not match, from `back` characters before. -/
  | look (back : Nat) (negated : Bool) (body : Pattern)
deriving DecidableEq, Repr

namespace Pattern

/-- One character of a text. -/
def char (letters : LetterCase) (c : Char) : Pattern :=
  .set { negated := false, items := [.one c], letters }

/-- The patterns one after the other. -/
def inOrder : List Pattern → Pattern
  | [] => .empty
  | [p] => p
  | p :: rest => .sequence p (inOrder rest)

/-- The characters of a text one after the other. -/
def word (letters : LetterCase) (s : String) : Pattern := inOrder (s.toList.map (char letters))

/-- One of the patterns, the first ones preferred. -/
def oneOf : List Pattern → Pattern
  | [] => .empty
  | [p] => p
  | p :: rest => .either p (oneOf rest)

/-- Any number of rounds. -/
def many (greedy : Bool) (p : Pattern) : Pattern := .times greedy 0 none p

/-- At least one round. -/
def oneOrMore (greedy : Bool) (p : Pattern) : Pattern := .times greedy 1 none p

end Pattern

/-- The text of a group, and how many characters had been passed where it ended. -/
structure Captured where
  text : List Char
  stop : Nat
deriving DecidableEq, Repr

/-- A place in a text during a match: the characters before it, the nearest first, the characters
after it, how many were passed, and the groups that took part. -/
structure Cursor where
  before : List Char
  rest : List Char
  passed : Nat
  groups : List (Nat × Captured)
deriving DecidableEq, Repr

namespace Cursor

/-- The start of a text, after a character or at its very beginning. -/
def start (before rest : List Char) : Cursor := { before, rest, passed := 0, groups := [] }

/-- The place after the next character, when that is one of some characters. -/
def step? (wanted : Char → Bool) (s : Cursor) : Option Cursor :=
  match s.rest with
  | c :: rest =>
    if wanted c then some { s with before := c :: s.before, rest, passed := s.passed + 1 }
    else none
  | [] => none

/-- The place after the given characters, when they come next. -/
def steps? (letters : LetterCase) : List Char → Cursor → Option Cursor
  | [], s => some s
  | c :: cs, s => (s.step? fun x => letters.form c == letters.form x).bind (steps? letters cs)

/-- Whether a word starts or ends here. -/
def atBoundary (s : Cursor) (ascii : Bool) : Bool :=
  (s.before.head?.any fun c => CharKind.word.holds ascii c) !=
    (s.rest.head?.any fun c => CharKind.word.holds ascii c)

/-- Whether there is no text at all, neither before nor after the place. -/
def isAlone (s : Cursor) : Bool := s.before.isEmpty && s.rest.isEmpty

/-- Whether a condition holds here. -/
def holds (s : Cursor) : Anchor → Bool
  | .textStart => s.before.isEmpty
  | .lineStart => s.before.isEmpty || s.before.head? == some '\n'
  | .textEnd => s.rest.isEmpty
  | .lastLineEnd => s.rest.isEmpty || s.rest == ['\n']
  | .lineEnd => s.rest.isEmpty || s.rest.head? == some '\n'
  | .boundary ascii negated => !s.isAlone && s.atBoundary ascii != negated

/-- The place as a group starts there. An earlier text of the group no longer counts, unless it ended
at this place. -/
def enter (number : Nat) (s : Cursor) : Cursor :=
  match Assoc.get? s.groups number with
  | some earlier =>
    if earlier.stop < s.passed then { s with groups := Assoc.remove s.groups number } else s
  | none => s

/-- The later place `t` with the text between the two as a group. -/
def capture (number : Nat) (s t : Cursor) : Cursor :=
  let text := s.rest.take (t.passed - s.passed)
  { t with groups := Assoc.put t.groups number { text, stop := t.passed } }

/-- The text of a group, when it took part. -/
def group? (s : Cursor) (number : Nat) : Option (List Char) :=
  (Assoc.get? s.groups number).map Captured.text

/-- The text of a group, empty when the group took no part. -/
def group (s : Cursor) (number : Nat) : List Char := (s.group? number).getD []

/-- The place some characters before, when there are so many. -/
def goBack? (n : Nat) (s : Cursor) : Option Cursor :=
  if n ≤ s.before.length then
    some { s with before := s.before.drop n, rest := (s.before.take n).reverse ++ s.rest }
  else none

/-- The place again after a look around, which found the place `found` or none: the groups that were
found are kept. -/
def looked (s : Cursor) (negated : Bool) (found : Option Cursor) : Option Cursor :=
  match found with
  | some t => if negated then none else some { s with groups := t.groups }
  | none => if negated then some s else none

/-- The rounds that a repetition may add to the least ones: each but the last has to pass some of
the text that is left. -/
def spareRounds (s : Cursor) (least : Nat) (most : Option Nat) : Nat :=
  match most with
  | some m => min (m - least) (s.rest.length + 1)
  | none => s.rest.length + 1

end Cursor

/-- The places after a number of rounds of a step. -/
def afterRounds (step : Cursor → List Cursor) : Nat → Cursor → List Cursor
  | 0, s => [s]
  | rounds + 1, s => (step s).flatMap (afterRounds step rounds)

/-- The places after at most `rounds` rounds of a step, the preferred one first. A round that passes
nothing is the last one. -/
def uptoRounds (step : Cursor → List Cursor) (greedy : Bool) : Nat → Cursor → List Cursor
  | 0, s => [s]
  | rounds + 1, s =>
    let further := (step s).flatMap fun t =>
      if s.passed < t.passed then uptoRounds step greedy rounds t else [t]
    if greedy then further ++ [s] else s :: further

/-- Every place where a match from `s` can end, the preferred one first. -/
def Pattern.ways : Pattern → Cursor → List Cursor
  | .empty, s => [s]
  | .set chars, s => (s.step? chars.holds).toList
  | .anchor a, s => if s.holds a then [s] else []
  | .sequence p q, s => (p.ways s).flatMap q.ways
  | .either p q, s => p.ways s ++ q.ways s
  | .group number p, s => (p.ways (s.enter number)).map (Cursor.capture number s)
  | .times greedy least most p, s =>
    (afterRounds p.ways least s).flatMap fun t =>
      uptoRounds p.ways greedy (t.spareRounds least most) t
  | .once p, s => (p.ways s).take 1
  | .again letters number, s => ((s.group? number).bind (Cursor.steps? letters · s)).toList
  | .given number p q, s => if (s.group? number).isSome then p.ways s else q.ways s
  | .look back negated p, s =>
    (s.looked negated ((s.goBack? back).bind fun t => (p.ways t).head?)).toList

end QueryTelemetry
