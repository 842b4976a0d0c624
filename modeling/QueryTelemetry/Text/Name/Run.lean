import QueryTelemetry.Text.Name.Frequent

/-!
# Names written in runs

The names of characters with consecutive codes are written one after another. A name begins with a
mark that says how many words it shares with the start of the name before it; its own words follow,
and at the end there can be a mark for the number of words that it shares with the end of the name
before it. A full stop in the place of its own words stands for the next word in counting. A mark of
its own stands for a character without a name. Words are in capitals; small letters stand for
frequent ones.
-/

namespace QueryTelemetry.Text.Name

/-- The names of characters with consecutive codes, as they are written. -/
structure Run where
  /-- The code of the first character. -/
  first : Nat
  /-- The written names, broken anywhere into lines. -/
  lines : List String

/-- The marks at the start of a name, by the number of words shared with the name before it. -/
def leadMarks : List Char := ['!', '#', '$', '%', '&', '(', ')', '*', '+', ',']

/-- The mark of a character without a name. -/
def noName : Char := '~'

/-- The marks at the end of a name, by the number of words shared with the name before it, from one
word on. -/
def trailMarks : List Char := [':', ';', '<', '=', '>', '?', '@']

/-- Names in written form cut at the marks that begin them: each mark, and what follows it. -/
def cut (cs : List Char) : List (Char × List Char) :=
  (cs.foldr (fun c (pending, entries) =>
    if c == noName || leadMarks.contains c then ([], (c, pending) :: entries)
    else (c :: pending, entries)) ([], [])).2

/-- The place of a small letter in the alphabet. -/
def letterPlace (c : Char) : Nat := c.toNat - 97

/-- The word that small letters stand for: one letter, or two. -/
def frequentWord (c : Char) (next : Option Char) : String :=
  match next with
  | none => (oneLetterWords[letterPlace c]?).getD ""
  | some d =>
    (twoLetterWords[26 * (letterPlace c - oneLetterWords.length) + letterPlace d]?).getD ""

/-- A word in capitals, given in reverse, if there is one. -/
def spelled (reversed : List Char) : List String :=
  if reversed.isEmpty then [] else [String.ofList reversed.reverse]

/-- The words of a written text, after the letters of a word in capitals that were seen last. -/
def wordsOf (seen : List Char) : List Char → List String
  | [] => spelled seen
  | [c] => if c.isLower then spelled seen ++ [frequentWord c none] else spelled (c :: seen)
  | c :: d :: rest =>
    if c == ' ' then spelled seen ++ wordsOf [] (d :: rest)
    else if !c.isLower then wordsOf (c :: seen) (d :: rest)
    else if letterPlace c < oneLetterWords.length then
      spelled seen ++ frequentWord c none :: wordsOf [] (d :: rest)
    else spelled seen ++ frequentWord c (some d) :: wordsOf [] rest

/-- The next word in counting: the next number after the same letters, with as many digits at least,
or the next letter. -/
def nextWord (word : String) : String :=
  let reversed := word.toList.reverse
  let digits := (reversed.takeWhile Char.isDigit).reverse
  let stem := (reversed.dropWhile Char.isDigit).reverse
  if digits.isEmpty then String.ofList (stem.map fun c => Char.ofNat (c.toNat + 1))
  else
    let next := (toString (digits.foldl (fun n c => 10 * n + (c.toNat - 48)) 0 + 1)).toList
    String.ofList (stem ++ List.replicate (digits.length - next.length) '0' ++ next)

/-- The name after another one, given by the number of words that it shares with the start of that
one and what is written of it. -/
def nameAfter (last : List String) (lead : Nat) (written : List Char) : List String :=
  let trail := (written.getLast?.bind fun c => (trailMarks.idxOf? c).map (· + 1)).getD 0
  let own := if trail = 0 then written else written.dropLast
  let words := if own = ['.'] then ((last[lead]?).map nextWord).toList else wordsOf [] own
  last.take lead ++ words ++ last.drop (last.length - trail)

/-- The names of written entries, after another name. -/
def namesAfter (last : List String) : List (Char × List Char) → List (Option (List String))
  | [] => []
  | (mark, written) :: rest =>
    match leadMarks.idxOf? mark with
    | some lead =>
      let name := nameAfter last lead written
      some name :: namesAfter name rest
    | none => none :: namesAfter last rest

namespace Run

/-- The names of a run, in the order of the codes. -/
def names (r : Run) : List (Option (List String)) := namesAfter [] (cut (String.join r.lines).toList)

/-- The code of a name among those of a run. -/
def code? (r : Run) (name : List String) : Option Nat :=
  (r.names.idxOf? (some name)).map (r.first + ·)

end Run

end QueryTelemetry.Text.Name
