/-!
# Splitting a text at a separator

`splitAt` cuts a text at every place where the separator comes, read from the left.
-/

namespace QueryTelemetry.Text

/-- The pieces of a text, after the characters `piece` of the first one (the nearest first) and with
`skip` characters of a separator still to pass. -/
def splitFrom (separator piece : List Char) : Nat → List Char → List (List Char)
  | _, [] => [piece.reverse]
  | skip + 1, _ :: rest => splitFrom separator piece skip rest
  | 0, c :: rest =>
    if separator.isPrefixOf (c :: rest) then
      piece.reverse :: splitFrom separator [] (separator.length - 1) rest
    else splitFrom separator (c :: piece) 0 rest

/-- The pieces of a text between the places where a separator comes, which must not be empty. -/
def splitAt (separator s : String) : List String :=
  (splitFrom separator.toList [] 0 s.toList).map String.ofList

end QueryTelemetry.Text
