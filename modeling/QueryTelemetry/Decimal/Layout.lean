import QueryTelemetry.Decimal.Shortest

/-!
# How numbers are written

A number is written with the fewest digits that read back as the same number: in positions while
its leading digit stands at `10 ^ -4` to `10 ^ 15`, always with a point, and otherwise with an
exponent of at least two digits and a sign.
-/

namespace QueryTelemetry.Decimal

/-- The format of a number: where positions end on both sides and the words for what is not finite. -/
structure Layout where
  lowest : Int
  highest : Int
  infinity : String
  nan : String

/-- The layout of plain text: positions from `10 ^ -4` to `10 ^ 15`. -/
def plain : Layout := { lowest := -4, highest := 15, infinity := "inf", nan := "nan" }

/-- The digits of an exponent, at least two of them. -/
def exponentDigits (n : Nat) : String :=
  if n < 10 then "0" ++ toString n else toString n

/-- A positive decimal in positions or with an exponent. -/
def Layout.scientific (f : Layout) (s : Scientific) : String :=
  let cs := Nat.toDigits 10 s.digits
  let leading : Int := s.exponent + cs.length - 1
  if f.lowest ≤ leading ∧ leading ≤ f.highest then
    if 0 ≤ s.exponent then
      String.ofList (cs ++ List.replicate s.exponent.toNat '0') ++ ".0"
    else if 0 ≤ leading then
      String.ofList (cs.take (leading.toNat + 1)) ++ "." ++ String.ofList (cs.drop (leading.toNat + 1))
    else
      "0." ++ String.ofList (List.replicate (-leading - 1).toNat '0' ++ cs)
  else
    let fraction := if cs.length = 1 then "" else "." ++ String.ofList (cs.drop 1)
    let sign := if leading < 0 then "-" else "+"
    String.ofList (cs.take 1) ++ fraction ++ "e" ++ sign ++ exponentDigits leading.natAbs

/-- A number in the layout. -/
def Layout.render (f : Layout) (x : Float) : String :=
  if x.isNaN then f.nan
  else
    let sign := if isNegative x then "-" else ""
    if x.isInf then sign ++ f.infinity
    else if (decode x).1 = 0 then sign ++ "0.0"
    else sign ++ f.scientific (shortest (decode x).1 (decode x).2)

end QueryTelemetry.Decimal
