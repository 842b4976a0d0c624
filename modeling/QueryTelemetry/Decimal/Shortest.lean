/-!
# The shortest decimal of a binary fraction

A finite binary64 number is `m · 2 ^ q`. The reals that round to it form an interval around it,
whose ends belong to it exactly when `m` is even. `shortest m q` is the decimal with the fewest
digits in that interval and, among those, the one nearest to the number. It looks at the two
neighbours of the number on the grids of one, two, … seventeen digits, in exact arithmetic; the
first grid with a neighbour inside the interval gives the digits.
-/

namespace QueryTelemetry.Decimal

/-- A power of two. -/
def twoTo (n : Nat) : Nat := Nat.pow 2 n

/-- A power of ten. -/
def tenTo (n : Nat) : Nat := Nat.pow 10 n

/-- A decimal `digits · 10 ^ exponent`. -/
structure Scientific where
  digits : Nat
  exponent : Int
deriving DecidableEq, Repr

/-- A positive binary fraction and the interval of reals that round to it, all over one
denominator. -/
structure Interval where
  value : Nat
  low : Nat
  high : Nat
  den : Nat
  closed : Bool

/-- The rounding interval of `m · 2 ^ q`. Below a power of two the lower neighbour is only half as
far away, unless the number is among the smallest. -/
def Interval.ofBinary (m : Nat) (q : Int) : Interval :=
  let near := m == twoTo 52 && q != -1074
  let scale := if 2 ≤ q then twoTo (q - 2).toNat else 1
  let den := if 2 ≤ q then 1 else twoTo (2 - q).toNat
  { value := 4 * m * scale
    low := (4 * m - if near then 1 else 2) * scale
    high := (4 * m + 2) * scale
    den := den
    closed := m % 2 == 0 }

/-- Whether the fraction `num / den` lies inside the interval. -/
def Interval.contains (i : Interval) (num den : Nat) : Bool :=
  if i.closed then decide (i.low * den ≤ num * i.den) && decide (num * i.den ≤ i.high * den)
  else decide (i.low * den < num * i.den) && decide (num * i.den < i.high * den)

/-- The exponent of ten of the leading digit of `num / den`, for a positive fraction. -/
def leadingExponent (num den : Nat) : Int :=
  if den ≤ num then ((Nat.toDigits 10 (num / den)).length : Int) - 1
  else
    let k := (Nat.toDigits 10 (den / num)).length
    if den ≤ num * tenTo (k - 1) then 1 - (k : Int) else -(k : Int)

/-- The neighbours of the number on the grid of `10 ^ unit` that lie inside its interval, the nearer
one first. -/
def Interval.onGrid (i : Interval) (unit : Int) : Option Nat :=
  let up : Nat := tenTo unit.toNat
  let down : Nat := tenTo (-unit).toNat
  let below : Nat := i.value * down / (i.den * up)
  let inside (c : Nat) := i.contains (c * up) down
  -- twice the number against the midpoint of the two neighbours
  let twice := 2 * i.value * down
  let middle := (2 * below + 1) * i.den * up
  let lower := twice < middle || (twice == middle && below % 2 == 0)
  if inside below && (lower || !inside (below + 1)) then some below
  else if inside (below + 1) then some (below + 1)
  else none

/-- A decimal without trailing zeros in its digits. -/
def Scientific.strip : Nat → Scientific → Scientific
  | 0, s => s
  | fuel + 1, s =>
    if s.digits % 10 == 0 && s.digits != 0 then
      Scientific.strip fuel { digits := s.digits / 10, exponent := s.exponent + 1 }
    else s

/-- The first of the grids of `n, n + 1, …` digits that has a neighbour of the number inside its
interval. -/
def Interval.search (i : Interval) (leading : Int) : Nat → Nat → Scientific
  | 0, _ => { digits := 0, exponent := 0 }
  | fuel + 1, n =>
    let unit : Int := leading - n + 1
    match i.onGrid unit with
    | some digits => Scientific.strip 20 { digits, exponent := unit }
    | none => i.search leading fuel (n + 1)

/-- The decimal of fewest digits that reads back as `m · 2 ^ q`. -/
def shortest (m : Nat) (q : Int) : Scientific :=
  let i := Interval.ofBinary m q
  i.search (leadingExponent i.value i.den) 17 1

/-- The significand and exponent of two of a finite number, without its sign. -/
def decode (x : Float) : Nat × Int :=
  let bits : Nat := x.toBits.toNat % twoTo 63
  let exponent : Nat := bits / twoTo 52
  let fraction : Nat := bits % twoTo 52
  if exponent == 0 then (fraction, -1074) else (twoTo 52 + fraction, (exponent : Int) - 1075)

/-- Whether the sign bit of a number is set. -/
def isNegative (x : Float) : Bool := decide (twoTo 63 ≤ x.toBits.toNat)

end QueryTelemetry.Decimal
