import QueryTelemetry.Decimal.Shortest

/-!
# Reading, rounding and cutting decimals

`ofDecimal` is the binary64 number nearest to a decimal. `roundTo` rounds a number to a count of
places on its exact value, a half going to the even neighbour. `truncate` cuts a number to the
whole number toward zero.
-/

namespace QueryTelemetry.Decimal

/-- The quotient of two numbers, rounded to the nearest whole number, a half to the even one. -/
def roundDiv (num den : Nat) : Nat :=
  let q := num / den
  let r := num % den
  if 2 * r < den then q
  else if den < 2 * r then q + 1
  else if q % 2 = 0 then q else q + 1

/-- The number nearest to `± digits · 10 ^ exponent`. Far outside the range of binary64 the answer
is zero or infinity whatever the digits. -/
def ofDecimal (negative : Bool) (digits : Nat) (exponent : Int) : Float :=
  let leading : Int := (Nat.toDigits 10 digits).length + exponent
  let x : Float :=
    if digits = 0 then 0.0
    else if 400 < leading then 1.0 / 0.0
    else if leading < -400 then 0.0
    else if 0 ≤ exponent then Float.ofScientific (digits * tenTo exponent.toNat) false 0
    else Float.ofScientific digits true (-exponent).toNat
  if negative then -x else x

/-- A finite number rounded to `places` decimal places. -/
def roundTo (places : Nat) (x : Float) : Float :=
  if x.isNaN || x.isInf then x
  else
    let (m, q) := decode x
    let num := m * twoTo q.toNat * tenTo places
    let den := twoTo (-q).toNat
    ofDecimal (isNegative x) (roundDiv num den) (-(places : Int))

/-- Why a number has no whole part. -/
inductive NotFinite where
  | infinity
  | nan
deriving DecidableEq, Repr

/-- The whole number of a number, cut toward zero. -/
def truncate (x : Float) : Except NotFinite Int :=
  if x.isNaN then .error .nan
  else if x.isInf then .error .infinity
  else
    let (m, q) := decode x
    let whole : Nat := m * twoTo q.toNat / twoTo (-q).toNat
    .ok (if isNegative x then -(whole : Int) else whole)

end QueryTelemetry.Decimal
