/-!
# Rounding

`roundDiv` rounds a quotient to a whole number, and `nearestFloat` rounds one to a float.  A tie goes to
the even neighbour.  All arithmetic is exact on natural numbers.
-/

namespace ShapeSearch.Rounding

/-- The quotient rounded to the nearest whole number, a tie to the even one. -/
def roundDiv (num den : Nat) : Nat :=
  let d := num / den
  let r := 2 * (num % den)
  if r < den then d
  else if den < r then d + 1
  else if d % 2 = 0 then d else d + 1

def binaryPlace (num den : Nat) : Int :=
  let k : Int := (num.log2 : Int) - den.log2
  if den * Nat.pow 2 k.toNat ≤ num * Nat.pow 2 (-k).toNat then k else k - 1

/-- The power of two that the last bit of the float nearest to a quotient stands for. -/
def lastPlace (num den : Nat) : Int :=
  max (binaryPlace num den - 52) (-1074)

/-- The bits of the float nearest to a quotient.  A quotient rounded up to the next power of two carries
into the exponent. -/
def nearestBits (num den : Nat) : Nat :=
  if num = 0 then 0
  else
    let e := lastPlace num den
    let m := roundDiv (num * Nat.pow 2 (-e).toNat) (den * Nat.pow 2 e.toNat)
    min ((e + 1074).toNat * Nat.pow 2 52 + m) (2047 * Nat.pow 2 52)

/-- The float nearest to a quotient, with a sign; infinite if the quotient is beyond all floats. -/
def nearestFloat (neg : Bool) (num den : Nat) : Float :=
  Float.ofBits (UInt64.ofNat (nearestBits num den + if neg then Nat.pow 2 63 else 0))

def ofInt (n : Int) : Float :=
  nearestFloat (decide (n < 0)) n.natAbs 1

/-- The float nearest to `mantissa · 10 ^ exponent`.  As `10 ^ 10000` lies between `2 ^ 33219` and
`2 ^ 33220`, powers of two around the number tell when it is beyond all floats or rounds to zero, and
then it is not worked out. -/
def ofDecimal (mantissa : Nat) (exponent : Int) : Float :=
  let bits : Int := mantissa.log2
  let a := exponent * 33219
  let b := exponent * 33220
  if mantissa = 0 then 0.0
  else if 1024 ≤ bits + Int.fdiv (min a b) 10000 then nearestFloat false (Nat.pow 2 1024) 1
  else if bits + 2 + Int.fdiv (max a b) 10000 < -1075 then 0.0
  else nearestFloat false (mantissa * Nat.pow 10 exponent.toNat) (Nat.pow 10 (-exponent).toNat)

end ShapeSearch.Rounding
