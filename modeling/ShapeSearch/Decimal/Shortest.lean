import ShapeSearch.Number

/-!
# Decimal digits of a binary number

`digitsOf` writes a natural number in base ten.  A positive number `m · 2 ^ q` is given decimal
digits in three ways:

* `shortest`: the fewest digits that read back as the same float, and of those the nearest;
* `significant n`: exactly `n` digits, rounded to nearest;
* `fixed n`: the digits of the multiple of `10 ^ (-n)` nearest to the number.

A tie always goes to the even neighbour.  All arithmetic is exact on natural numbers.
-/

namespace ShapeSearch.Decimal

open Rounding

/-- Digits `0.d₁d₂… · 10 ^ point`. -/
structure Digits where
  digits : List Nat
  point : Int
deriving DecidableEq

/-- The base-ten digits of `n`, least first, at most `fuel` of them. -/
def reversedDigits : Nat → Nat → List Nat
  | 0, _ => []
  | fuel + 1, n => if n = 0 then [] else n % 10 :: reversedDigits fuel (n / 10)

def digitsOf (n : Nat) : List Nat :=
  (reversedDigits (n.log2 + 1) n).reverse

def digitChar (d : Nat) : Char :=
  Char.ofNat (48 + d)

def natText (n : Nat) : String :=
  if n = 0 then "0" else String.ofList ((digitsOf n).map digitChar)

def intText : Int → String
  | .ofNat n => natText n
  | .negSucc n => "-" ++ natText (n + 1)

/-- `m · 2 ^ q · 10 ^ p` as a fraction of natural numbers. -/
def ratio (m : Nat) (q p : Int) : Nat × Nat :=
  (m * Nat.pow 2 q.toNat * Nat.pow 10 p.toNat, Nat.pow 2 (-q).toNat * Nat.pow 10 (-p).toNat)

/-- The least `k` with `m · 2 ^ q < 10 ^ k`, for `m > 0`: an estimate from the binary length, then
corrected by at most a few steps. -/
def pointOf (m : Nat) (q : Int) : Int :=
  let estimate : Int := Int.fdiv (((m.log2 : Int) + q) * 30103) 100000 - 1
  let below (k : Int) : Bool :=
    let (n, d) := ratio m q (-k)
    n < d
  let rec up : Nat → Int → Int
    | 0, k => k
    | fuel + 1, k => if below k then k else up fuel (k + 1)
  up 6 estimate

def dropTrailingZeros (ds : List Nat) : List Nat :=
  (ds.reverse.dropWhile (· == 0)).reverse

/-- The digits of `d · 10 ^ e`, without zeros at the end. -/
def ofScaled (d : Nat) (e : Int) : Digits :=
  let ds := digitsOf d
  ⟨dropTrailingZeros ds, e + ds.length⟩

/-- One attempt of `shortest` with `n` digits: the two neighbours on the grid that read back. -/
def shortestWith (m : Nat) (q : Int) (narrowBelow : Bool) (k : Int) (n : Nat) : Option Digits :=
  let e := k - n
  -- the number and the ends of its interval, in quarters of `2 ^ q`, over the grid unit `10 ^ e`
  let (v, den) := ratio (4 * m) (q - 2) (-e)
  let (hi, _) := ratio (4 * m + 2) (q - 2) (-e)
  let (lo, _) := ratio (if narrowBelow then 4 * m - 1 else 4 * m - 2) (q - 2) (-e)
  let closed := m % 2 == 0
  let d := v / den
  let inside (x : Nat) : Bool :=
    if closed then lo ≤ x * den && x * den ≤ hi else lo < x * den && x * den < hi
  match inside d, inside (d + 1) with
  | true, true => some (ofScaled (roundDiv v den) e)
  | true, false => some (ofScaled d e)
  | false, true => some (ofScaled (d + 1) e)
  | false, false => none

/-- The fewest digits that read back as the float `m · 2 ^ q`; `narrowBelow` says that the next
float below is half as far as the next above. -/
def shortest (m : Nat) (q : Int) (narrowBelow : Bool) : Digits :=
  let k := pointOf m q
  let rec go : Nat → Nat → Digits
    | 0, n => (shortestWith m q narrowBelow k n).getD ⟨[], 0⟩
    | fuel + 1, n =>
      match shortestWith m q narrowBelow k n with
      | some ds => ds
      | none => go fuel (n + 1)
  go 17 1

/-- The number rounded to `n` significant digits, without zeros at the end. -/
def significant (n : Nat) (m : Nat) (q : Int) : Digits :=
  let e := pointOf m q - n
  let (num, den) := ratio m q (-e)
  ofScaled (roundDiv num den) e

/-- The multiple of `10 ^ (-n)` nearest to `m · 2 ^ q`, in that unit. -/
def fixed (n : Nat) (m : Nat) (q : Int) : Nat :=
  let (num, den) := ratio m q n
  roundDiv num den

end ShapeSearch.Decimal
