import ShapeSearch.Misfit
import ShapeSearch.Rounding

/-!
# Numbers as weights, scores and settings hold them

A number is a whole number of any size or a binary floating-point number.  The two kinds print
differently (`12` and `12.0`) and are added differently, so both are kept.

A whole number meets a float as the nearest float; one that is too large for that does not fit.

Order and equality go through the exact value (`Number.exact`): every finite number is
`mantissa · 2 ^ exponent`, so `lt` never rounds, also between the two kinds.
-/

namespace ShapeSearch

inductive Number where
  | int (n : Int)
  | float (x : Float)

namespace Number

instance : Inhabited Number := ⟨.int 0⟩

/-- The number line with its two ends, and the value that is not on it. -/
inductive Exact where
  | finite (mantissa : Int) (exponent : Int)
  | negInf
  | posInf
  | undefined
deriving DecidableEq

/-- The fields of a float: sign bit, biased exponent and fraction. -/
def floatFields (x : Float) : Bool × Nat × Nat :=
  let bits := x.toBits.toNat
  (bits / Nat.pow 2 63 == 1, bits / Nat.pow 2 52 % 2048, bits % Nat.pow 2 52)

def exactFloat (x : Float) : Exact :=
  match floatFields x with
  | (neg, 2047, 0) => if neg then .negInf else .posInf
  | (_, 2047, _) => .undefined
  | (neg, 0, f) => .finite (if neg then -(f : Int) else f) (-1074)
  | (neg, e, f) =>
    let m : Int := f + 4503599627370496
    .finite (if neg then -m else m) ((e : Int) - 1075)

def exact : Number → Exact
  | .int n => .finite n 0
  | .float x => exactFloat x

/-- Comparison of `m₁ · 2 ^ e₁` with `m₂ · 2 ^ e₂`, brought to the smaller exponent. -/
def compareScaled (m₁ e₁ m₂ e₂ : Int) : Ordering :=
  let e := min e₁ e₂
  compare (m₁ * Nat.pow 2 (e₁ - e).toNat) (m₂ * Nat.pow 2 (e₂ - e).toNat)

/-- Comparison of exact values; nothing compares with `undefined`. -/
def Exact.compare? : Exact → Exact → Option Ordering
  | .undefined, _ => none
  | _, .undefined => none
  | .finite m₁ e₁, .finite m₂ e₂ => some (compareScaled m₁ e₁ m₂ e₂)
  | .negInf, .negInf => some .eq
  | .posInf, .posInf => some .eq
  | .negInf, _ => some .lt
  | _, .negInf => some .gt
  | .posInf, _ => some .gt
  | _, .posInf => some .lt

def isDefined (a : Number) : Bool :=
  a.exact != .undefined

def isFinite (a : Number) : Bool :=
  match a.exact with
  | .finite _ _ => true
  | _ => false

/-- Strictly below, false as soon as one side is undefined. -/
def lt (a b : Number) : Bool :=
  a.exact.compare? b.exact == some .lt

/-- At most, false as soon as one side is undefined. -/
def le (a b : Number) : Bool :=
  match a.exact.compare? b.exact with
  | some .lt => true
  | some .eq => true
  | _ => false

def eq (a b : Number) : Bool :=
  a.exact.compare? b.exact == some .eq

def isNonzero (a : Number) : Bool :=
  !a.eq (.int 0)

/-- The whole numbers from here on are beyond all floats. -/
def floatLimit : Nat := Nat.pow 2 1024 - Nat.pow 2 970

def toFloat : Number → Except Misfit Float
  | .int n => if n.natAbs < floatLimit then .ok (Rounding.ofInt n) else .error .tooLarge
  | .float x => .ok x

/-- An operation on floats, whose operands are read from the left. -/
def onFloats (f : Float → Float → Float) (a b : Number) : Except Misfit Number := do
  let x ← a.toFloat
  let y ← b.toFloat
  .ok (.float (f x y))

/-- Sum; whole numbers add exactly, otherwise floats are added. -/
def add : Number → Number → Except Misfit Number
  | .int a, .int b => .ok (.int (a + b))
  | a, b => onFloats Float.add a b

/-- Product, with the rule of `add`. -/
def mul : Number → Number → Except Misfit Number
  | .int a, .int b => .ok (.int (a * b))
  | a, b => onFloats Float.mul a b

/-- Difference, with the rule of `add`. -/
def sub : Number → Number → Except Misfit Number
  | .int a, .int b => .ok (.int (a - b))
  | a, b => onFloats Float.sub a b

/-- The float nearest to the quotient of a number and a positive one. -/
def quotient (a : Number) (den : Nat) : Except Misfit Float :=
  match a with
  | .int n =>
    if n.natAbs < floatLimit * den then .ok (Rounding.nearestFloat (decide (n < 0)) n.natAbs den)
    else .error .tooLarge
  | .float x => .ok (x / Rounding.ofInt den)

def abs : Number → Number
  | .int n => .int n.natAbs
  | .float x => .float x.abs

def neg : Number → Number
  | .int n => .int (-n)
  | .float x => .float (-x)

instance : OfNat Number n := ⟨.int n⟩

/-- The larger of two numbers, the first if they are equal or cannot be compared. -/
def maxFirst (a b : Number) : Number :=
  if a.lt b then b else a

def sumFrom : Number → List Number → Except Misfit Number
  | total, [] => .ok total
  | total, x :: r => do sumFrom (← total.add x) r

def sum (xs : List Number) : Except Misfit Number :=
  sumFrom (.int 0) xs

/-- The whole part, dropping the fraction; `none` off the finite line. -/
def truncate? (a : Number) : Option Int :=
  match a.exact with
  | .finite m e =>
    if 0 ≤ e then some (m * Nat.pow 2 e.toNat) else some (m.tdiv (Nat.pow 2 (-e).toNat))
  | _ => none

end Number

end ShapeSearch
