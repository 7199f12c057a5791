import ShapeSearch.Decimal.Shortest

/-!
# How decimal digits are laid out

`Layout` records the decisions of a printed form: up to where digits are written positionally, and
whether a whole value keeps its `.0`.  `plain` is the form of numbers in reports and stored files,
`general` the six-digit form of scores in messages, `places` the form with a fixed number of
decimals.
-/

namespace ShapeSearch.Decimal

structure Layout where
  /-- the least exponent written positionally -/
  leastPositional : Int
  /-- the least exponent above that which is written with a mark again -/
  positionalBelow : Int
  /-- whether a whole value keeps `.0` -/
  keepPoint : Bool

/-- All digits that are needed, positional from `1e-4` to below `1e16`, with `.0`. -/
def plainLayout : Layout := ⟨-4, 16, true⟩

/-- Six significant digits, positional from `1e-4` to below `1e6`, without `.0`. -/
def generalLayout : Layout := ⟨-4, 6, false⟩

def digitText (ds : List Nat) : String :=
  String.ofList (ds.map digitChar)

def exponentText (e : Int) : String :=
  let n := natText e.natAbs
  (if e < 0 then "e-" else "e+") ++ (if n.length < 2 then "0" ++ n else n)

def Layout.text (l : Layout) (d : Digits) : String :=
  let e := d.point - 1
  if e < l.leastPositional || l.positionalBelow ≤ e then
    match d.digits with
    | [] => "0"
    | [a] => digitText [a] ++ exponentText e
    | a :: r => digitText [a] ++ "." ++ digitText r ++ exponentText e
  else if d.point ≤ 0 then
    "0." ++ digitText (List.replicate (-d.point).toNat 0 ++ d.digits)
  else
    let k := d.point.toNat
    if d.digits.length ≤ k then
      digitText (d.digits ++ List.replicate (k - d.digits.length) 0) ++
        (if l.keepPoint then ".0" else "")
    else digitText (d.digits.take k) ++ "." ++ digitText (d.digits.drop k)

def Layout.zero (l : Layout) : String :=
  if l.keepPoint then "0.0" else "0"

/-- Whether the next float below `x` is half as far as the next above. -/
def narrowBelow (x : Float) : Bool :=
  let (_, e, f) := Number.floatFields x
  f == 0 && 1 < e

/-- A float in a layout; the digits are chosen by `pick` from mantissa and exponent. -/
def floatText (l : Layout) (pick : Nat → Int → Digits) (x : Float) : String :=
  match Number.exactFloat x with
  | .undefined => "nan"
  | .posInf => "inf"
  | .negInf => "-inf"
  | .finite m q =>
    let sign := if (Number.floatFields x).1 then "-" else ""
    if m = 0 then sign ++ l.zero else sign ++ l.text (pick m.natAbs q)

def plainFloat (x : Float) : String :=
  floatText plainLayout (fun m q => shortest m q (narrowBelow x)) x

/-- A number as reports and stored values print it. -/
def plain : Number → String
  | .int n => intText n
  | .float x => plainFloat x

def general (a : Number) : Except Misfit String := do
  .ok (floatText generalLayout (significant 6) (← a.toFloat))

/-- `general` with a sign also on numbers that are not negative. -/
def generalSigned (a : Number) : Except Misfit String := do
  let s ← general a
  .ok (if s.startsWith "-" then s else "+" ++ s)

/-- The decimals of `fixed` split at the point. -/
def placesText (n : Nat) (v : Nat) : String :=
  let ds := digitsOf v
  let padded := List.replicate (n + 1 - ds.length) 0 ++ ds
  let whole := padded.take (padded.length - n)
  let part := padded.drop (padded.length - n)
  if n = 0 then digitText whole else digitText whole ++ "." ++ digitText part

def placesFloat (n : Nat) (x : Float) : String :=
  match Number.exactFloat x with
  | .undefined => "nan"
  | .posInf => "inf"
  | .negInf => "-inf"
  | .finite m q =>
    let sign := if (Number.floatFields x).1 then "-" else ""
    sign ++ placesText n (fixed n m.natAbs q)

def places (n : Nat) (a : Number) : Except Misfit String := do
  .ok (placesFloat n (← a.toFloat))

end ShapeSearch.Decimal
