import ShapeSearch.Json.Value
import ShapeSearch.Text.Numeral

/-!
# Quantities

What can be counted with: numbers, and truth values, which count as one and zero but keep their written
form.  `wholePart` and `asFloat` read a number from any value that stands for one: a number, a truth
value, or a text that spells a number.
-/

namespace ShapeSearch

inductive Quantity where
  | truth (b : Bool)
  | number (n : Number)

namespace Quantity

def value : Quantity → Number
  | .truth b => .int (if b then 1 else 0)
  | .number n => n

def toJson : Quantity → Json
  | .truth b => .bool b
  | .number n => .num n

def ofJson? : Json → Option Quantity
  | .bool b => some (.truth b)
  | .num n => some (.number n)
  | _ => none

def tableOf? : List (String × Json) → Option (Fields Quantity)
  | [] => some []
  | (k, v) :: r => do
    let q ← ofJson? v
    let rest ← tableOf? r
    some ((k, q) :: rest)

def tableJson (b : Fields Quantity) : Json :=
  .obj (b.map fun p => (p.1, p.2.toJson))

def sumOf (b : Fields Quantity) : Except Misfit Number :=
  Number.sum (b.map (·.2.value))

end Quantity

/-! ## Values as numbers -/

namespace Json

def wholePart : Json → Except Misfit Int
  | .num n =>
    match n.truncate? with
    | some k => .ok k
    | none => if n.isDefined then .error .tooLarge else .error .badValue
  | .bool b => .ok (if b then 1 else 0)
  | .str s =>
    match Text.readInt? s with
    | some k => .ok k
    | none => .error .badValue
  | _ => .error .wrongKind

def asFloat : Json → Except Misfit Float
  | .num n => n.toFloat
  | .bool b => .ok (if b then 1.0 else 0.0)
  | .str s =>
    match Text.readFloat? s with
    | some x => .ok x
    | none => .error .badValue
  | _ => .error .wrongKind

end Json

end ShapeSearch
