import ShapeSearch.Quantity
import ShapeSearch.Settings.Lookup

/-!
# Weights

Weight tables hold whatever the settings gave them.  `orZero` reads what is a number and counts anything
else as nothing; `total` adds weights up as they are given and insists on numbers.
-/

namespace ShapeSearch.Weights

/-- A number, or another one in its place; truth values are no numbers. -/
def orElse (v : Option Json) (other : Number) : Number :=
  (v.bind Json.number?).getD other

def orZero (v : Option Json) : Number :=
  orElse v (.float 0.0)

def given (ws : Fields Json) (name : String) : Json :=
  (ws.get? name).getD (.ofInt 0)

/-- A weight taken several times.  A text or a list repeats, and only adding it up will fail. -/
def times (v : Json) (n : Nat) : Except Misfit Json :=
  match v with
  | .num x => do .ok (.num (← x.mul (.int n)))
  | .bool b => .ok (.ofInt (if b then n else 0))
  | .str _ => .ok v
  | .arr _ => .ok v
  | _ => .error (.operands "*" v.kindName (Json.ofInt n).kindName)

def addAll : Number → List Json → Except Misfit Number
  | total, [] => .ok total
  | total, v :: r =>
    match v.numeric? with
    | some n => do addAll (← total.add n) r
    | none => .error (.operands "+" (Json.num total).kindName v.kindName)

def total (b : Fields Json) : Except Misfit Number :=
  addAll (.int 0) (b.map (·.2))

/-- The whole part of a number that limits a count. -/
def limit (v : Option Json) (other : Int) : Except Misfit Int :=
  Json.wholePart (.num (orElse v (.int other)))

end ShapeSearch.Weights
