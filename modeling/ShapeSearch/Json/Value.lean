import ShapeSearch.Fields
import ShapeSearch.Number

/-!
# Structured values

Configuration, stored records and parser answers are structured values: texts, numbers, truth
values, lists and tables in order of insertion.
-/

namespace ShapeSearch

inductive Json where
  | null
  | bool (b : Bool)
  | num (n : Number)
  | str (s : String)
  | arr (items : List Json)
  | obj (fields : List (String × Json))

namespace Json

/-- How far values are followed from some place. -/
structure Limits where
  /-- how deep lists and tables may stand in one another where they are read -/
  depth : Nat
  /-- how many digits a whole number may have -/
  digits : Nat
  /-- how many steps are made inside one another where a value is copied or shown -/
  steps : Nat

def Limits.usual : Limits := ⟨988, 4300, 993⟩

instance : Inhabited Json := ⟨.null⟩

def ofInt (n : Int) : Json := .num (.int n)

def ofNat (n : Nat) : Json := .num (.int n)

def ofTexts (xs : List String) : Json := .arr (xs.map .str)

def ofText? : Option String → Json
  | some s => .str s
  | none => .null

/-- Whether a value counts as true: not null, false, zero or empty. -/
def isTruthy : Json → Bool
  | .null => false
  | .bool b => b
  | .num n => n.isNonzero
  | .str s => s ≠ ""
  | .arr xs => !xs.isEmpty
  | .obj fs => !fs.isEmpty

def field? (v : Json) (k : String) : Option Json :=
  match v with
  | .obj fs => Fields.get? fs k
  | _ => none

/-- The number that a value stands for; truth values stand for one and zero. -/
def numeric? : Json → Option Number
  | .num n => some n
  | .bool b => some (.int (if b then 1 else 0))
  | _ => none

/-- The number that a value is; truth values are none. -/
def number? : Json → Option Number
  | .num n => some n
  | _ => none

def text? : Json → Option String
  | .str s => some s
  | _ => none

def fields? : Json → Option (Fields Json)
  | .obj fs => some fs
  | _ => none

def items? : Json → Option (List Json)
  | .arr xs => some xs
  | _ => none

mutual
/-- The value with the fields of every table in order of their names. -/
def sorted : Json → Json
  | .arr xs => .arr (sortedItems xs)
  | .obj fs => .obj ((sortedFields fs).mergeSort fun a b => a.1 ≤ b.1)
  | v => v

def sortedItems : List Json → List Json
  | [] => []
  | x :: r => sorted x :: sortedItems r

def sortedFields : List (String × Json) → List (String × Json)
  | [] => []
  | (k, x) :: r => (k, sorted x) :: sortedFields r
end

mutual
/-- Same value: numbers by value, truth values as one and zero, tables whatever the order of their
fields. -/
def same : Json → Json → Bool
  | .null, .null => true
  | .bool a, .bool b => a == b
  | .bool a, .num n => n.eq (.int (if a then 1 else 0))
  | .num n, .bool b => n.eq (.int (if b then 1 else 0))
  | .num a, .num b => a.eq b
  | .str a, .str b => a == b
  | .arr xs, .arr ys => sameItems xs ys
  | .obj fs, .obj gs => fs.length == gs.length && sameFields fs gs
  | _, _ => false

def sameItems : List Json → List Json → Bool
  | [], [] => true
  | x :: xs, y :: ys => same x y && sameItems xs ys
  | _, _ => false

/-- Every field of the first table has the same value in the second. -/
def sameFields : List (String × Json) → List (String × Json) → Bool
  | [], _ => true
  | (k, x) :: r, gs =>
    match Fields.get? gs k with
    | some y => same x y && sameFields r gs
    | none => false
end

end Json

end ShapeSearch
