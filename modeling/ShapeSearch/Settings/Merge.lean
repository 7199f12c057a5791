import ShapeSearch.Export

/-!
# Merging tables

`mergeFields base changes` is `base` with the leaves of `changes` put in: tables are merged name by name,
and any other value replaces what was there.  Names keep the place of their first mention.

`merge` does this on copies, which are only made of values that are not nested too deep, and its base may
also be a list of pairs.  The first item of a pair is then a name of any kind; two numbers name the same
field if they are equal.
-/

namespace ShapeSearch.Json

mutual
def mergeFields : List (String × Json) → List (String × Json) → List (String × Json)
  | base, [] => base
  | base, (k, v) :: r => mergeFields (Fields.put base k (mergeValue (Fields.get? base k) v)) r

def mergeValue : Option Json → Json → Json
  | some (.obj base), .obj changes => .obj (mergeFields base changes)
  | _, v => v
end

mutual
/-- How many steps inside one another a copy of a value takes: two for a list or a table around those of
what is in it. -/
def copySteps : Json → Nat
  | .arr xs => 2 + copyItemSteps xs
  | .obj fs => 2 + copyFieldSteps fs
  | _ => 1

def copyItemSteps : List Json → Nat
  | [] => 0
  | x :: r => max (copySteps x) (copyItemSteps r)

def copyFieldSteps : List (String × Json) → Nat
  | [] => 0
  | (_, x) :: r => max (copySteps x) (copyFieldSteps r)
end

mutual
/-- How many steps inside one another it takes to put changes into a table. -/
def mergeSteps : List (String × Json) → List (String × Json) → Nat
  | _, [] => 0
  | base, (k, v) :: r => max (mergeValueSteps (Fields.get? base k) v) (mergeSteps base r)

def mergeValueSteps : Option Json → Json → Nat
  | some (.obj base), .obj changes => 1 + mergeSteps base changes
  | _, v => copySteps v
end

/-- Merge tables with at most `limit` steps inside one another. -/
def mergeTables (limit : Nat) (base changes : Fields Json) : Except Misfit (Fields Json) :=
  if limit < copySteps (.obj base) || limit < mergeSteps base changes then .error .tooDeep
  else .ok (mergeFields base changes)

def sameName (a b : Json) : Bool :=
  same a b ||
    match a, b with
    | .num m, .num n => !m.isDefined && !n.isDefined
    | _, _ => false

def putNamed (k v : Json) : List (Json × Json) → List (Json × Json)
  | [] => [(k, v)]
  | (j, u) :: r => if sameName j k then (j, v) :: r else (j, u) :: putNamed k v r

def getNamed? (k : Json) (ps : List (Json × Json)) : Option Json :=
  (ps.find? fun p => sameName p.1 k).map (·.2)

/-- A name and a value, from a value that runs through two items; lists and tables are no names. -/
def pairOf (v : Json) : Except Misfit (Json × Json) := do
  match ← v.iterate with
  | [.arr _, _] => .error .wrongKind
  | [.obj _, _] => .error .wrongKind
  | [k, x] => .ok (k, x)
  | _ => .error .badValue

def pairsOf : List Json → Except Misfit (List (Json × Json))
  | [] => .ok []
  | v :: r => do
    let p ← pairOf v
    let rest ← pairsOf r
    .ok (p :: rest)

/-- Values by name, the last one of each. -/
def namedOf (ps : List (Json × Json)) : List (Json × Json) :=
  ps.foldl (fun out p => putNamed p.1 p.2 out) []

def mergeNamed (base : List (Json × Json)) (changes : List (String × Json)) : List (Json × Json) :=
  changes.foldl (fun out p => putNamed (.str p.1) (mergeValue (getNamed? (.str p.1) out) p.2) out) base

def tableOfPairs (ps : List (Json × Json)) : Fields Json :=
  ps.foldl (fun out p => Fields.put out p.1.display p.2) []

/-- The first value, a table or something that runs through pairs, with the second merged into it. -/
def merge (limit : Nat) (base changes : Json) : Except Misfit Json := do
  match base with
  | .obj fs =>
    match changes with
    | .obj gs => .ok (.obj (← mergeTables limit fs gs))
    | _ => .error .notATable
  | base =>
    let named := namedOf (← pairsOf (← base.iterate))
    let texts := tableOfPairs (named.filter fun p => p.1.text?.isSome)
    match changes with
    | .obj gs =>
      if limit < 2 + copyItemSteps (named.map (·.2)) || limit < mergeSteps texts gs then
        .error .tooDeep
      else .ok (.obj (tableOfPairs (mergeNamed named gs)))
    | _ => .error .notATable

end ShapeSearch.Json
