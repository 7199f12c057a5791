/-!
# Trees of Python source

Only what an outline can ask for is kept: names, bases, targets and the shape of assigned values.
Everything else an expression can be is `other`, and every compound statement is the list of its
statements in the order in which they are visited.
-/

namespace ShapeSearch.Source

inductive Expr where
  | name (id : String)
  | attribute (value : Expr) (attr : String)
  | subscript (value : Expr)
  | call (func : Expr)
  | text (s : String)
  | tuple (items : List Expr)
  | list (items : List Expr)
  | starred (value : Expr)
  | mapping (keys : List Expr)
  | function
  | other

mutual
/-- Whether values can be unpacked into the expression. -/
def Expr.isTarget : Expr → Bool
  | .name _ => true
  | .attribute _ _ => true
  | .subscript _ => true
  | .tuple items => areTargets items
  | .list items => areTargets items
  | .starred value => value.isTarget
  | _ => false

def areTargets : List Expr → Bool
  | [] => true
  | e :: r => e.isTarget && areTargets r
end

def Expr.isSingleTarget : Expr → Bool
  | .name _ => true
  | .attribute _ _ => true
  | .subscript _ => true
  | _ => false

mutual
def Expr.isDeletable : Expr → Bool
  | .name _ => true
  | .attribute _ _ => true
  | .subscript _ => true
  | .tuple items => areDeletable items
  | .list items => areDeletable items
  | _ => false

def areDeletable : List Expr → Bool
  | [] => true
  | e :: r => e.isDeletable && areDeletable r
end

def Expr.isStarred : Expr → Bool
  | .starred _ => true
  | _ => false

inductive Stmt where
  | classDef (name : String) (bases : List Expr) (body : List Stmt)
  | functionDef (name : String) (decorators : List Expr) (body : List Stmt)
  | assign (targets : List Expr) (value : Expr)
  | annotated (target : Expr) (value : Option Expr)
  | augmented (target : Expr)
  | compound (children : List Stmt)
  | simple

def Stmt.children : Stmt → List Stmt
  | .classDef _ _ body => body
  | .functionDef _ _ body => body
  | .compound children => children
  | _ => []

mutual
def Stmt.depth : Stmt → Nat
  | .classDef _ _ body => depthOf body + 1
  | .functionDef _ _ body => depthOf body + 1
  | .compound children => depthOf children + 1
  | _ => 1

def depthOf : List Stmt → Nat
  | [] => 0
  | s :: r => max s.depth (depthOf r)
end

/-- The statements of a forest level by level, each level in order, for `n` levels. -/
def levels : Nat → List Stmt → List Stmt
  | 0, _ => []
  | n + 1, level => level ++ levels n (level.flatMap Stmt.children)

def Stmt.visit (s : Stmt) : List Stmt :=
  levels s.depth [s]

end ShapeSearch.Source
