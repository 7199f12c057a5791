import ShapeSearch.Source.Token

/-!
# How deep source is nested

Source that is nested too deep cannot be read, although it follows the grammar.  Two measures are taken
from its tokens, without building a tree:

* the height of the tree, from the whole text down to the deepest part of an expression;
* the reach of a reader, which is how many rules of the grammar it has open at once.

A stack of operators that still wait for their right operand gives both: an operator that binds less
tightly closes those above it, and the height of the whole is one more than that of the parts.  Chains of
comparisons and of `and` or `or` are one node, however long.
-/

namespace ShapeSearch.Source.Nesting

structure Pending where
  /-- the height of what stands before it; zero if it is the first of its operation -/
  left : Nat := 0
  rank : Nat
  /-- what stands before it is a chain of the same operator -/
  chained : Bool := false
  /-- how many rules a reader opens for it -/
  weight : Nat := 0

/-- An operand that has been read: its height, and the rank of the chain it is, if any. -/
structure Operand where
  height : Nat := 1
  chain : Nat := 0

/-- The kinds of frames: a whole statement, a bracket that is an operand of its own, a bracket that follows
an operand of some height, and the parameters of a function without a name. -/
inductive Kind where
  | statement
  | group (mark : String)
  | trailer (left : Nat)
  | parameters
deriving DecidableEq

structure Frame where
  kind : Kind
  /-- the greatest height of the parts that are done -/
  most : Nat := 0
  pending : List Pending := []
  operand : Option Operand := none
  /-- a dot has been read whose name is still to come -/
  dot : Bool := false
  comma : Bool := false

structure State where
  /-- the open frames, innermost first -/
  frames : List Frame := [{ kind := .statement }]
  /-- how deep the open blocks are, innermost first -/
  blocks : List Nat := []
  /-- how many conditions of a chain precede -/
  chain : Nat := 0
  /-- a statement starts here -/
  start : Bool := true
  /-- the weight of all that is open -/
  weight : Nat := 0
  height : Nat := 0
  reach : Nat := 0

def isFlat (rank : Nat) : Bool :=
  rank == 1 || rank == 2 || rank == 4

def combine (p : Pending) (x : Operand) : Operand :=
  if p.chained then ⟨max p.left (x.height + 1), p.rank⟩
  else ⟨max p.left x.height + 1, if isFlat p.rank then p.rank else 0⟩

/-- Close the operators that bind more tightly than a rank, or as tightly if `same`; gives also the weight
that is closed. -/
def close (rank : Nat) (same : Bool) : List Pending → Operand → Nat → List Pending × Operand × Nat
  | [], x, w => ([], x, w)
  | p :: r, x, w =>
    if rank < p.rank || (same && p.rank == rank) then close rank same r (combine p x) (w + p.weight)
    else (p :: r, x, w)

def weightOf (ps : List Pending) : Nat :=
  ps.foldl (fun n p => n + p.weight) 0

def Kind.weight : Kind → Nat
  | .statement => 0
  | .parameters => 6
  | _ => 28

def State.setTop (s : State) (f : Frame) : State :=
  { s with frames := f :: s.frames.tail }

def State.top (s : State) : Frame :=
  s.frames.headD { kind := .statement }

def State.load (s : State) (w : Nat) : State :=
  let o := s.weight + w
  { s with weight := o, reach := max s.reach o }

/-- How deep the statement at hand is. -/
def State.depth (s : State) : Nat :=
  s.blocks.headD 0 + s.chain

/-- End the part at hand in the innermost frame. -/
def State.finish (s : State) : State :=
  let f := s.top
  let freed := weightOf f.pending
  let (_, x, _) := close 0 true f.pending (f.operand.getD ⟨0, 0⟩) 0
  let s := { s with weight := s.weight - freed }
  let s := if f.kind = .statement then { s with height := max s.height (s.depth + 2 + x.height) } else s
  s.setTop { f with pending := [], operand := none, dot := false, most := max f.most x.height }

def State.addOperand (s : State) (height : Nat) : State :=
  let f := s.top
  match f.operand with
  | some x =>
    if f.dot then s.setTop { f with operand := some ⟨x.height + 1, 0⟩, dot := false }
    else
      let s := s.finish
      s.setTop { s.top with operand := some ⟨height, 0⟩ }
  | none => s.setTop { f with operand := some ⟨height, 0⟩, dot := false }

def State.addPrefix (s : State) (rank weight : Nat) : State :=
  let f := s.top
  (s.setTop { f with pending := { rank, weight } :: f.pending }).load weight

/-- An operator between two operands; one that closes to the right waits for all that follows. -/
def State.addInfix (s : State) (rank : Nat) (right : Bool) (weight : Nat) : State :=
  let f := s.top
  match f.operand with
  | none => s
  | some x =>
    let (pending, x, freed) := close rank (!right) f.pending x 0
    let s := { s with weight := s.weight - freed }
    let p : Pending := { left := x.height, rank, chained := isFlat rank && x.chain == rank, weight }
    (s.setTop { f with pending := p :: pending, operand := none }).load weight

def State.enter (s : State) (k : Kind) : State :=
  ({ s with frames := { kind := k } :: s.frames }).load k.weight

def State.leave (s : State) : Frame × State :=
  let s := s.finish
  match s.frames with
  | f :: r => (f, { s with frames := r, weight := s.weight - f.kind.weight })
  | [] => ({ kind := .statement }, s)

def State.closeBracket (s : State) : State :=
  let (f, s) := s.leave
  let g := s.top
  match f.kind with
  | .trailer left => s.setTop { g with operand := some ⟨max left (f.most + 1) + 1, 0⟩ }
  | .group "(" =>
    s.setTop { g with operand := some ⟨if f.comma then f.most + 1 else max f.most 1, 0⟩ }
  | _ => s.setTop { g with operand := some ⟨f.most + 1, 0⟩ }

def State.openBracket (s : State) (mark : String) : State :=
  let f := s.top
  match f.operand with
  | some x => (s.setTop { f with operand := none }).enter (.trailer x.height)
  | none => s.enter (.group mark)

def rankOf (op : String) : Nat :=
  if op == "|" then 5
  else if op == "^" then 6
  else if op == "&" then 7
  else if op == "<<" || op == ">>" then 8
  else if op == "+" || op == "-" then 9
  else if op == "**" then 12
  else 10

/-- The second word of a condition between two values, or that of a statement. -/
def State.addElse (s : State) : State :=
  let f := s.top
  let (pending, x, freed) := close 0 false f.pending (f.operand.getD ⟨0, 0⟩) 0
  match pending with
  | p :: r =>
    let s := { s with weight := s.weight - freed - p.weight }
    let p : Pending := { left := max p.left x.height, rank := 0, weight := 1 }
    (s.setTop { f with pending := p :: r, operand := none }).load 1
  | [] => s.finish

def State.addWord (s : State) (w : String) : State :=
  let free := s.top.operand.isNone
  if w == "True" || w == "False" || w == "None" then s.addOperand 1
  else if w == "not" then if free then s.addPrefix 3 1 else s
  else if w == "and" then s.addInfix 2 false 0
  else if w == "or" then s.addInfix 1 false 0
  else if w == "in" || w == "is" then s.addInfix 4 false 0
  else if w == "await" then s.addPrefix 13 1
  else if w == "yield" then s.addPrefix 0 1
  else if w == "lambda" then (s.addPrefix 0 2).enter .parameters
  else if w == "if" && !free then s.addInfix 0 true 0
  else if w == "else" && !free then s.addElse
  else if w == "elif" && s.start then { s with chain := s.chain + 1 }.load 1
  else s.finish

def State.addOp (s : State) (w : String) : State :=
  let free := s.top.operand.isNone
  if w == "(" || w == "[" || w == "\x7b" then s.openBracket w
  else if w == ")" || w == "]" || w == "\x7d" then s.closeBracket
  else if w == "." then
    let f := s.top
    s.setTop { f with dot := f.operand.isSome }
  else if w == "..." then s.addOperand 1
  else if w == "," then
    let s := s.finish
    s.setTop { s.top with comma := true }
  else if w == ":" && s.top.kind = .parameters then (s.leave).2
  else if w == "~" then s.addPrefix 11 1
  else if ["==", "!=", "<=", "<", ">=", ">"].contains w then s.addInfix 4 false 0
  else if w == ":=" then s.addInfix 0 true 1
  else if ["|", "^", "&", "<<", ">>", "/", "//", "%", "*", "@"].contains w then
    s.addInfix (rankOf w) false 0
  else if w == "**" then s.addInfix 12 true 2
  else if w == "+" || w == "-" then if free then s.addPrefix 11 1 else s.addInfix 9 false 0
  else s.finish

def continues (w : String) : Bool :=
  ["elif", "else", "except", "finally"].contains w

def State.step (s : State) (t : Token) : State :=
  let s := match t with
    | .keyword w =>
      if s.start && !continues w then { s with weight := s.weight - s.chain, chain := 0 } else s
    | .indent => s
    | .dedent => s
    | _ => if s.start then { s with weight := s.weight - s.chain, chain := 0 } else s
  match t with
  | .name _ => { s.addOperand 1 with start := false }
  | .number _ => { s.addOperand 1 with start := false }
  | .text _ _ => { s.addOperand 1 with start := false }
  | .keyword w => { s.addWord w with start := false }
  | .op w => { s.addOp w with start := false }
  | .newline => { s.finish with start := true }
  | .indent => { s with blocks := (s.depth + 1) :: s.blocks, chain := 0, weight := s.weight - s.chain }
  | .dedent => { s with blocks := s.blocks.tail }

def measure (ts : List Token) : State :=
  ts.foldl State.step {}

def heightLimit : Nat := 2976

def reachLimit : Nat := 5969

end ShapeSearch.Source.Nesting
