import ShapeSearch.Command.Bytes
import ShapeSearch.Text.Letter

/-!
# Arithmetic

Expressions over whole numbers of 64 bits, with variables and assignments.  `evaluate` gives the value and
the assignments that were made on the way.
-/

namespace ShapeSearch.Command.Shell

/-- A number brought into the range of 64 bits. -/
def wrap (n : Int) : Int := Int.bmod n 18446744073709551616

def takeDigits (base : Nat) : Bytes → Nat → Nat × Bytes
  | [], n => (n, [])
  | c :: r, n =>
    match Text.hexValue? c with
    | some d => if d < base then takeDigits base r (n * base + d) else (n, c :: r)
    | none => (n, c :: r)

/-- A number as scripts write them, decimal, octal or hexadecimal, and what follows. -/
def takeNumber (s : Bytes) : Nat × Bytes :=
  match s with
  | '0' :: x :: d :: r =>
    if (x == 'x' || x == 'X') && (Text.hexValue? d).isSome then takeDigits 16 (d :: r) 0
    else takeDigits 8 s 0
  | '0' :: _ => takeDigits 8 s 0
  | _ => takeDigits 10 s 0

def largest : Int := 9223372036854775807

def smallest : Int := -9223372036854775808

def isNumberSpace (c : Char) : Bool := c == ' ' || ('\t' ≤ c && c ≤ '\r')

/-- The number in the value of a variable; blank values count as zero. -/
def valueNumber? (s : Bytes) : Option Int :=
  let t := s.dropWhile isNumberSpace
  let (negative, u) := match t with
    | '-' :: r => (true, r)
    | '+' :: r => (false, r)
    | _ => (false, t)
  if u.head?.any Char.isDigit then
    let (n, rest) := takeNumber u
    let n : Int := if negative then -n else n
    if n < smallest || largest < n then none
    else if rest.all isNumberSpace then some n
    else none
  else if s.all isNumberSpace then some 0
  else none

inductive ArithToken where
  | number (n : Int)
  | named (name : Bytes)
  | sign (text : String)
  | bad
deriving DecidableEq

/-- The signs, longer ones first. -/
def arithSigns : List String :=
  ["<<=", ">>=", "==", "!=", "<=", ">=", "<<", ">>", "&&", "||", "+=", "-=", "*=", "/=", "%=", "&=",
    "^=", "|=", "=", "<", ">", "|", "&", "!", "(", ")", "*", "/", "%", "+", "-", "~", "?", ":", "^"]

/-- The tokens of an expression; `fuel` is at least its length. -/
def arithTokensFrom : Nat → Bytes → List ArithToken
  | 0, _ => []
  | _, [] => []
  | fuel + 1, c :: r =>
    if c == ' ' || c == '\t' || c == '\n' then arithTokensFrom fuel r
    else if c.isDigit then
      let (n, rest) := takeNumber (c :: r)
      .number (if largest < (n : Int) then largest else n) :: arithTokensFrom fuel rest
    else if c.isAlpha || c == '_' then
      let isPart (d : Char) : Bool := d.isAlphanum || d == '_'
      .named ((c :: r).takeWhile isPart) :: arithTokensFrom fuel ((c :: r).dropWhile isPart)
    else
      match arithSigns.find? fun s => s.toList.isPrefixOf (c :: r) with
      | some s => .sign s :: arithTokensFrom fuel ((c :: r).drop s.length)
      | none => [.bad]

inductive ArithError where
  | expression (message : String)
  | illegalNumber (text : Bytes)

/-- An evaluation: the tokens left and the assignments made, last first. -/
structure Evaluating where
  tokens : List ArithToken
  assigned : List (Bytes × Int) := []

abbrev Arith := EStateM ArithError Evaluating

abbrev ArithScope := Bytes → Option Bytes

namespace Arith

def peek : Arith (Option ArithToken) := do pure (← get).tokens.head?

def drop : Arith Unit := modify fun e => { e with tokens := e.tokens.tail }

def atSign (s : String) : Arith Bool := do pure ((← peek) == some (.sign s))

def valueOf (scope : ArithScope) (name : Bytes) : Arith Int := do
  match (← get).assigned.find? (·.1 == name) with
  | some (_, n) => pure n
  | none =>
    match scope name with
    | none => pure 0
    | some text =>
      match valueNumber? text with
      | some n => pure n
      | none => throw (.illegalNumber text)

/-- How tight a sign with two sides binds, tightest first. -/
def precedence? : String → Option Nat
  | "*" => some 0
  | "/" => some 0
  | "%" => some 0
  | "+" => some 1
  | "-" => some 1
  | "<<" => some 2
  | ">>" => some 2
  | "<" => some 3
  | "<=" => some 3
  | ">" => some 3
  | ">=" => some 3
  | "==" => some 4
  | "!=" => some 4
  | "&" => some 5
  | "^" => some 6
  | "|" => some 7
  | _ => none

def ofBool (b : Bool) : Int := if b then 1 else 0

def bits (n : Int) : BitVec 64 := BitVec.ofInt 64 n

def combine (op : String) (a b : Int) : Arith Int :=
  match op with
  | "*" => pure (wrap (a * b))
  | "/" => if b == 0 then throw (.expression "division by zero") else pure (wrap (a.tdiv b))
  | "%" => if b == 0 then throw (.expression "division by zero") else pure (wrap (a.tmod b))
  | "+" => pure (wrap (a + b))
  | "-" => pure (wrap (a - b))
  | "<<" => pure ((bits a <<< (b % 64).toNat).toInt)
  | ">>" => pure (((bits a).sshiftRight (b % 64).toNat).toInt)
  | "<" => pure (ofBool (a < b))
  | "<=" => pure (ofBool (a ≤ b))
  | ">" => pure (ofBool (b < a))
  | ">=" => pure (ofBool (b ≤ a))
  | "==" => pure (ofBool (a == b))
  | "!=" => pure (ofBool (a != b))
  | "&" => pure ((bits a &&& bits b).toInt)
  | "^" => pure ((bits a ^^^ bits b).toInt)
  | "|" => pure ((bits a ||| bits b).toInt)
  | _ => pure b

def assignOp? : ArithToken → Option String
  | .sign "=" => some "="
  | .sign s =>
    if ["<<=", ">>=", "+=", "-=", "*=", "/=", "%=", "&=", "^=", "|="].contains s then
      some (String.ofList s.toList.dropLast)
    else none
  | _ => none

mutual

/-- An assignment, or an expression without one; `live` says that its value counts. -/
def assignment : Nat → ArithScope → Bool → Arith Int
  | 0, _, _ => throw (.expression "expecting primary")
  | fuel + 1, scope, live => do
    match (← get).tokens with
    | .named name :: op :: rest =>
      match assignOp? op with
      | none => condition fuel scope live
      | some op =>
        set ({ (← get) with tokens := rest } : Evaluating)
        let value ← assignment fuel scope live
        if live then
          let value ← if op == "=" then pure value else combine op (← valueOf scope name) value
          modify fun e => { e with assigned := (name, value) :: e.assigned }
          pure value
        else pure value
    | _ => condition fuel scope live

def condition : Nat → ArithScope → Bool → Arith Int
  | 0, _, _ => throw (.expression "expecting primary")
  | fuel + 1, scope, live => do
    let a ← disjunction fuel scope live
    if ← atSign "?" then
      drop
      let b ← assignment fuel scope (live && a != 0)
      if ← atSign ":" then
        drop
        let c ← condition fuel scope (live && a == 0)
        pure (if a != 0 then b else c)
      else throw (.expression "expecting ':'")
    else pure a

def disjunction : Nat → ArithScope → Bool → Arith Int
  | 0, _, _ => throw (.expression "expecting primary")
  | fuel + 1, scope, live => do
    let a ← conjunction fuel scope live
    if ← atSign "||" then
      drop
      let b ← disjunction fuel scope (live && a == 0)
      pure (ofBool (a != 0 || b != 0))
    else pure a

def conjunction : Nat → ArithScope → Bool → Arith Int
  | 0, _, _ => throw (.expression "expecting primary")
  | fuel + 1, scope, live => do
    let a ← primary fuel scope live
    let a ← binary fuel scope live 8 a
    if ← atSign "&&" then
      drop
      let b ← conjunction fuel scope (live && a != 0)
      pure (ofBool (a != 0 && b != 0))
    else pure a

/-- Signs with two sides that bind tighter than a bound, after a first value. -/
def binary : Nat → ArithScope → Bool → Nat → Int → Arith Int
  | 0, _, _, _, _ => throw (.expression "expecting primary")
  | fuel + 1, scope, live, bound, a => do
    match ← peek with
    | some (.sign s) =>
      match precedence? s with
      | some p =>
        if p < bound then
          drop
          let b ← primary fuel scope live
          let b ← binary fuel scope live p b
          let a ← if live then combine s a b else pure b
          binary fuel scope live bound a
        else pure a
      | none => pure a
    | _ => pure a

def primary : Nat → ArithScope → Bool → Arith Int
  | 0, _, _ => throw (.expression "expecting primary")
  | fuel + 1, scope, live => do
    match ← peek with
    | some (.number n) =>
      drop
      pure n
    | some (.named name) =>
      drop
      if live then valueOf scope name else pure 0
    | some (.sign "(") =>
      drop
      let a ← assignment fuel scope live
      if ← atSign ")" then
        drop
        pure a
      else throw (.expression "expecting ')'")
    | some (.sign "+") =>
      drop
      primary fuel scope live
    | some (.sign "-") =>
      drop
      pure (wrap (-(← primary fuel scope live)))
    | some (.sign "!") =>
      drop
      pure (ofBool ((← primary fuel scope live) == 0))
    | some (.sign "~") =>
      drop
      pure (-(← primary fuel scope live) - 1)
    | _ => throw (.expression "expecting primary")

end

end Arith

def evaluate (scope : ArithScope) (text : Bytes) : Except ArithError (Int × List (Bytes × Int)) :=
  let tokens := arithTokensFrom text.length text
  match Arith.assignment (8 * tokens.length + 8) scope true { tokens } with
  | .ok n e =>
    if e.tokens.isEmpty then .ok (n, e.assigned.reverse) else .error (.expression "expecting EOF")
  | .error e _ => .error e

end ShapeSearch.Command.Shell
