import ShapeSearch.Source.Literal
import ShapeSearch.Source.Nesting
import ShapeSearch.Source.Tree

/-!
# The grammar of Python source

A parser takes tokens from the front and can fail; a failed attempt takes nothing, so choices are
tried in order.  The functions follow the rules of the grammar of version 3.11.  Operators need no
precedence here, since an outline only asks whether an expression is a bare operand.

The first argument of the recursive functions bounds the depth of calls; `parse` starts with more
than any text of that many tokens can use.
-/

namespace ShapeSearch.Source

abbrev Parser (α : Type) := StateT (List Token) Option α

namespace Parser

def peek : Parser (Option Token) := fun s => some (s.head?, s)

def fail {α : Type} : Parser α := fun _ => none

def require (b : Bool) : Parser Unit := if b then pure () else fail

def attempt {α : Type} (p : Parser α) : Parser (Option α) := fun s =>
  match p s with
  | some (a, r) => some (some a, r)
  | none => some (none, s)

def seesOp (w : String) : Parser Bool := fun s =>
  match s with
  | .op v :: _ => some (v == w, s)
  | _ => some (false, s)

def tryOp (w : String) : Parser Bool := fun s =>
  match s with
  | .op v :: r => if v == w then some (true, r) else some (false, s)
  | _ => some (false, s)

def tryOpOf (ws : List String) : Parser Bool := fun s =>
  match s with
  | .op v :: r => if ws.contains v then some (true, r) else some (false, s)
  | _ => some (false, s)

def op (w : String) : Parser Unit := do require (← tryOp w)

def seesWord (w : String) : Parser Bool := fun s =>
  match s with
  | .keyword v :: _ => some (v == w, s)
  | _ => some (false, s)

def tryWord (w : String) : Parser Bool := fun s =>
  match s with
  | .keyword v :: r => if v == w then some (true, r) else some (false, s)
  | _ => some (false, s)

def tryWordOf (ws : List String) : Parser Bool := fun s =>
  match s with
  | .keyword v :: r => if ws.contains v then some (true, r) else some (false, s)
  | _ => some (false, s)

def word (w : String) : Parser Unit := do require (← tryWord w)

def name : Parser String := fun s =>
  match s with
  | .name n :: r => some (n, r)
  | _ => none

def tryName (w : String) : Parser Bool := fun s =>
  match s with
  | .name v :: r => if v == w then some (true, r) else some (false, s)
  | _ => some (false, s)

def seesNameThen (w : String) : Parser Bool := fun s =>
  match s with
  | .name _ :: .op v :: _ => some (v == w, s)
  | _ => some (false, s)

def newline : Parser Unit := fun s =>
  match s with
  | .newline :: r => some ((), r)
  | _ => none

def indent : Parser Unit := fun s =>
  match s with
  | .indent :: r => some ((), r)
  | _ => none

def tryDedent : Parser Bool := fun s =>
  match s with
  | .dedent :: r => some (true, r)
  | _ => some (false, s)

def seesNewline : Parser Bool := fun s =>
  match s with
  | .newline :: _ => some (true, s)
  | _ => some (false, s)

/-- Items separated by commas, and whether a comma stands at the end. -/
def commaList {α : Type} (p : Parser α) : Nat → Parser (List α × Bool)
  | 0 => fail
  | n + 1 => do
    let x ← p
    if ← tryOp "," then
      match ← attempt (commaList p n) with
      | some (xs, closed) => pure (x :: xs, closed)
      | none => pure ([x], true)
    else pure ([x], false)

def openList {α : Type} (p : Parser α) : Nat → Parser (List α)
  | 0 => fail
  | n + 1 => do
    let x ← p
    if ← tryOp "," then
      let xs ← openList p n
      pure (x :: xs)
    else pure [x]

def many {α : Type} (p : Parser α) : Nat → Parser (List α)
  | 0 => pure []
  | n + 1 => do
    match ← attempt p with
    | some x =>
      let xs ← many p n
      pure (x :: xs)
    | none => pure []

def optional {α : Type} (p : Parser α) : Parser Unit := do
  let _ ← attempt p

end Parser

open ShapeSearch.Source.Parser

/-- Operators between operands that bind closer than comparisons. -/
def operandOps : List String :=
  ["|", "^", "&", "<<", ">>", "+", "-", "*", "/", "//", "%", "@", "**"]

def compareOps : List String := ["==", "!=", "<=", "<", ">=", ">"]

def augmentOps : List String :=
  ["+=", "-=", "*=", "@=", "/=", "%=", "&=", "|=", "^=", "<<=", ">>=", "**=", "//="]

/-- One item stays itself, more items or a comma at the end make a tuple. -/
def tupleOf : List Expr × Bool → Expr
  | ([e], false) => e
  | (es, _) => .tuple es

def tryCompare : Parser Bool := do
  if ← tryOpOf compareOps then pure true
  else if ← tryWord "in" then pure true
  else if ← tryWord "is" then
    let _ ← tryWord "not"
    pure true
  else
    match ← attempt (do word "not"; word "in") with
    | some _ => pure true
    | none => pure false

def isFieldBlank (c : Char) : Bool :=
  c == ' ' || c == '\t' || c == '\n' || c == '\x0c'

/-- Literals next to each other: byte and text literals do not mix, and a formatted one makes the
whole no constant. -/
structure LiteralParts where
  /-- the characters so far, last first -/
  chars : List Char := []
  bytes : Bool
  formatted : Bool := false

inductive Argument where
  | positional (e : Expr)
  | starred (e : Expr)
  | keyword
  | doubled

structure ParamState where
  /-- a parameter has been read that the slash can close -/
  some : Bool := false
  /-- a parameter with a default has been read -/
  defaults : Bool := false
  slash : Bool := false
  star : Bool := false
  /-- a bare star still waits for a parameter -/
  pending : Bool := false

mutual
def literals (fuel : Nat) (parts : Option LiteralParts) : Parser Expr :=
  match fuel with
  | 0 => fail
  | fuel + 1 => do
    match ← peek with
    | some (.text q body) => do
      let _ ← (fun s => some ((), s.tail) : Parser Unit)
      let before := parts.getD { bytes := q.bytes }
      require (before.bytes == q.bytes)
      if q.bytes then
        require (bytesOk q.raw body)
        literals fuel (some before)
      else if q.formatted then
        match formatted fuel 0 q.raw body with
        | some [] => literals fuel (some { before with formatted := true })
        | _ => fail
      else
        match if q.raw then some body else unescape? body with
        | some cs => literals fuel (some { before with chars := cs.reverseAux before.chars })
        | none => fail
    | _ =>
      match parts with
      | none => fail
      | some p => pure (if p.bytes || p.formatted then .other else .text (String.ofList p.chars.reverse))

/-- The text of a formatted literal; `level` counts format specifications, and inside one the rest
from its closing brace on is given back. -/
def formatted (fuel : Nat) (level : Nat) (raw : Bool) (s : List Char) : Option (List Char) :=
  match fuel with
  | 0 => none
  | fuel + 1 => do
    let (lit, rest) ← formatLiteral? raw (level != 0) s s []
    let _ ← if raw then some lit else unescape? lit.reverse
    match rest with
    | '{' :: r =>
      if 2 ≤ level then none
      else
        let (e, r) ← fieldExpr? r none [] [] r
        if e.all isFieldBlank then none
        else
          let tokens ← Token.ofSource? ('(' :: e ++ [')'])
          match starExpressions fuel tokens with
          | some (_, [.newline]) =>
            let r := match r with
              | '=' :: r => r.dropWhile fun c => c == ' ' || (9 ≤ c.toNat && c.toNat ≤ 13)
              | r => r
            let r ← match r with
              | '!' :: c :: r => if c == 's' || c == 'r' || c == 'a' then some r else none
              | ['!'] => none
              | r => some r
            let r ← match r with
              | ':' :: r => if r.isEmpty then none else formatted fuel (level + 1) raw r
              | r => some r
            match r with
            | '}' :: r => formatted fuel level raw r
            | _ => none
          | _ => none
    | rest => some rest

def atom (fuel : Nat) : Parser Expr :=
  match fuel with
  | 0 => fail
  | fuel + 1 => do
    match ← peek with
    | some (.name n) =>
      let _ ← Parser.name
      pure (.name n)
    | some (.keyword w) =>
      require (w == "True" || w == "False" || w == "None")
      Parser.word w
      pure .other
    | some (.number _) =>
      (fun s => some (Expr.other, s.tail) : Parser Expr)
    | some (.text _ _) => literals fuel none
    | some (.op "(") =>
      op "("
      parenthesized fuel
    | some (.op "[") =>
      op "["
      bracketed fuel
    | some (.op "\x7b") =>
      op "\x7b"
      braced fuel
    | some (.op "...") =>
      op "..."
      pure .other
    | _ => fail

def parenthesized (fuel : Nat) : Parser Expr :=
  match fuel with
  | 0 => fail
  | fuel + 1 => do
    if ← tryOp ")" then pure (.tuple [])
    else if ← seesWord "yield" then
      yieldExpr fuel
      op ")"
      pure .other
    else
      let first ← starNamed fuel
      if (← seesWord "for") || (← seesWord "async") then
        require !first.isStarred
        clauses fuel
        op ")"
        pure .other
      else if ← tryOp "," then
        if ← tryOp ")" then pure (.tuple [first])
        else
          let (rest, _) ← commaList (starNamed fuel) fuel
          op ")"
          pure (.tuple (first :: rest))
      else
        op ")"
        require !first.isStarred
        pure first

def bracketed (fuel : Nat) : Parser Expr :=
  match fuel with
  | 0 => fail
  | fuel + 1 => do
    if ← tryOp "]" then pure (.list [])
    else
      let first ← starNamed fuel
      if (← seesWord "for") || (← seesWord "async") then
        require !first.isStarred
        clauses fuel
        op "]"
        pure .other
      else if ← tryOp "," then
        if ← tryOp "]" then pure (.list [first])
        else
          let (rest, _) ← commaList (starNamed fuel) fuel
          op "]"
          pure (.list (first :: rest))
      else
        op "]"
        pure (.list [first])

def pair (fuel : Nat) : Parser (Option Expr) :=
  match fuel with
  | 0 => fail
  | fuel + 1 => do
    if ← tryOp "**" then
      let _ ← operands fuel
      pure none
    else
      let k ← expression fuel
      op ":"
      let _ ← expression fuel
      pure (some k)

def mappingRest (fuel : Nat) (key : Option Expr) : Parser Expr :=
  match fuel with
  | 0 => fail
  | fuel + 1 => do
    if (← seesWord "for") || (← seesWord "async") then
      require key.isSome
      clauses fuel
      op "\x7d"
      pure .other
    else if ← tryOp "," then
      if ← tryOp "\x7d" then pure (.mapping key.toList)
      else
        let (rest, _) ← commaList (pair fuel) fuel
        op "\x7d"
        pure (.mapping (key :: rest).reduceOption)
    else
      op "\x7d"
      pure (.mapping key.toList)

/-- After an opening brace: a mapping, a set or a comprehension. -/
def braced (fuel : Nat) : Parser Expr :=
  match fuel with
  | 0 => fail
  | fuel + 1 => do
    if ← tryOp "\x7d" then pure (.mapping [])
    else if ← tryOp "**" then
      let _ ← operands fuel
      mappingRest fuel none
    else
      let assigns ← seesNameThen ":="
      let first ← starNamed fuel
      if !assigns && !first.isStarred && (← seesOp ":") then
        op ":"
        let _ ← expression fuel
        mappingRest fuel (some first)
      else if (← seesWord "for") || (← seesWord "async") then
        require !first.isStarred
        clauses fuel
        op "\x7d"
        pure .other
      else if ← tryOp "," then
        if ← tryOp "\x7d" then pure .other
        else
          let _ ← commaList (starNamed fuel) fuel
          op "\x7d"
          pure .other
      else
        op "\x7d"
        pure .other

def clauses (fuel : Nat) : Parser Unit :=
  match fuel with
  | 0 => fail
  | fuel + 1 => do
    let _ ← tryWord "async"
    word "for"
    let _ ← targets fuel
    word "in"
    let _ ← disjunction fuel
    let _ ← many (do word "if"; disjunction fuel) fuel
    if (← seesWord "for") || (← seesWord "async") then clauses fuel

def targets (fuel : Nat) : Parser Expr :=
  match fuel with
  | 0 => fail
  | fuel + 1 => do
    let e := tupleOf (← commaList (targetItem fuel) fuel)
    require e.isTarget
    pure e

def targetItem (fuel : Nat) : Parser Expr :=
  match fuel with
  | 0 => fail
  | fuel + 1 => do
    if ← tryOp "*" then pure (.starred (← operands fuel)) else operands fuel

def argument (fuel : Nat) : Parser Argument :=
  match fuel with
  | 0 => fail
  | fuel + 1 => do
    if ← tryOp "*" then pure (.starred (← expression fuel))
    else if ← tryOp "**" then
      let _ ← expression fuel
      pure .doubled
    else if ← seesNameThen "=" then
      let _ ← Parser.name
      op "="
      let _ ← expression fuel
      pure .keyword
    else pure (.positional (← named fuel))

/-- The arguments of a call up to the closing parenthesis; `mode` is 0 while positional ones may come,
1 after a keyword and 2 after a doubled star.  If `alone`, one generator may stand in their place. -/
def arguments (fuel : Nat) (mode : Nat) (alone : Bool) : Parser (List Expr) :=
  match fuel with
  | 0 => fail
  | fuel + 1 => do
    if ← tryOp ")" then pure []
    else
      let (mode, found, plain) ← match ← argument fuel with
        | .positional e => do
          require (mode == 0)
          pure (0, [e], true)
        | .starred e => do
          require (mode ≤ 1)
          pure (mode, [.starred e], false)
        | .keyword => pure (max mode 1, [], false)
        | .doubled => pure (2, [], false)
      if alone && plain && ((← seesWord "for") || (← seesWord "async")) then
        clauses fuel
        op ")"
        pure []
      else if ← tryOp "," then
        let rest ← arguments fuel mode false
        pure (found ++ rest)
      else
        op ")"
        pure found

def index (fuel : Nat) : Parser Unit :=
  match fuel with
  | 0 => fail
  | fuel + 1 => do
    if ← tryOp "*" then
      let _ ← expression fuel
    else
      let assigns ← seesNameThen ":="
      let first ← if ← seesOp ":" then pure none else do pure (some (← named fuel))
      if !(assigns && first.isSome) then
        if ← tryOp ":" then
          optional (expression fuel)
          if ← tryOp ":" then optional (expression fuel)

def trailers (fuel : Nat) (e : Expr) : Parser Expr :=
  match fuel with
  | 0 => fail
  | fuel + 1 => do
    if ← tryOp "." then
      let n ← Parser.name
      trailers fuel (.attribute e n)
    else if ← tryOp "(" then
      let _ ← arguments fuel 0 true
      trailers fuel (.call e)
    else if ← tryOp "[" then
      let _ ← commaList (index fuel) fuel
      op "]"
      trailers fuel (.subscript e)
    else pure e

def operand (fuel : Nat) : Parser Expr :=
  match fuel with
  | 0 => fail
  | fuel + 1 => do
    if ← tryOpOf ["+", "-", "~"] then
      let _ ← operand fuel
      pure .other
    else if ← tryWord "await" then
      let e ← atom fuel
      let _ ← trailers fuel e
      pure .other
    else
      let e ← atom fuel
      trailers fuel e

def operands (fuel : Nat) : Parser Expr :=
  match fuel with
  | 0 => fail
  | fuel + 1 => do
    let e ← operand fuel
    if ← tryOpOf operandOps then
      let _ ← operands fuel
      pure .other
    else pure e

def comparison (fuel : Nat) : Parser Expr :=
  match fuel with
  | 0 => fail
  | fuel + 1 => do
    if ← tryWord "not" then
      let _ ← comparison fuel
      pure .other
    else
      let e ← operands fuel
      match ← many (do require (← tryCompare); operands fuel) fuel with
      | [] => pure e
      | _ => pure .other

def disjunction (fuel : Nat) : Parser Expr :=
  match fuel with
  | 0 => fail
  | fuel + 1 => do
    let e ← comparison fuel
    if ← tryWordOf ["and", "or"] then
      let _ ← disjunction fuel
      pure .other
    else pure e

/-- An expression: a condition between two, or a function. -/
def expression (fuel : Nat) : Parser Expr :=
  match fuel with
  | 0 => fail
  | fuel + 1 => do
    if ← tryWord "lambda" then
      parameters fuel false ":" {}
      let _ ← expression fuel
      pure .function
    else
      let e ← disjunction fuel
      if ← seesWord "if" then
        match ← attempt (do
          word "if"
          let _ ← disjunction fuel
          word "else"
          expression fuel) with
        | some _ => pure .other
        | none => pure e
      else pure e

def named (fuel : Nat) : Parser Expr :=
  match fuel with
  | 0 => fail
  | fuel + 1 => do
    if ← seesNameThen ":=" then
      let _ ← Parser.name
      op ":="
      let _ ← expression fuel
      pure .other
    else expression fuel

def starNamed (fuel : Nat) : Parser Expr :=
  match fuel with
  | 0 => fail
  | fuel + 1 => do
    if ← tryOp "*" then pure (.starred (← operands fuel)) else named fuel

def starExpression (fuel : Nat) : Parser Expr :=
  match fuel with
  | 0 => fail
  | fuel + 1 => do
    if ← tryOp "*" then pure (.starred (← operands fuel)) else expression fuel

def starExpressions (fuel : Nat) : Parser Expr :=
  match fuel with
  | 0 => fail
  | fuel + 1 => do pure (tupleOf (← commaList (starExpression fuel) fuel))

def yieldExpr (fuel : Nat) : Parser Unit :=
  match fuel with
  | 0 => fail
  | fuel + 1 => do
    word "yield"
    if ← tryWord "from" then
      let _ ← expression fuel
    else optional (starExpressions fuel)

def annotation (fuel : Nat) (annotated starred : Bool) : Parser Unit :=
  match fuel with
  | 0 => fail
  | fuel + 1 => do
    if annotated then
      if ← tryOp ":" then
        let _ ← if starred then starExpression fuel else expression fuel

def parameters (fuel : Nat) (annotated : Bool) (close : String) (st : ParamState) : Parser Unit :=
  match fuel with
  | 0 => fail
  | fuel + 1 => do
    if ← tryOp close then require !st.pending
    else if ← tryOp "/" then
      require (st.some && !st.slash && !st.star)
      if ← tryOp "," then parameters fuel annotated close { st with slash := true }
      else op close
    else if ← tryOp "**" then
      require !st.pending
      let _ ← Parser.name
      annotation fuel annotated false
      let _ ← tryOp ","
      op close
    else if ← tryOp "*" then
      require !st.star
      if ← tryOp "," then parameters fuel annotated close { st with star := true, pending := true }
      else
        let _ ← Parser.name
        annotation fuel annotated true
        if ← tryOp "," then parameters fuel annotated close { st with star := true }
        else op close
    else
      let _ ← Parser.name
      annotation fuel annotated false
      let given ← tryOp "="
      if given then
        let _ ← expression fuel
      require (given || st.star || !st.defaults)
      let st := { st with some := true, pending := false, defaults := st.defaults || (given && !st.star) }
      if ← tryOp "," then parameters fuel annotated close st else op close
end

/-! ## Patterns of `match` statements -/

/-- A number with an optional sign; gives whether it is imaginary. -/
def signedNumber : Parser Bool := do
  let _ ← tryOp "-"
  match ← peek with
  | some (.number imaginary) => (fun s => some (imaginary, s.tail) : Parser Bool)
  | _ => fail

def literalPattern (fuel : Nat) : Parser Unit := do
  match ← peek with
  | some (.text _ _) =>
    let _ ← literals fuel none
  | some (.keyword w) =>
    require (w == "True" || w == "False" || w == "None")
    word w
  | _ =>
    let imaginary ← signedNumber
    if ← tryOpOf ["+", "-"] then
      require !imaginary
      match ← peek with
      | some (.number true) => (fun s => some ((), s.tail) : Parser Unit)
      | _ => fail

def captureName : Parser Unit := do
  let n ← Parser.name
  require (n != "_")
  require !((← seesOp ".") || (← seesOp "(") || (← seesOp "="))

def dottedName (fuel : Nat) : Parser Nat := do
  let _ ← Parser.name
  let parts ← many (do op "."; Parser.name) fuel
  pure parts.length

def moduleName (fuel : Nat) : Parser Unit := do
  let _ ← dottedName fuel

mutual
/-- A pattern, possibly with choices and a name. -/
def pattern (fuel : Nat) : Parser Unit :=
  match fuel with
  | 0 => fail
  | fuel + 1 => do
    closedPattern fuel
    let _ ← many (do op "|"; closedPattern fuel) fuel
    if ← tryWord "as" then captureName

def closedPattern (fuel : Nat) : Parser Unit :=
  match fuel with
  | 0 => fail
  | fuel + 1 => do
    match ← peek with
    | some (.op "(") =>
      op "("
      let _ ← sequencePattern fuel ")"
    | some (.op "[") =>
      op "["
      let _ ← sequencePattern fuel "]"
    | some (.op "\x7b") =>
      op "\x7b"
      mappingPattern fuel false
    | some (.name _) =>
      if ← tryName "_" then pure ()
      else
        moduleName fuel
        if ← tryOp "(" then classPattern fuel false
        else require !(← seesOp "=")
    | _ => literalPattern fuel

def maybeStarPattern (fuel : Nat) : Parser Bool :=
  match fuel with
  | 0 => fail
  | fuel + 1 => do
    if ← tryOp "*" then
      if ← tryName "_" then pure true
      else
        captureName
        pure true
    else
      pattern fuel
      pure false

/-- The items of a sequence pattern up to its closing bracket; in parentheses a single item without a
comma is a group, which must not be starred. -/
def sequencePattern (fuel : Nat) (close : String) : Parser Unit :=
  match fuel with
  | 0 => fail
  | fuel + 1 => do
    if ← tryOp close then pure ()
    else
      let items ← commaList (maybeStarPattern fuel) fuel
      op close
      match items with
      | ([starred], false) => require (close == "]" || !starred)
      | _ => pure ()

def mappingPattern (fuel : Nat) (closing : Bool) : Parser Unit :=
  match fuel with
  | 0 => fail
  | fuel + 1 => do
    if ← tryOp "\x7d" then pure ()
    else
      require !closing
      let rest ← if ← tryOp "**" then
          captureName
          pure true
        else
          match ← attempt (do let n ← dottedName fuel; require (n != 0)) with
          | some _ => pure ()
          | none => literalPattern fuel
          op ":"
          pattern fuel
          pure false
      if ← tryOp "," then mappingPattern fuel rest else op "\x7d"

def classPattern (fuel : Nat) (keyed : Bool) : Parser Unit :=
  match fuel with
  | 0 => fail
  | fuel + 1 => do
    if ← tryOp ")" then pure ()
    else
      let keyed ← if ← seesNameThen "=" then
          let _ ← Parser.name
          op "="
          pattern fuel
          pure true
        else
          require !keyed
          pattern fuel
          pure false
      if ← tryOp "," then classPattern fuel keyed else op ")"
end

def casePatterns (fuel : Nat) : Parser Unit := do
  let items ← commaList (maybeStarPattern fuel) fuel
  match items with
  | ([starred], false) => require !starred
  | _ => pure ()

/-! ## Statements -/

def assigned (fuel : Nat) : Parser Expr := do
  if ← seesWord "yield" then
    yieldExpr fuel
    pure .other
  else starExpressions fuel

/-- The targets and the value of an assignment after its first target and `=`; `before` holds the targets,
last first. -/
def assignment (fuel : Nat) : Nat → List Expr → Parser Stmt
  | 0, _ => fail
  | n + 1, before => do
    let e ← assigned fuel
    if ← tryOp "=" then
      require e.isTarget
      assignment fuel n (e :: before)
    else pure (.assign before.reverse e)

def expressionStmt (fuel : Nat) : Parser Stmt := do
  let e ← starExpressions fuel
  if ← tryOp ":" then
    require e.isSingleTarget
    let _ ← expression fuel
    if ← tryOp "=" then pure (.annotated e (some (← assigned fuel)))
    else pure (.annotated e none)
  else if ← tryOp "=" then
    require e.isTarget
    assignment fuel fuel [e]
  else if ← tryOpOf augmentOps then
    require e.isSingleTarget
    let _ ← assigned fuel
    pure (.augmented e)
  else pure .simple

def asName : Parser Unit := do
  if ← tryWord "as" then
    let _ ← Parser.name

def importedNames (fuel : Nat) : Parser Unit := do
  let one : Parser Unit := do
    let _ ← Parser.name
    asName
  if ← tryOp "*" then pure ()
  else if ← tryOp "(" then
    let _ ← commaList one fuel
    op ")"
  else
    let _ ← openList one fuel

def simpleStmt (fuel : Nat) : Parser Stmt := do
  match ← peek with
  | some (.keyword w) =>
    if ["pass", "break", "continue"].contains w then
      word w
      pure .simple
    else if w == "return" then
      word w
      optional (starExpressions fuel)
      pure .simple
    else if w == "raise" then
      word w
      match ← attempt (expression fuel) with
      | some _ =>
        if ← tryWord "from" then
          let _ ← expression fuel
        pure .simple
      | none => pure .simple
    else if w == "global" || w == "nonlocal" then
      word w
      let _ ← openList Parser.name fuel
      pure .simple
    else if w == "del" then
      word w
      let (es, _) ← commaList (expression fuel) fuel
      require (areDeletable es)
      pure .simple
    else if w == "assert" then
      word w
      let _ ← expression fuel
      if ← tryOp "," then
        let _ ← expression fuel
      pure .simple
    else if w == "import" then
      word w
      let _ ← openList (do moduleName fuel; asName) fuel
      pure .simple
    else if w == "from" then
      word w
      let dots ← many (do require (← tryOpOf [".", "..."])) fuel
      if dots.isEmpty then moduleName fuel
      else if !(← seesWord "import") then moduleName fuel
      word "import"
      importedNames fuel
      pure .simple
    else if w == "yield" then
      yieldExpr fuel
      pure .simple
    else expressionStmt fuel
  | _ => expressionStmt fuel

def simpleStmts (fuel : Nat) : Nat → Parser (List Stmt)
  | 0 => fail
  | n + 1 => do
    let s ← simpleStmt fuel
    if ← tryOp ";" then
      if ← seesNewline then
        Parser.newline
        pure [s]
      else
        let rest ← simpleStmts fuel n
        pure (s :: rest)
    else
      Parser.newline
      pure [s]

def withItem (fuel : Nat) : Parser Unit := do
  let _ ← expression fuel
  if ← tryWord "as" then
    let t ← targetItem fuel
    require t.isTarget
    require ((← seesOp ",") || (← seesOp ")") || (← seesOp ":"))

def withHead (fuel : Nat) : Parser Unit := do
  match ← attempt (do
    op "("
    let _ ← commaList (withItem fuel) fuel
    op ")"
    op ":") with
  | some _ => pure ()
  | none =>
    let _ ← openList (withItem fuel) fuel
    op ":"

mutual
def statement (fuel : Nat) : Parser (List Stmt) :=
  match fuel with
  | 0 => fail
  | fuel + 1 => do
    match ← peek with
    | some (.op "@") => do
      let decorators ← many (do op "@"; let e ← named fuel; Parser.newline; pure e) fuel
      let s ← definition fuel decorators
      pure [s]
    | some (.keyword w) =>
      if w == "def" || w == "class" then
        let s ← definition fuel []
        pure [s]
      else if w == "async" then
        match ← attempt (definition fuel []) with
        | some s => pure [s]
        | none =>
          word "async"
          let s ← if ← tryWord "with" then withStmt fuel
            else do
              word "for"
              forStmt fuel
          pure [s]
      else if w == "if" then
        word w
        let s ← ifStmt fuel
        pure [s]
      else if w == "while" then
        word w
        let _ ← named fuel
        op ":"
        let body ← block fuel
        let rest ← elseBlock fuel
        pure [.compound (body ++ rest)]
      else if w == "for" then
        word w
        let s ← forStmt fuel
        pure [s]
      else if w == "with" then
        word w
        let s ← withStmt fuel
        pure [s]
      else if w == "try" then
        word w
        let s ← tryStmt fuel
        pure [s]
      else simpleStmts fuel fuel
    | some (.name "match") => do
      match ← attempt (matchStmt fuel) with
      | some s => pure [s]
      | none => simpleStmts fuel fuel
    | _ => simpleStmts fuel fuel

def statements (fuel : Nat) : Parser (List Stmt) :=
  match fuel with
  | 0 => fail
  | fuel + 1 => do
    let first ← statement fuel
    if ← tryDedent then pure first
    else
      let rest ← statements fuel
      pure (first ++ rest)

def block (fuel : Nat) : Parser (List Stmt) :=
  match fuel with
  | 0 => fail
  | fuel + 1 => do
    if ← seesNewline then
      Parser.newline
      Parser.indent
      statements fuel
    else simpleStmts fuel fuel

def elseBlock (fuel : Nat) : Parser (List Stmt) :=
  match fuel with
  | 0 => fail
  | fuel + 1 => do
    if ← tryWord "else" then
      op ":"
      block fuel
    else pure []

def ifStmt (fuel : Nat) : Parser Stmt :=
  match fuel with
  | 0 => fail
  | fuel + 1 => do
    let _ ← named fuel
    op ":"
    let body ← block fuel
    if ← tryWord "elif" then
      let rest ← ifStmt fuel
      pure (.compound (body ++ [rest]))
    else
      let rest ← elseBlock fuel
      pure (.compound (body ++ rest))

def forStmt (fuel : Nat) : Parser Stmt :=
  match fuel with
  | 0 => fail
  | fuel + 1 => do
    let _ ← targets fuel
    word "in"
    let _ ← starExpressions fuel
    op ":"
    let body ← block fuel
    let rest ← elseBlock fuel
    pure (.compound (body ++ rest))

def withStmt (fuel : Nat) : Parser Stmt :=
  match fuel with
  | 0 => fail
  | fuel + 1 => do
    withHead fuel
    pure (.compound (← block fuel))

def handlers (fuel : Nat) (grouped : Bool) : Parser (List Stmt) :=
  match fuel with
  | 0 => fail
  | fuel + 1 => do
    if ← tryWord "except" then
      if grouped then op "*"
      if grouped || !(← seesOp ":") then
        let _ ← expression fuel
        asName
      op ":"
      let body ← block fuel
      let rest ← handlers fuel grouped
      pure (.compound body :: rest)
    else pure []

def tryStmt (fuel : Nat) : Parser Stmt :=
  match fuel with
  | 0 => fail
  | fuel + 1 => do
    op ":"
    let body ← block fuel
    let grouped ← match ← attempt (do word "except"; op "*") with
      | some _ => pure true
      | none => pure false
    -- `attempt` took the tokens when it succeeded, so the first grouped handler goes on from there
    let hs ← if grouped then
        let _ ← expression fuel
        asName
        op ":"
        let first ← block fuel
        let rest ← handlers fuel true
        pure (.compound first :: rest)
      else handlers fuel false
    let orelse ← if hs.isEmpty then pure [] else elseBlock fuel
    let final ← if ← tryWord "finally" then
        op ":"
        let b ← block fuel
        pure (some b)
      else pure none
    require (!hs.isEmpty || final.isSome)
    pure (.compound (body ++ hs ++ orelse ++ final.getD []))

def definition (fuel : Nat) (decorators : List Expr) : Parser Stmt :=
  match fuel with
  | 0 => fail
  | fuel + 1 => do
    if ← tryWord "class" then
      let n ← Parser.name
      let bases ← if ← tryOp "(" then arguments fuel 0 false else pure []
      op ":"
      let body ← block fuel
      pure (.classDef n bases body)
    else
      let _ ← tryWord "async"
      word "def"
      let n ← Parser.name
      op "("
      parameters fuel true ")" {}
      if ← tryOp "->" then
        let _ ← expression fuel
      op ":"
      let body ← block fuel
      pure (.functionDef n decorators body)

def matchStmt (fuel : Nat) : Parser Stmt :=
  match fuel with
  | 0 => fail
  | fuel + 1 => do
    require (← tryName "match")
    match ← commaList (starNamed fuel) fuel with
    | ([e], false) => require !e.isStarred
    | _ => pure ()
    op ":"
    Parser.newline
    Parser.indent
    pure (.compound (← cases fuel))

def cases (fuel : Nat) : Parser (List Stmt) :=
  match fuel with
  | 0 => fail
  | fuel + 1 => do
    require (← tryName "case")
    casePatterns fuel
    if ← tryWord "if" then
      let _ ← named fuel
    op ":"
    let body ← block fuel
    if ← tryDedent then pure [.compound body]
    else
      let rest ← cases fuel
      pure (.compound body :: rest)
end

def wholeText (fuel : Nat) : Nat → Parser (List Stmt)
  | 0 => fail
  | n + 1 => do
    match ← peek with
    | none => pure []
    | some _ =>
      let first ← statement fuel
      let rest ← wholeText fuel n
      pure (first ++ rest)

inductive Problem where
  /-- it does not follow the grammar -/
  | invalid
  /-- its tree is too high -/
  | tooHigh
  /-- too many rules of the grammar are open at once -/
  | tooInvolved
deriving DecidableEq

def parse (s : String) : Except Problem (List Stmt) :=
  match Token.ofSource? s.toList with
  | none => .error .invalid
  | some tokens =>
    let m := Nesting.measure tokens
    if Nesting.reachLimit < m.reach then .error .tooInvolved
    else
      match wholeText (40 * (s.length + 10)) (tokens.length + 1) tokens with
      | none => .error .invalid
      | some (body, _) => if Nesting.heightLimit < m.height then .error .tooHigh else .ok body

end ShapeSearch.Source
