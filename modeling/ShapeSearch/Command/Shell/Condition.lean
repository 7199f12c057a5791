import ShapeSearch.Command.Files

/-!
# Conditions

The conditions that scripts test: on files, texts and numbers, with negation, `-a`, `-o` and brackets.
`decideCondition` says whether one holds, or why it cannot be read.
-/

namespace ShapeSearch.Command.Shell

inductive ConditionToken where
  | endOfWords
  | operand
  | unary (c : Char)
  | binary (op : String)
  | negation
  | conjunction
  | disjunction
  | leftParen
  | rightParen
deriving DecidableEq

inductive ConditionError where
  | illegalNumber (text : Bytes)
  /-- something follows a word that ends the condition -/
  | unexpected (word next : Bytes)
  | argumentExpected (op : Bytes)
  | parenExpected

def ConditionError.message : ConditionError → Bytes
  | .illegalNumber text => "Illegal number: ".toList ++ text
  | .unexpected word _ => word ++ ": unexpected operator".toList
  | .argumentExpected op => op ++ ": argument expected".toList
  | .parenExpected => "closing paren expected".toList

def operator? (w : Bytes) : Option ConditionToken :=
  match w with
  | ['!'] => some .negation
  | ['('] => some .leftParen
  | [')'] => some .rightParen
  | ['-', 'a'] => some .conjunction
  | ['-', 'o'] => some .disjunction
  | ['-', c] => if "rwxefdcbpugkstznhOGLS".toList.contains c then some (.unary c) else none
  | _ =>
    let s := String.ofList w
    if ["=", "!=", "<", ">", "-eq", "-ne", "-ge", "-gt", "-le", "-lt", "-nt", "-ot", "-ef"].contains s
    then some (.binary s) else none

def isBinary (w : Bytes) : Bool :=
  match operator? w with
  | some (.binary _) => true
  | _ => false

def conditionToken : List Bytes → ConditionToken
  | [] => .endOfWords
  | w :: r =>
    match operator? w with
    | none => .operand
    | some (.unary c) =>
      match r with
      | [] => .operand
      | [_] => .unary c
      | b :: _ => if isBinary b then .operand else .unary c
    | some .leftParen => if r.isEmpty then .operand else .leftParen
    | some t => t

def conditionNumber (s : Bytes) : Except ConditionError Int :=
  let isBlank (c : Char) : Bool := c == ' ' || ('\t' ≤ c && c ≤ '\r')
  let t := s.dropWhile isBlank
  let (negative, digits) := match t with
    | '-' :: r => (true, r)
    | '+' :: r => (false, r)
    | _ => (false, t)
  let number := digits.takeWhile Char.isDigit
  if number.isEmpty || !(digits.dropWhile Char.isDigit).all isBlank then
    .error (.illegalNumber s)
  else
    let n : Int := Bytes.digitsValue number
    let n := if negative then -n else n
    if n < -9223372036854775808 || 9223372036854775807 < n then .error (.illegalNumber s) else .ok n

def fileCondition (w : World) (c : Char) (name : Bytes) : Bool :=
  if c == 'h' || c == 'L' then Files.isLink w name
  else if name == "/dev/null".toList then c == 'e' || c == 'r' || c == 'w' || c == 'c'
  else
    match Files.node? w name with
    | none => false
    | some (.dir _) => "erwxdsOG".toList.contains c
    | some (.file f) => "erwfOG".toList.contains c || (c == 's' && 0 < f.size)
    | some (.link _) => false

def unaryCondition (w : World) (c : Char) (arg : Bytes) : Except ConditionError Bool :=
  match c with
  | 'z' => .ok arg.isEmpty
  | 'n' => .ok !arg.isEmpty
  | 't' => do
    let _ ← conditionNumber arg
    .ok false
  | c => .ok (fileCondition w c arg)

def changedAt? (w : World) (name : Bytes) : Option Int :=
  match Files.node? w name with
  | some (.file f) => some f.mtimeNs
  | some _ => some 0
  | none => none

def binaryCondition (w : World) (op : String) (a b : Bytes) : Except ConditionError Bool :=
  match op with
  | "=" => .ok (a == b)
  | "!=" => .ok (a != b)
  | "<" => .ok (a < b)
  | ">" => .ok (b < a)
  | "-nt" => .ok (match changedAt? w a, changedAt? w b with
    | some x, some y => y < x
    | _, _ => false)
  | "-ot" => .ok (match changedAt? w a, changedAt? w b with
    | some x, some y => x < y
    | _, _ => false)
  | "-ef" =>
    let real (n : Bytes) : Option String := do (w.realPath (← Bytes.decode? n)).toOption
    .ok ((Files.node? w a).isSome && (Files.node? w b).isSome && real a == real b)
  | _ => do
    let x ← conditionNumber a
    let y ← conditionNumber b
    .ok (match op with
      | "-eq" => x == y
      | "-ne" => x != y
      | "-ge" => y ≤ x
      | "-gt" => y < x
      | "-le" => x ≤ y
      | _ => x < y)

mutual

/-- Conditions of which one has to hold; the words start at the token, and end at the last one read. -/
def anyCondition : Nat → World → ConditionToken → List Bytes → Except ConditionError (Bool × List Bytes)
  | 0, _, _, ws => .ok (false, ws)
  | fuel + 1, w, t, ws => do
    let (a, ws) ← allConditions fuel w t ws
    if conditionToken ws.tail = .disjunction then
      let ws := ws.drop 2
      let (b, ws) ← anyCondition fuel w (conditionToken ws) ws
      .ok (a || b, ws)
    else .ok (a, ws)

def allConditions : Nat → World → ConditionToken → List Bytes → Except ConditionError (Bool × List Bytes)
  | 0, _, _, ws => .ok (false, ws)
  | fuel + 1, w, t, ws => do
    let (a, ws) ← notCondition fuel w t ws
    if conditionToken ws.tail = .conjunction then
      let ws := ws.drop 2
      let (b, ws) ← allConditions fuel w (conditionToken ws) ws
      .ok (a && b, ws)
    else .ok (a, ws)

def notCondition : Nat → World → ConditionToken → List Bytes → Except ConditionError (Bool × List Bytes)
  | 0, _, _, ws => .ok (false, ws)
  | fuel + 1, w, t, ws => do
    if t = .negation then
      let t := conditionToken ws.tail
      let (a, ws) ← notCondition fuel w t (if t = .endOfWords then ws else ws.tail)
      .ok (!a, ws)
    else oneCondition fuel w t ws

def oneCondition : Nat → World → ConditionToken → List Bytes → Except ConditionError (Bool × List Bytes)
  | 0, _, _, ws => .ok (false, ws)
  | fuel + 1, w, t, ws => do
    match t with
    | .endOfWords => .ok (false, ws)
    | .leftParen =>
      let ws := ws.tail
      if conditionToken ws = .rightParen then .ok (false, ws)
      else
        let (a, ws) ← anyCondition fuel w (conditionToken ws) ws
        if conditionToken ws.tail = .rightParen then .ok (a, ws.tail)
        else .error .parenExpected
    | .unary c =>
      match ws.tail with
      | [] => .error (.argumentExpected ['-', c])
      | arg :: _ => .ok (← unaryCondition w c arg, ws.tail)
    | _ =>
      match ws with
      | [] => .ok (false, [])
      | [a] => .ok (!a.isEmpty, [a])
      | a :: op :: r =>
        match conditionToken (op :: r) with
        | .binary name =>
          match r with
          | [] => .error (.argumentExpected op)
          | b :: _ => .ok (← binaryCondition w name a b, r)
        | _ => .ok (!a.isEmpty, a :: op :: r)

end

def wholeCondition (w : World) (t : ConditionToken) (ws : List Bytes) : Except ConditionError Bool := do
  let (a, rest) ← anyCondition (4 * ws.length + 8) w t ws
  match rest with
  | x :: next :: _ => .error (.unexpected x next)
  | _ => .ok a

def decideCondition (w : World) : List Bytes → Except ConditionError Bool
  | [] => .ok false
  | [a, op, b] =>
    if isBinary op then wholeCondition w .operand [a, op, b]
    else if a == ['('] && b == [')'] then wholeCondition w (conditionToken [op]) [op]
    else if a == ['!'] then do .ok !(← decideCondition w [op, b])
    else wholeCondition w (conditionToken [a, op, b]) [a, op, b]
  | [a, b, c, d] =>
    if a == ['('] && d == [')'] then wholeCondition w (conditionToken [b, c]) [b, c]
    else if a == ['!'] then do .ok !(← decideCondition w [b, c, d])
    else wholeCondition w (conditionToken [a, b, c, d]) [a, b, c, d]
  | ws => wholeCondition w (conditionToken ws) ws

end ShapeSearch.Command.Shell
