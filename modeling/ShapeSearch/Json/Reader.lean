import ShapeSearch.Decimal.Shortest
import ShapeSearch.Json.Value
import ShapeSearch.Text.Letter

/-!
# Reading structured values

`Json.read` reads one value with blanks around it and nothing else.  Apart from the usual forms the
words `NaN`, `Infinity` and `-Infinity` are numbers, a control character inside a text is refused,
and of two fields with one name the last value stands in the place of the first.

Half of a pair that stands alone is no character, and is read as the replacement character.

A text that spells no value is answered with the first problem and its place.  A value may also go beyond
the limits of a reader, by the digits of a whole number or by how deep it is nested.
-/

namespace ShapeSearch.Json

inductive ReadProblem where
  | byteOrderMark
  | noValue
  | noName
  | noColon
  | noComma
  | openText
  | controlChar
  | badEscape
  | badUnit
  | surplus
  | longNumber
  | tooDeep
deriving DecidableEq

def ReadProblem.message : ReadProblem → String
  | .byteOrderMark => "Unexpected UTF-8 BOM (decode using utf-8-sig)"
  | .noValue => "Expecting value"
  | .noName => "Expecting property name enclosed in double quotes"
  | .noColon => "Expecting ':' delimiter"
  | .noComma => "Expecting ',' delimiter"
  | .openText => "Unterminated string starting at"
  | .controlChar => "Invalid control character at"
  | .badEscape => "Invalid \\escape"
  | .badUnit => "Invalid \\uXXXX escape"
  | .surplus => "Extra data"
  | .longNumber => "Exceeds the limit for integer string conversion"
  | .tooDeep => "maximum recursion depth exceeded"

/-- The misfit of a text that is well formed so far but goes beyond the limits. -/
def ReadProblem.misfit? : ReadProblem → Option Misfit
  | .longNumber => some .badValue
  | .tooDeep => some .tooDeep
  | _ => none

structure ReadError where
  problem : ReadProblem
  rest : List Char

abbrev Step (α : Type) := Except ReadError (α × List Char)

/-- How many characters stand after the last line feed. -/
def columnAfter (before : List Char) : Nat :=
  (before.reverse.takeWhile (· != '\n')).length

/-- A problem with its place in the whole text: line and column count from one, characters from zero. -/
def ReadError.message (e : ReadError) (whole : List Char) : String :=
  let place := whole.length - e.rest.length
  let before := whole.take place
  e.problem.message ++ ": line " ++ Decimal.natText (before.count '\n' + 1) ++ " column " ++
    Decimal.natText (columnAfter before + 1) ++ " (char " ++ Decimal.natText place ++ ")"

def isSpacing (c : Char) : Bool :=
  c == ' ' || c == '\n' || c == '\r' || c == '\t'

def skipSpacing (s : List Char) : List Char :=
  s.dropWhile isSpacing

def readUnit? : List Char → Option (Nat × List Char)
  | a :: b :: c :: d :: r => do
    let a ← Text.hexValue? a
    let b ← Text.hexValue? b
    let c ← Text.hexValue? c
    let d ← Text.hexValue? d
    some (((a * 16 + b) * 16 + c) * 16 + d, r)
  | _ => none

/-- The character after a backslash and its `u`: a unit, or a pair of units that stand for one
character. -/
def readEscapedChar? (s : List Char) : Option (Char × List Char) := do
  let (hi, r) ← readUnit? s
  if 0xd800 ≤ hi && hi < 0xdc00 then
    match r with
    | '\\' :: 'u' :: r' =>
      match readUnit? r' with
      | some (lo, r'') =>
        if 0xdc00 ≤ lo && lo < 0xe000 && !r''.isEmpty then
          some (Char.ofNat (0x10000 + (hi - 0xd800) * 0x400 + (lo - 0xdc00)), r'')
        else some ('�', r)
      | none => some ('�', r)
    | _ => some ('�', r)
  else if 0xdc00 ≤ hi && hi < 0xe000 then some ('�', r)
  else some (Char.ofNat hi, r)

/-- The text up to the closing quote; `start` is the text from the opening quote on, and `out` holds
what was read, last character first.  Every step consumes a character, so the text itself, as the first
argument, bounds their number. -/
def readText (start : List Char) : List Char → List Char → List Char → Step String
  | [], _, _ => .error ⟨.openText, start⟩
  | _ :: _, [], _ => .error ⟨.openText, start⟩
  | _ :: fuel, c :: r, out =>
    if c == '"' then .ok (String.ofList out.reverse, r)
    else if c == '\\' then
      match r with
      | [] => .error ⟨.openText, start⟩
      | '"' :: r => readText start fuel r ('"' :: out)
      | '\\' :: r => readText start fuel r ('\\' :: out)
      | '/' :: r => readText start fuel r ('/' :: out)
      | 'b' :: r => readText start fuel r ('\x08' :: out)
      | 'f' :: r => readText start fuel r ('\x0c' :: out)
      | 'n' :: r => readText start fuel r ('\n' :: out)
      | 'r' :: r => readText start fuel r ('\r' :: out)
      | 't' :: r => readText start fuel r ('\t' :: out)
      | 'u' :: u =>
        match readEscapedChar? u with
        | some (_, []) => .error ⟨.badUnit, r⟩
        | some (ch, rest) => readText start fuel rest (ch :: out)
        | none => .error ⟨.badUnit, r⟩
      | _ => .error ⟨.badEscape, c :: r⟩
    else if c.toNat < 32 then .error ⟨.controlChar, c :: r⟩
    else readText start fuel r (c :: out)

def digitsValue (ds : List Char) : Nat :=
  ds.foldl (fun n c => n * 10 + (c.toNat - 48)) 0

/-- The fraction after a point, if one stands here; a point without digits is left alone. -/
def readFraction (s : List Char) : List Char × List Char :=
  match s with
  | '.' :: r =>
    let ds := r.takeWhile Char.isDigit
    if ds.isEmpty then ([], s) else (ds, r.dropWhile Char.isDigit)
  | _ => ([], s)

/-- The exponent, if one stands here; a mark without digits is left alone. -/
def readExponent (s : List Char) : Option Int × List Char :=
  match s with
  | e :: r =>
    if e == 'e' || e == 'E' then
      let (neg, r') := match r with
        | '-' :: r' => (true, r')
        | '+' :: r' => (false, r')
        | _ => (false, r)
      let ds := r'.takeWhile Char.isDigit
      if ds.isEmpty then (none, s)
      else
        let n : Int := digitsValue ds
        (some (if neg then -n else n), r'.dropWhile Char.isDigit)
    else (none, s)
  | [] => (none, s)

/-- The whole part of a numeral: a zero alone, or digits that do not begin with one. -/
def readWhole? (s : List Char) : Option (List Char × List Char) :=
  match s with
  | '0' :: r => some (['0'], r)
  | c :: _ => if c.isDigit then some (s.takeWhile Char.isDigit, s.dropWhile Char.isDigit) else none
  | [] => none

/-- A numeral; it is a float as soon as it has a fraction or an exponent. -/
def readNumber (limits : Limits) (s : List Char) : Step Json :=
  let (neg, r) := match s with
    | '-' :: r => (true, r)
    | _ => (false, s)
  match readWhole? r with
  | none => .error ⟨.noValue, s⟩
  | some (whole, r) =>
    let (fraction, r) := readFraction r
    let (exponent, r) := readExponent r
    if fraction.isEmpty && exponent.isNone then
      if limits.digits < whole.length then .error ⟨.longNumber, s⟩
      else
        let n : Int := digitsValue whole
        .ok (.ofInt (if neg then -n else n), r)
    else
      let x := Rounding.ofDecimal (digitsValue (whole ++ fraction)) (exponent.getD 0 - fraction.length)
      .ok (.num (.float (if neg then -x else x)), r)

def dropWord? : List Char → List Char → Option (List Char)
  | [], s => some s
  | w :: ws, c :: s => if w == c then dropWord? ws s else none
  | _ :: _, [] => none

def constants : List (List Char × Json) := [
  ("null".toList, .null), ("true".toList, .bool true), ("false".toList, .bool false),
  ("NaN".toList, .num (.float (0.0 / 0.0))), ("Infinity".toList, .num (.float (1.0 / 0.0))),
  ("-Infinity".toList, .num (.float (-1.0 / 0.0)))]

def readConstant? (s : List Char) : Option (Json × List Char) :=
  constants.findSome? fun (w, v) => (dropWord? w s).map (v, ·)

mutual
/-- One value at the start of the text, without blanks before it; `depth` says how many lists and tables
may still be opened. -/
def readValue (limits : Limits) : Nat → Nat → List Char → Step Json
  | 0, _, s => .error ⟨.noValue, s⟩
  | fuel + 1, depth, s =>
    match s with
    | '"' :: r =>
      match readText s s r [] with
      | .ok (t, r) => .ok (.str t, r)
      | .error e => .error e
    | '[' :: r =>
      if depth = 0 then .error ⟨.tooDeep, s⟩
      else
        match skipSpacing r with
        | ']' :: r => .ok (.arr [], r)
        | r => readItems limits fuel (depth - 1) r []
    | '{' :: r =>
      if depth = 0 then .error ⟨.tooDeep, s⟩
      else
        match skipSpacing r with
        | '}' :: r => .ok (.obj [], r)
        | r => readFields limits fuel (depth - 1) r []
    | s =>
      match readConstant? s with
      | some found => .ok found
      | none => readNumber limits s

def readItems (limits : Limits) : Nat → Nat → List Char → List Json → Step Json
  | 0, _, s, _ => .error ⟨.noValue, s⟩
  | fuel + 1, depth, s, out =>
    match readValue limits fuel depth s with
    | .error e => .error e
    | .ok (v, r) =>
      match skipSpacing r with
      | ',' :: r => readItems limits fuel depth (skipSpacing r) (v :: out)
      | ']' :: r => .ok (.arr (v :: out).reverse, r)
      | r => .error ⟨.noComma, r⟩

def readFields (limits : Limits) : Nat → Nat → List Char → List (String × Json) → Step Json
  | 0, _, s, _ => .error ⟨.noName, s⟩
  | fuel + 1, depth, s, out =>
    match s with
    | '"' :: r =>
      match readText s s r [] with
      | .error e => .error e
      | .ok (k, r) =>
        match skipSpacing r with
        | ':' :: r =>
          match readValue limits fuel depth (skipSpacing r) with
          | .error e => .error e
          | .ok (v, r) =>
            match skipSpacing r with
            | ',' :: r => readFields limits fuel depth (skipSpacing r) ((k, v) :: out)
            | '}' :: r => .ok (.obj (Fields.ofList ((k, v) :: out).reverse), r)
            | r => .error ⟨.noComma, r⟩
        | r => .error ⟨.noColon, r⟩
    | s => .error ⟨.noName, s⟩
end

/-- The value that a text spells, or what is wrong with it, within limits. -/
def readWithin (limits : Limits) (s : List Char) : Except ReadError Json :=
  if s.head? = some '\ufeff' then .error ⟨.byteOrderMark, s⟩
  else
    match readValue limits (2 * s.length + 2) limits.depth (skipSpacing s) with
    | .error e => .error e
    | .ok (v, r) =>
      match skipSpacing r with
      | [] => .ok v
      | r => .error ⟨.surplus, r⟩

def read (s : String) : Except ReadError Json :=
  readWithin .usual s.toList

/-- The value that a text spells, if it spells one; what goes beyond the limits is a misfit. -/
def parse (s : List Char) (limits : Limits := .usual) : Except Misfit (Option Json) :=
  match readWithin limits s with
  | .ok v => .ok (some v)
  | .error e =>
    match e.problem.misfit? with
    | some m => .error m
    | none => .ok none

end ShapeSearch.Json
