import ShapeSearch.Rounding
import ShapeSearch.Text.Blank
import ShapeSearch.Text.Letter

/-!
# Numbers written by people

`readInt?` and `readFloat?` read a number with blanks around it, an optional sign, digits of any script
and single underscores between digits.  The separators of files, groups, records and units do not count
as blanks here, and a whole number has at most `digitLimit` digits.
-/

namespace ShapeSearch.Text

def digitLimit : Nat := 4300

def isNumberBlank (c : Char) : Bool :=
  isAsciiBlank c || (127 < c.toNat && isBlank c)

def trimNumeral (s : List Char) : List Char :=
  ((s.dropWhile isNumberBlank).reverse.dropWhile isNumberBlank).reverse

/-- Decimal digits with single underscores between them: their values, and the rest. -/
def readDigits : List Char → List Nat × List Char
  | [] => ([], [])
  | '_' :: r => ([], '_' :: r)
  | c :: r =>
    match decimalValue? c with
    | none => ([], c :: r)
    | some d =>
      match r with
      | '_' :: e :: r' =>
        if isDecimal e then
          let (ds, rest) := readDigits (e :: r')
          (d :: ds, rest)
        else ([d], r)
      | r =>
        let (ds, rest) := readDigits r
        (d :: ds, rest)

def digitsNumber (ds : List Nat) : Nat :=
  ds.foldl (fun n d => n * 10 + d) 0

def readSign : List Char → Bool × List Char
  | '-' :: r => (true, r)
  | '+' :: r => (false, r)
  | r => (false, r)

def readInt? (s : String) : Option Int :=
  let (neg, r) := readSign (trimNumeral s.toList)
  match readDigits r with
  | ([], _) => none
  | (ds, []) =>
    if digitLimit < ds.length then none
    else
      let n : Int := digitsNumber ds
      some (if neg then -n else n)
  | _ => none

/-- Words that are numbers, in lower case. -/
def numberWord? (s : List Char) : Option Float :=
  let w := String.ofList (s.map Char.toLower)
  if w = "inf" || w = "infinity" then some (1.0 / 0.0)
  else if w = "nan" then some (0.0 / 0.0)
  else none

def readPart (s : List Char) : List Nat × List Char :=
  match s with
  | '.' :: r => readDigits r
  | r => ([], r)

/-- An exponent with at least one digit, or nothing to read. -/
def readPower? (s : List Char) : Option (Int × List Char) :=
  match s with
  | [] => some (0, [])
  | e :: r =>
    if e == 'e' || e == 'E' then
      let (neg, r) := readSign r
      match readDigits r with
      | ([], _) => none
      | (ds, rest) =>
        let n : Int := digitsNumber ds
        some (if neg then -n else n, rest)
    else some (0, s)

def readFloat? (s : String) : Option Float :=
  let (neg, r) := readSign (trimNumeral s.toList)
  let unsigned : Option Float :=
    match numberWord? r with
    | some x => some x
    | none =>
      let (whole, r) := readDigits r
      let (part, r) := readPart r
      if whole.isEmpty && part.isEmpty then none
      else
        match readPower? r with
        | some (e, []) =>
          some (Rounding.ofDecimal (digitsNumber (whole ++ part)) (e - part.length))
        | _ => none
  unsigned.map fun x => if neg then -x else x

end ShapeSearch.Text
