import ShapeSearch.Decimal.Layout
import ShapeSearch.Json.Value
import ShapeSearch.Text.Numeral
import ShapeSearch.Text.Letter

/-!
# Writing structured values

Two written forms are in use.  `Json.write` is the stored and exchanged form: ASCII only, on one line
or indented.  `Json.literal` is the form of values inside messages: texts in single quotes unless
that needs more escapes, and the words `None`, `True` and `False`.
-/

namespace ShapeSearch.Json

/-- The decisions of the stored form. -/
structure Style where
  /-- blanks per level; on one line if absent -/
  indent : Option Nat := none
  itemSeparator : String := ", "
  nameSeparator : String := ": "

/-- One line with blanks after commas and colons. -/
def Style.line : Style := {}

def Style.compact : Style := { itemSeparator := ",", nameSeparator := ":" }

def Style.indented (n : Nat) : Style := { indent := some n, itemSeparator := "," }

def hexDigit (n : Nat) : Char :=
  if n < 10 then Char.ofNat (48 + n) else Char.ofNat (87 + n)

def hexText (n : Nat) (v : Nat) : List Char :=
  (List.range n).map fun i => hexDigit (v / Nat.pow 16 (n - 1 - i) % 16)

def unitEscape (v : Nat) : List Char :=
  '\\' :: 'u' :: hexText 4 v

def escapeChar (c : Char) : List Char :=
  if c == '"' then ['\\', '"']
  else if c == '\\' then ['\\', '\\']
  else if c == '\n' then ['\\', 'n']
  else if c == '\r' then ['\\', 'r']
  else if c == '\t' then ['\\', 't']
  else if c == '\x08' then ['\\', 'b']
  else if c == '\x0c' then ['\\', 'f']
  else if 32 ≤ c.toNat && c.toNat < 127 then [c]
  else if c.toNat < 0x10000 then unitEscape c.toNat
  else
    let v := c.toNat - 0x10000
    unitEscape (0xd800 + v / 0x400) ++ unitEscape (0xdc00 + v % 0x400)

def quote (s : String) : String :=
  "\"" ++ String.ofList (s.toList.flatMap escapeChar) ++ "\""

def numberText (n : Number) : String :=
  match n.exact with
  | .undefined => "NaN"
  | .posInf => "Infinity"
  | .negInf => "-Infinity"
  | .finite _ _ => Decimal.plain n

mutual
/-- Whether no whole number in a value is too long to be written. -/
def isWritable : Json → Bool
  | .num (.int n) => (Decimal.natText n.natAbs).length ≤ Text.digitLimit
  | .arr xs => itemsWritable xs
  | .obj fs => fieldsWritable fs
  | _ => true

def itemsWritable : List Json → Bool
  | [] => true
  | x :: r => isWritable x && itemsWritable r

def fieldsWritable : List (String × Json) → Bool
  | [] => true
  | (_, x) :: r => isWritable x && fieldsWritable r
end

def Style.lineBreak (st : Style) (level : Nat) : String :=
  match st.indent with
  | none => ""
  | some n => "\n" ++ String.ofList (List.replicate (n * level) ' ')

mutual
def writeAt (st : Style) (level : Nat) : Json → String
  | .null => "null"
  | .bool b => if b then "true" else "false"
  | .num n => numberText n
  | .str s => quote s
  | .arr [] => "[]"
  | .arr (x :: xs) =>
    "[" ++ st.lineBreak (level + 1) ++ writeAt st (level + 1) x ++ writeItems st (level + 1) xs ++
      st.lineBreak level ++ "]"
  | .obj [] => "\x7b\x7d"
  | .obj ((k, x) :: fs) =>
    "\x7b" ++ st.lineBreak (level + 1) ++ quote k ++ st.nameSeparator ++
      writeAt st (level + 1) x ++ writeFields st (level + 1) fs ++ st.lineBreak level ++ "\x7d"

def writeItems (st : Style) (level : Nat) : List Json → String
  | [] => ""
  | x :: xs =>
    st.itemSeparator ++ st.lineBreak level ++ writeAt st level x ++ writeItems st level xs

def writeFields (st : Style) (level : Nat) : List (String × Json) → String
  | [] => ""
  | (k, x) :: fs =>
    st.itemSeparator ++ st.lineBreak level ++ quote k ++ st.nameSeparator ++ writeAt st level x ++
      writeFields st level fs
end

def write (st : Style) (v : Json) : String :=
  writeAt st 0 v

/-- The stored form of a value, unless a number in it is too long. -/
def writeChecked (st : Style) (v : Json) : Except Misfit String :=
  if v.isWritable then .ok (v.write st) else .error .badValue

def literalChar (mark : Char) (c : Char) : List Char :=
  if c == mark || c == '\\' then ['\\', c]
  else if c == '\n' then ['\\', 'n']
  else if c == '\r' then ['\\', 'r']
  else if c == '\t' then ['\\', 't']
  else if Text.isPrintable c then [c]
  else if c.toNat < 0x100 then '\\' :: 'x' :: hexText 2 c.toNat
  else if c.toNat < 0x10000 then unitEscape c.toNat
  else '\\' :: 'U' :: hexText 8 c.toNat

/-- A text in single quotes, or in double quotes if it holds single quotes and no double ones. -/
def literalText (s : String) : String :=
  let cs := s.toList
  let mark := if cs.contains '\'' && !cs.contains '"' then '"' else '\''
  String.ofList (mark :: cs.flatMap (literalChar mark) ++ [mark])

mutual
/-- A value as it stands in a message. -/
def literal : Json → String
  | .null => "None"
  | .bool b => if b then "True" else "False"
  | .num n => Decimal.plain n
  | .str s => literalText s
  | .arr xs => "[" ++ literalItems xs ++ "]"
  | .obj fs => "\x7b" ++ literalFields fs ++ "\x7d"

def literalItems : List Json → String
  | [] => ""
  | [x] => literal x
  | x :: y :: r => literal x ++ ", " ++ literalItems (y :: r)

def literalFields : List (String × Json) → String
  | [] => ""
  | [(k, x)] => literalText k ++ ": " ++ literal x
  | (k, x) :: y :: r => literalText k ++ ": " ++ literal x ++ ", " ++ literalFields (y :: r)
end

mutual
/-- What stops a value from being shown in a message: a whole number with too many digits, or a value that
stands too deep, whichever comes first. -/
def shownWithin (digits : Nat) : Nat → Json → Except Misfit Unit
  | 0, _ => .error .tooDeep
  | _ + 1, .num (.int n) =>
    if digits < (Decimal.natText n.natAbs).length then .error .badValue else .ok ()
  | room + 1, .arr xs => itemsShown digits room xs
  | room + 1, .obj fs => fieldsShown digits room fs
  | _ + 1, _ => .ok ()

def itemsShown (digits room : Nat) : List Json → Except Misfit Unit
  | [] => .ok ()
  | x :: r => do
    shownWithin digits room x
    itemsShown digits room r

def fieldsShown (digits room : Nat) : List (String × Json) → Except Misfit Unit
  | [] => .ok ()
  | (_, x) :: r => do
    shownWithin digits room x
    fieldsShown digits room r
end

/-- Whether a value can be shown in a message, or what stops it. -/
def shown (limits : Limits) (v : Json) : Except Misfit Unit :=
  shownWithin limits.digits limits.steps v

/-- A value as text: a text as it is, any other value as its literal. -/
def display : Json → String
  | .str s => s
  | v => literal v

end ShapeSearch.Json
