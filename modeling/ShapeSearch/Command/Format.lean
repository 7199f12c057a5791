import ShapeSearch.Command.Escape
import ShapeSearch.Command.Files

/-!
# Formats

A format is a text with directives, each of which prints an argument.  A format is used again while
arguments are left.
-/

namespace ShapeSearch.Command

structure Directive where
  flags : Bytes
  width : Nat
  left : Bool
  precision : Option Nat
  conversion : Char

namespace Directive

def has (d : Directive) (c : Char) : Bool := d.flags.contains c

def pad (d : Directive) (s : Bytes) : Bytes :=
  let fill := List.replicate (d.width - s.length) ' '
  if d.left then s ++ fill else fill ++ s

def padNumber (d : Directive) (zeros : Bool) (sign digits : Bytes) : Bytes :=
  if zeros && d.has '0' && !d.left then
    sign ++ List.replicate (d.width - sign.length - digits.length) '0' ++ digits
  else d.pad (sign ++ digits)

def text (d : Directive) (s : Bytes) : Bytes :=
  d.pad (match d.precision with
    | some n => s.take n
    | none => s)

def plusSign (d : Directive) : Bytes :=
  if d.has '+' then ['+'] else if d.has ' ' then [' '] else []

/-- Digits with at least the places that a directive asks for. -/
def places (d : Directive) (digits : Bytes) : Bytes :=
  match d.precision with
  | none => digits
  | some 0 => if digits == ['0'] then [] else digits
  | some n => List.replicate (n - digits.length) '0' ++ digits

def int (d : Directive) (n : Int) : Bytes :=
  d.padNumber d.precision.isNone (if n < 0 then ['-'] else d.plusSign) (d.places (Bytes.ofNat n.natAbs))

def nat (d : Directive) (n : Nat) : Bytes :=
  match d.conversion with
  | 'o' =>
    let digits := d.places (Nat.toDigits 8 n)
    let digits := if d.has '#' && digits.head? != some '0' then '0' :: digits else digits
    d.padNumber d.precision.isNone [] digits
  | 'x' => d.padNumber d.precision.isNone (if d.has '#' && n != 0 then ['0', 'x'] else [])
      (d.places (Nat.toDigits 16 n))
  | 'X' => d.padNumber d.precision.isNone (if d.has '#' && n != 0 then ['0', 'X'] else [])
      (d.places ((Nat.toDigits 16 n).map Char.toUpper))
  | _ => d.padNumber d.precision.isNone [] (d.places (Bytes.ofNat n))

/-- The digits of a number with a mark for its power of ten. -/
def marked (mantissa : List Nat) (point : Bool) (exponent : Int) : Bytes :=
  let body := match mantissa with
    | [] => ['0']
    | a :: [] => Decimal.digitChar a :: (if point then ['.'] else [])
    | a :: r => Decimal.digitChar a :: '.' :: r.map Decimal.digitChar
  body ++ (Decimal.exponentText exponent).toList

/-- Digits to a given number of significant places, with zeros, and the power of ten of the first. -/
def significantDigits (n m : Nat) (q : Int) : List Nat × Int :=
  if m == 0 then (List.replicate n 0, 0)
  else
    let ds := Decimal.significant n m q
    (ds.digits ++ List.replicate (n - ds.digits.length) 0, ds.point - 1)

/-- A finite number that is not negative as a directive prints it, without sign. -/
def magnitude (d : Directive) (m : Nat) (q : Int) : Bytes :=
  let n := d.precision.getD 6
  match d.conversion.toLower with
  | 'f' => (Decimal.placesText n (Decimal.fixed n m q)).toList ++ (if n == 0 && d.has '#' then ['.'] else [])
  | 'e' =>
    let (ds, e) := significantDigits (n + 1) m q
    marked ds (d.has '#') e
  | _ =>
    let n := max n 1
    let (ds, e) := significantDigits n m q
    let short := if d.has '#' then ds else
      match Decimal.dropTrailingZeros ds with
      | [] => [0]
      | ds => ds
    if e < -4 || (n : Int) ≤ e then marked short false e
    else if e < 0 then
      ('0' :: '.' :: List.replicate (-e - 1).toNat '0') ++ short.map Decimal.digitChar
    else
      let whole := ds.take (e.toNat + 1)
      let part := short.drop (e.toNat + 1)
      whole.map Decimal.digitChar ++ (if part.isEmpty then [] else '.' :: part.map Decimal.digitChar)

def float (d : Directive) (x : Float) : Bytes :=
  let sign := if (Number.floatFields x).1 then ['-'] else d.plusSign
  let shape (s : Bytes) : Bytes := if d.conversion.isUpper then s.map Char.toUpper else s
  match Number.exactFloat x with
  | .undefined => d.pad (sign ++ shape "nan".toList)
  | .posInf => d.pad (sign ++ shape "inf".toList)
  | .negInf => d.pad (sign ++ shape "inf".toList)
  | .finite m q => d.padNumber true sign (shape (d.magnitude m.natAbs q))

end Directive

inductive NumberFault where
  | none
  | noNumber
  | trailing
  | outOfRange

def isNumberBlank (c : Char) : Bool := c == ' ' || ('\t' ≤ c && c ≤ '\r')

def takeSign : Bytes → Bool × Bytes
  | '-' :: r => (true, r)
  | '+' :: r => (false, r)
  | r => (false, r)

def takeBase (base : Nat) : Bytes → Nat → Nat × Bytes
  | [], v => (v, [])
  | c :: r, v =>
    match Text.hexValue? c with
    | some d => if d < base then takeBase base r (base * v + d) else (v, c :: r)
    | none => (v, c :: r)

/-- A whole number in an argument; `signed` says that the result may be negative. -/
def argumentNumber (signed : Bool) (s : Bytes) : Int × NumberFault :=
  match s with
  | '"' :: c :: _ => (c.toNat, .none)
  | '\'' :: c :: _ => (c.toNat, .none)
  | '"' :: [] => (0, .none)
  | '\'' :: [] => (0, .none)
  | _ =>
    let (negative, t) := takeSign (s.dropWhile isNumberBlank)
    if t.head?.any Char.isDigit then
      let (v, rest) := match t with
        | '0' :: x :: d :: r =>
          if (x == 'x' || x == 'X') && (Text.hexValue? d).isSome then takeBase 16 (d :: r) 0 else takeBase 8 t 0
        | '0' :: _ => takeBase 8 t 0
        | _ => takeBase 10 t 0
      let n : Int := if negative then -v else v
      let low : Int := if signed then -9223372036854775808 else -18446744073709551615
      let high : Int := if signed then 9223372036854775807 else 18446744073709551615
      let value := if n < low then (if signed then low else 18446744073709551615) else if high < n then high else n
      (value, if !rest.isEmpty then .trailing else if n < low || high < n then .outOfRange else .none)
    else (0, if s.isEmpty then .none else .noNumber)

/-- The longest number with decimals at the start of a text. -/
def argumentFloat (s : Bytes) : Float × NumberFault :=
  match s with
  | '"' :: c :: _ => (c.toNat.toFloat, .none)
  | '\'' :: c :: _ => (c.toNat.toFloat, .none)
  | [] => (0.0, .none)
  | _ =>
    let cuts := (List.range (s.length + 1)).reverse
    let isSpelled (c : Char) : Bool := c != '_'
    match cuts.findSome? fun n =>
        let start := s.take n
        if start.all isSpelled && !(start.getLast?.any isNumberBlank) then
          (Text.readFloat? (String.ofList start)).map (n, ·)
        else none with
    | some (n, x) => (x, if n == s.length then .none else .trailing)
    | none => (0.0, .noNumber)

structure Formatting where
  args : List Bytes
  /-- what is printed, last first -/
  printed : List (Stream × Bytes) := []
  status : Nat := 0
  /-- whether an argument has been used -/
  used : Bool := false

structure Complaints where
  dialect : Dialect
  textDialect : Dialect
  number : NumberFault → Bytes → Bytes
  directive : Bytes → Bytes
  /-- the status after such a complaint -/
  directiveStatus : Nat
  unfinished : Bytes → Bytes
  /-- a text with quotes where a shell needs them, if there is a directive for it -/
  quoted? : Option (Bytes → Bytes) := none

namespace Formatting

def put (f : Formatting) (bs : Bytes) : Formatting :=
  match f.printed with
  | (.output, done) :: r => { f with printed := (.output, bs.reverse ++ done) :: r }
  | r => { f with printed := (.output, bs.reverse) :: r }

def complain (f : Formatting) (status : Nat) (message : Bytes) : Formatting :=
  { f with printed := (.errors, (message ++ ['\n']).reverse) :: f.printed, status }

def next (f : Formatting) : Option Bytes × Formatting :=
  (f.args.head?, { f with args := f.args.tail, used := f.used || !f.args.isEmpty })

def nextNumber (c : Complaints) (signed : Bool) (f : Formatting) : Int × Formatting :=
  match f.next with
  | (none, f) => (0, f)
  | (some a, f) =>
    let (n, fault) := argumentNumber signed a
    (n, match fault with
      | .none => f
      | fault => f.complain 1 (c.number fault a))

def nextFloat (c : Complaints) (f : Formatting) : Float × Formatting :=
  match f.next with
  | (none, f) => (0.0, f)
  | (some a, f) =>
    let (x, fault) := argumentFloat a
    (x, match fault with
      | .none => f
      | fault => f.complain 1 (c.number fault a))

end Formatting

/-- A width or number of places, which may be taken from the arguments; nothing if none is given. -/
def takeCount (c : Complaints) (s : Bytes) (f : Formatting) : Option Int × Bytes × Formatting :=
  match s with
  | '*' :: r =>
    let (n, f) := f.nextNumber c true
    (some n, r, f)
  | _ =>
    let digits := s.takeWhile Char.isDigit
    (if digits.isEmpty then none else some (Bytes.digitsValue digits), s.dropWhile Char.isDigit, f)

/-- Print an argument by a directive; `false` says that nothing is printed after it. -/
def printDirective (c : Complaints) (d : Directive) (f : Formatting) : Option (Formatting × Bool) :=
  match d.conversion with
  | 's' =>
    let (a, f) := f.next
    some (f.put (d.text (a.getD [])), true)
  | 'b' =>
    let (a, f) := f.next
    let (text, more) := unescape c.textDialect (a.getD [])
    some (f.put (d.text text), more)
  | 'c' =>
    let (a, f) := f.next
    some (f.put (d.pad [(a.getD []).headD '\x00']), true)
  | 'd' =>
    let (n, f) := f.nextNumber c true
    some (f.put (d.int n), true)
  | 'i' =>
    let (n, f) := f.nextNumber c true
    some (f.put (d.int n), true)
  | _ =>
    if "ouxX".toList.contains d.conversion then
      let (n, f) := f.nextNumber c false
      some (f.put (d.nat (n % 18446744073709551616).toNat), true)
    else if "eEfFgG".toList.contains d.conversion then
      let (x, f) := f.nextFloat c
      some (f.put (d.float x), true)
    else
      match c.quoted?, d.conversion with
      | some quote, 'q' =>
        let (a, f) := f.next
        some (f.put (d.text (quote (a.getD []))), true)
      | _, _ => none

inductive Ending where
  | done
  /-- everything is printed -/
  | stopped
deriving DecidableEq

/-- One use of a format; `fuel` is at least its length. -/
def formatOnce (c : Complaints) : Nat → Bytes → Formatting → Formatting × Ending
  | 0, _, f => (f, .done)
  | _, [], f => (f, .done)
  | fuel + 1, '\\' :: r, f =>
    match escape? c.dialect r with
    | none => (f, .stopped)
    | some (bs, r) => formatOnce c fuel r (f.put bs)
  | fuel + 1, '%' :: '%' :: r, f => formatOnce c fuel r (f.put ['%'])
  | fuel + 1, '%' :: r, f =>
    let isFlag (x : Char) : Bool := "#-+ 0".toList.contains x
    let flags := r.takeWhile isFlag
    let (width, s, f) := takeCount c (r.dropWhile isFlag) f
    let (precision, s, f) := match s with
      | '.' :: s =>
        let (n, s, f) := takeCount c s f
        (some (n.getD 0), s, f)
      | _ => ((none : Option Int), s, f)
    match s with
    | [] => (f.complain c.directiveStatus (c.unfinished ('%' :: r)), .stopped)
    | x :: s =>
      let d : Directive := {
        flags, width := (width.getD 0).natAbs, left := flags.contains '-' || width.any (· < 0)
        precision := precision.bind fun n => if n < 0 then none else some n.toNat
        conversion := x }
      match printDirective c d f with
      | some (f, true) => formatOnce c fuel s f
      | some (f, false) => (f, .stopped)
      | none =>
        let shown := '%' :: r.take (r.length - s.length)
        (f.complain c.directiveStatus (c.directive shown), .stopped)
  | fuel + 1, x :: r, f => formatOnce c fuel r (f.put [x])

def formatAll (c : Complaints) (format : Bytes) : Nat → Formatting → Formatting
  | 0, f => f
  | n + 1, f =>
    let (f', ending) := formatOnce c format.length format { f with used := false }
    if ending = .stopped || f'.args.isEmpty || !f'.used then f' else formatAll c format n f'

/-- What a format prints with some arguments, and the arguments it does not use. -/
def printFormat (c : Complaints) (format : Bytes) (args : List Bytes) : Reply × List Bytes :=
  let f := formatAll c format (args.length + 1) { args }
  ({ status := f.status, printed := (f.printed.map fun (s, bs) => (s, bs.reverse)).reverse }, f.args)

/-- What the shell prints for its arguments: blanks between them, and a line end unless told not to. -/
def shellEcho (args : List Bytes) : Bytes :=
  let (newline, args) := match args with
    | ['-', 'n'] :: r => (false, r)
    | _ => (true, args)
  go newline args
where
  go (newline : Bool) : List Bytes → Bytes
    | [] => if newline then ['\n'] else []
    | a :: r =>
      let (text, more) := unescape .shellText a
      if !more then text
      else
        match r with
        | [] => if newline then text ++ ['\n'] else text
        | b :: r => text ++ ' ' :: go newline (b :: r)

/-- The options of the printing program: no line end, and whether backslash sequences are read. -/
def echoOptions (newline escapes : Bool) : List Bytes → Bool × Bool × List Bytes
  | ('-' :: o :: os) :: r =>
    if (o :: os).all fun c => c == 'n' || c == 'e' || c == 'E' then
      let escapes := (o :: os).foldl (fun e c => if c == 'e' then true else if c == 'E' then false else e)
        escapes
      echoOptions (newline && !(o :: os).contains 'n') escapes r
    else (newline, escapes, ('-' :: o :: os) :: r)
  | r => (newline, escapes, r)

def programEcho (args : List Bytes) : Bytes :=
  let (newline, escapes, args) := echoOptions true false args
  let text := Bytes.joined [' '] args
  if escapes then
    let (out, more) := unescape .programEcho text
    if more && newline then out ++ ['\n'] else out
  else if newline then text ++ ['\n'] else text

end ShapeSearch.Command
