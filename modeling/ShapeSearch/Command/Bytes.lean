/-!
# Bytes

Commands read and write bytes.  A byte is kept as the character of that number, so that the text of a
script can be matched like any other; `encode` and `decode?` go between texts and the bytes that stand
for them.
-/

namespace ShapeSearch.Command

/-- Bytes, each as the character of that number. -/
abbrev Bytes := List Char

namespace Bytes

def encode (s : String) : Bytes :=
  s.toUTF8.toList.map fun b => Char.ofNat b.toNat

def decode? (bs : Bytes) : Option String :=
  String.fromUTF8? ⟨(bs.map fun c => c.toNat.toUInt8).toArray⟩

def ofNumber (n : Nat) : Char := Char.ofNat (n % 256)

/-- The lines of some bytes, last first; `line` is the current one, last byte first. -/
def linesFrom : List Bytes → Bytes → Bytes → List Bytes
  | done, line, [] => if line.isEmpty then done else line.reverse :: done
  | done, line, c :: r =>
    if c == '\n' then linesFrom (line.reverse :: done) [] r else linesFrom done (c :: line) r

/-- The lines of some bytes, without their ends; a line end at the end starts no new line. -/
def lines (bs : Bytes) : List Bytes := (linesFrom [] [] bs).reverse

def endsLine (bs : Bytes) : Bool := bs.getLast? == some '\n'

def ofLines (ls : List Bytes) : Bytes := ls.flatMap (· ++ ['\n'])

def trimLineEnds (bs : Bytes) : Bytes := (bs.reverse.dropWhile (· == '\n')).reverse

def ofNat (n : Nat) : Bytes := (toString n).toList

def ofInt (n : Int) : Bytes := if n < 0 then '-' :: ofNat n.natAbs else ofNat n.natAbs

def digitsValue (ds : Bytes) : Nat := ds.foldl (fun n c => n * 10 + (c.toNat - 48)) 0

def nat? (bs : Bytes) : Option Nat :=
  if bs.isEmpty || !bs.all Char.isDigit then none else some (digitsValue bs)

def joined (sep : Bytes) : List Bytes → Bytes
  | [] => []
  | [w] => w
  | w :: r => w ++ sep ++ joined sep r

end Bytes

end ShapeSearch.Command
