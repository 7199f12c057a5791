import ShapeSearch.Text.Normal.Tables
import ShapeSearch.Text.Packed.Code
import Std.Data.HashMap

/-!
# One form for names

Names that look alike can be written with different characters; `normalName` brings them into one form.
Every character is taken apart (`decompose`), the marks behind a character are put in order (`reorder`),
and what can be combined again is combined (`compose`).

Three tables say how.  In an entry of the first, a character is followed by `=` and the characters it stands
for; in one of the second, a mark by `=` and its place, and marks of a lower place come first.  There `*` gives
the length of a run of characters, and a character right after those of the entry before is left out.  The
third lists the pairs that make up one character: the second of the pair between `@` and `:`, unless it is
that of the entry before, then the first, `=`, and the character made.  Korean syllables are not listed.
-/

namespace ShapeSearch.Text

namespace Normal

/-- What characters come down to, and the other two tables. -/
def parts : Thunk (List Char × List Char) :=
  .mk fun _ => Packed.splitAt '|' (Packed.expand tablesLength compressedTables)

/-- The places of marks, and the pairs. -/
def markParts : Thunk (List Char × List Char) :=
  .mk fun _ => Packed.splitAt '|' parts.get.2

/-- The first number, the length and the rest of an entry, `first*length=rest`; the first is `next` where
it is left out, and the length one. -/
def readRun (next : Nat) (entry : List Char) : Nat × Nat × List Char :=
  let (key, rest) := Packed.splitAt '=' entry
  let (first, length) := Packed.splitAt '*' key
  (if first.isEmpty then next else Packed.number first,
    if length.isEmpty then 1 else Packed.number length, rest)

def readSum (s : List Char) : List Nat :=
  ((String.ofList s).splitOn "+").map fun t => Packed.number t.toList

def addDecomposition (acc : Nat × Std.HashMap Nat (List Nat)) (entry : List Char) :
    Nat × Std.HashMap Nat (List Nat) :=
  let (first, length, rest) := readRun acc.1 entry
  (first + length, match readSum rest with
    | [n] => (List.range length).foldl (fun m i => m.insert (first + i) [n + i]) acc.2
    | ns => acc.2.insert first ns)

def decompositions : Thunk (Std.HashMap Nat (List Nat)) :=
  .mk fun _ => ((Packed.entries parts.get.1).foldl addDecomposition (0, {})).2

def addOrder (acc : Nat × Std.HashMap Nat Nat) (entry : List Char) : Nat × Std.HashMap Nat Nat :=
  let (first, length, rest) := readRun acc.1 entry
  (first + length,
    (List.range length).foldl (fun m i => m.insert (first + i) (Packed.number rest)) acc.2)

def orders : Thunk (Std.HashMap Nat Nat) :=
  .mk fun _ => ((Packed.entries markParts.get.1).foldl addOrder (0, {})).2

def addPair (acc : Nat × Std.HashMap (Nat × Nat) Nat) (entry : List Char) :
    Nat × Std.HashMap (Nat × Nat) Nat :=
  let (second, entry) := match entry with
    | '@' :: r =>
      let (digits, rest) := Packed.splitAt ':' r
      (Packed.number digits, rest)
    | r => (acc.1, r)
  let (first, whole) := Packed.splitAt '=' entry
  (second, acc.2.insert (Packed.number first, second) (Packed.number whole))

def pairs : Thunk (Std.HashMap (Nat × Nat) Nat) :=
  .mk fun _ => ((Packed.entries markParts.get.2).foldl addPair (0, {})).2

/-- The place of a mark; zero for any other character. -/
def order (n : Nat) : Nat :=
  orders.get.getD n 0

def decomposeSyllable (n : Nat) : List Nat :=
  let i := n - 0xac00
  let t := i % 28
  [0x1100 + i / 588, 0x1161 + i % 588 / 28] ++ if t = 0 then [] else [0x11a7 + t]

def decompose (n : Nat) : List Nat :=
  if 0xac00 ≤ n && n < 0xd7a4 then decomposeSyllable n else decompositions.get.getD n [n]

/-- Put a mark behind those of its place or a lower one; `marks` holds the last mark first. -/
def insertMark (n : Nat) : List Nat → List Nat
  | [] => [n]
  | m :: r => if order n < order m then m :: insertMark n r else n :: m :: r

/-- The marks behind every other character in order; `marks` holds those of the last one, last first. -/
def reorder (marks : List Nat) : List Nat → List Nat
  | [] => marks.reverse
  | n :: r =>
    if order n = 0 then marks.reverse ++ n :: reorder [] r else reorder (insertMark n marks) r

def combine? (a b : Nat) : Option Nat :=
  if 0x1100 ≤ a && a < 0x1113 && 0x1161 ≤ b && b < 0x1176 then
    some (0xac00 + ((a - 0x1100) * 21 + (b - 0x1161)) * 28)
  else if 0xac00 ≤ a && a < 0xd7a4 && (a - 0xac00) % 28 = 0 && 0x11a7 < b && b < 0x11c3 then
    some (a + (b - 0x11a7))
  else pairs.get[(a, b)]?

/-- Combine characters after a start with it: `passed` holds the characters since it that stay, last
first, and `last` the place of the last of them. -/
def composeFrom (start : Nat) (passed : List Nat) (last : Nat) : List Nat → List Nat
  | [] => start :: passed.reverse
  | n :: r =>
    let o := order n
    let reaches := passed.isEmpty || (last != 0 && last < o)
    match if reaches then combine? start n else none with
    | some whole => composeFrom whole passed last r
    | none =>
      if o = 0 then start :: passed.reverse ++ composeFrom n [] 0 r
      else composeFrom start (n :: passed) o r

def compose : List Nat → List Nat
  | [] => []
  | n :: r => if order n = 0 then composeFrom n [] 0 r else n :: compose r

end Normal

/-- A name in its one form. -/
def normalName (w : List Char) : List Char :=
  if w.all fun c => c.toNat < 128 then w
  else
    let parts := (w.map Char.toNat).flatMap Normal.decompose
    (Normal.compose (Normal.reorder [] parts)).map Char.ofNat

end ShapeSearch.Text
