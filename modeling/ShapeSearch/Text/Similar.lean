/-!
# Words that look alike

The similarity of two words is twice the number of characters they share over the number of characters
they have.  Shared characters are counted by taking the longest common piece, and then what the parts
before it and after it share.
-/

namespace ShapeSearch.Text

def commonStart : List Char → List Char → Nat
  | a :: r, b :: s => if a == b then commonStart r s + 1 else 0
  | _, _ => 0

structure CommonPiece where
  left : Nat := 0
  right : Nat := 0
  size : Nat := 0

/-- The longest piece of the second word that the first begins with, if longer than the best so far. -/
def longestAt (a : List Char) (i : Nat) : List Char → Nat → CommonPiece → CommonPiece
  | [], _, best => best
  | b :: s, j, best =>
    let n := commonStart a (b :: s)
    longestAt a i s (j + 1) (if best.size < n then ⟨i, j, n⟩ else best)

def longestPiece (b : List Char) : List Char → Nat → CommonPiece → CommonPiece
  | [], _, best => best
  | c :: r, i, best => longestPiece b r (i + 1) (longestAt (c :: r) i b 0 best)

/-- How many characters two words share; every piece has a character, so the length of a word bounds the
number of pieces. -/
def sharedCount : Nat → List Char → List Char → Nat
  | 0, _, _ => 0
  | fuel + 1, a, b =>
    let p := longestPiece b a 0 {}
    if p.size = 0 then 0
    else
      p.size + sharedCount fuel (a.take p.left) (b.take p.right) +
        sharedCount fuel (a.drop (p.left + p.size)) (b.drop (p.right + p.size))

def similarity (a b : String) : Nat × Nat :=
  (2 * sharedCount (a.length + 1) a.toList b.toList, a.length + b.length)

def atLeast (x y : Nat × Nat) : Bool :=
  decide (y.1 * x.2 ≤ x.1 * y.2)

/-- Whether a rated word stands before another: the more similar one, then the one that is later in the
alphabet. -/
def standsBefore (x y : (Nat × Nat) × String) : Bool :=
  if atLeast y.1 x.1 then atLeast x.1 y.1 && decide (y.2 ≤ x.2) else true

def closeMatches (word : String) (choices : List String) : List String :=
  let rated := (choices.map fun c => (similarity c word, c)).filter fun p => atLeast p.1 (6, 10)
  ((rated.mergeSort standsBefore).take 3).map (·.2)

end ShapeSearch.Text
