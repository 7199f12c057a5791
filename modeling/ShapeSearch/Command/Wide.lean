import ShapeSearch.Command.Bytes

/-!
# Bytes as characters

Programs that match and translate text see characters, not bytes.  `widen` reads bytes as characters; a byte
that belongs to no character becomes one of a reserved row, so that `narrow` gives back every byte.
-/

namespace ShapeSearch.Command

/-- The first character of the row for bytes that belong to no character. -/
def strayRow : Nat := 0x10FF00

def strayChar (c : Char) : Char := Char.ofNat (strayRow + c.toNat)

def isContinuation (c : Char) : Bool := 0x80 ≤ c.toNat && c.toNat < 0xC0

/-- What a first byte says of its character: how many bytes follow, what it adds, and the least number. -/
def leadByte? (n : Nat) : Option (Nat × Nat × Nat) :=
  if n < 0xC2 then none
  else if n < 0xE0 then some (1, n - 0xC0, 0x80)
  else if n < 0xF0 then some (2, n - 0xE0, 0x800)
  else if n < 0xF5 then some (3, n - 0xF0, 0x10000)
  else none

/-- The character of several bytes at the start of some bytes, and what follows it. -/
def wideChar? (a : Char) (r : Bytes) : Option (Char × Bytes) := do
  let (count, top, least) ← leadByte? a.toNat
  let more := (r.take count).takeWhile isContinuation
  let n := more.foldl (fun n c => n * 64 + (c.toNat - 0x80)) top
  if more.length = count ∧ least ≤ n ∧ n.isValidChar then some (Char.ofNat n, r.drop count) else none

/-- Bytes as characters, last first, before those found so far; `fuel` is at least the number of bytes. -/
def widenFrom : Nat → List Char → Bytes → List Char
  | 0, out, _ => out
  | _, out, [] => out
  | fuel + 1, out, a :: r =>
    if a.toNat < 0x80 then widenFrom fuel (a :: out) r
    else
      match wideChar? a r with
      | some (c, r) => widenFrom fuel (c :: out) r
      | none => widenFrom fuel (strayChar a :: out) r

def widen (bs : Bytes) : List Char := (widenFrom bs.length [] bs).reverse

def narrow (cs : List Char) : Bytes :=
  cs.flatMap fun c =>
    if strayRow ≤ c.toNat then [Bytes.ofNumber (c.toNat - strayRow)]
    else if c.toNat < 0x80 then [c]
    else Bytes.encode (String.singleton c)

end ShapeSearch.Command
