import ShapeSearch.Pattern.Matcher
import ShapeSearch.Pattern.Parser

/-!
# Searching with patterns

`matchAt` matches at one place, `next?` at the first place where that succeeds, and `findAll` lists the
matches from left to right.  After an empty match the next one may start at the same place only if it
is not empty.  A search gives up where too little text is left for the pattern: before its first place
if less than the least length of a match is left, and after it if one character less is.
-/

namespace ShapeSearch.Pattern

structure Match where
  start : Cursor
  registers : Registers
  names : List (String × Nat)

namespace Match

def stop (m : Match) : Cursor := m.registers.place

def span (m : Match) : Span := ⟨m.start, m.stop.pos - m.start.pos⟩

def startPos (m : Match) : Nat := m.start.pos

def endPos (m : Match) : Nat := m.stop.pos

def isEmpty (m : Match) : Bool := m.stop.pos == m.start.pos

def isBroken (m : Match) : Bool := Registers.anyReversed m.registers.marks

def fromLast (m : Match) : List Char := m.start.after.drop (m.span.length - 1)

def span? (m : Match) (n : Nat) : Option Span := m.registers.group? n

def group? (m : Match) (n : Nat) : Option String := (m.span? n).map Span.text

def namedSpan? (m : Match) (name : String) : Option Span :=
  (m.names.lookup name).bind m.span?

def named? (m : Match) (name : String) : Option String :=
  (m.namedSpan? name).map Span.text

end Match

namespace Compiled

/-- A match that starts at the cursor; `advance` refuses an empty one. -/
def matchAt (p : Compiled) (advance : Bool) (c : Cursor) : Option Match :=
  let accept : Step := fun c' r => if advance && c'.pos == c.pos then .lost r else stop c' r
  match p.node.run false accept c ⟨c, []⟩ with
  | .found r => some ⟨c, r, p.groupNames⟩
  | .lost _ => none

/-- Whether a search that has moved on still looks at a place. -/
def reaches (p : Compiled) (c : Cursor) : Bool :=
  p.opensPlainly || hasAtLeast (p.least - 1) c.after

/-- The first match after the start of a search. -/
def searchOn (p : Compiled) : List Char → List Char → Nat → Option Match
  | before, [], pos => (p.matchAt false ⟨before, [], pos⟩).filter fun m => p.reaches m.start
  | before, c :: r, pos =>
    match p.matchAt false ⟨before, c :: r, pos⟩ with
    | some m => if p.reaches m.start then some m else none
    | none => searchOn p (c :: before) r (pos + 1)

def next? (p : Compiled) (advance : Bool) (c : Cursor) : Option Match :=
  if hasAtLeast p.least c.after then
    match p.matchAt (advance && !p.opensPlainly) c with
    | some m => some m
    | none =>
      match c.next? with
      | some (_, c') => p.searchOn c'.before c'.after c'.pos
      | none => none
  else none

def search? (p : Compiled) (s : String) : Option Match :=
  p.next? false (.start s.toList)

def occursIn (p : Compiled) (s : String) : Bool :=
  (p.search? s).isSome

def matchesIn (p : Compiled) (s : String) : Except Misfit Bool :=
  match p.search? s with
  | some m => if m.isBroken then .error .brokenGroup else .ok true
  | none => .ok false

def matchStart? (p : Compiled) (s : String) : Option Match :=
  p.matchAt false (.start s.toList)

def collect (p : Compiled) : Nat → Bool → Cursor → List Match → List Match
  | 0, _, _, out => out.reverse
  | fuel + 1, advance, c, out =>
    match p.next? advance c with
    | none => out.reverse
    | some m => collect p fuel m.isEmpty m.stop (m :: out)

/-- More matches in a text of a given length than there can be: each is looked for from one of its
places, and no two from the same place with the same rule on empty matches. -/
def matchLimit (length : Nat) : Nat := 2 * length + 3

def findAll (p : Compiled) (s : List Char) : List Match :=
  p.collect (matchLimit s.length) false (.start s) []

/-- The number of matches from a cursor on, no more than `fuel`, added to `n`. -/
def countFrom (p : Compiled) : Nat → Bool → Cursor → Nat → Except Misfit Nat
  | 0, _, _, n => .ok n
  | fuel + 1, advance, c, n =>
    match p.next? advance c with
    | none => .ok n
    | some m =>
      if m.isBroken then .error .brokenGroup else countFrom p fuel m.isEmpty m.stop (n + 1)

/-- The number of matches in a text, no more than `n`.  Matches that do not end come back to where they
started, so there are as many as one counts. -/
def countUpTo (p : Compiled) (n : Nat) (s : List Char) : Except Misfit Nat := do
  let limit := matchLimit s.length
  let count ← p.countFrom (min n limit) false (.start s) 0
  .ok (if count = limit then n else count)

/-- The text with every match replaced; `pos` is where the rest starts, `out` what precedes it, last
character first. -/
def replaceFrom (f : Match → List Char) : List Match → List Char → Nat → List Char → List Char
  | [], rest, _, out => out.reverse ++ rest
  | m :: ms, rest, pos, out =>
    let kept := rest.take (m.startPos - pos)
    let rest := rest.drop (m.startPos - pos + m.span.length)
    replaceFrom f ms rest m.endPos ((f m).reverse ++ (kept.reverse ++ out))

def replaceAll (p : Compiled) (f : Match → List Char) (s : List Char) : List Char :=
  replaceFrom f (p.findAll s) s 0 []

def piecesBetween : List Match → List Char → Nat → List (List Char)
  | [], rest, _ => [rest]
  | m :: ms, rest, pos =>
    rest.take (m.startPos - pos) ::
      piecesBetween ms (rest.drop (m.startPos - pos + m.span.length)) m.endPos

def splitAll (p : Compiled) (s : List Char) : List (List Char) :=
  piecesBetween (p.findAll s) s 0

end Compiled

/-- A pattern that is given with its characters; one that cannot be read matches nothing. -/
def fixedFrom (source : String) (chars : List Char) (flags : Flags) : Compiled :=
  match compileFrom source chars flags with
  | .ok p => p
  | .error _ => { source, flags, groupNames := [], node := .never }

/-- A pattern that is written in the library itself. -/
def fixed (source : String) (flags : Flags) : Compiled :=
  fixedFrom source source.toList flags

def specialChars : List Char :=
  "()[]\x7b\x7d?*+-|^$\\.&~# \t\n\r\x0b\x0c".toList

def quoteText (s : String) : String :=
  String.ofList (s.toList.flatMap fun c => if specialChars.contains c then ['\\', c] else [c])

end ShapeSearch.Pattern
