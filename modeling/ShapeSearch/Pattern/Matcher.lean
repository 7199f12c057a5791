import ShapeSearch.Pattern.Node

/-!
# Matching patterns

`Node.run` looks for a match from a cursor and hands each end it reaches to a continuation, best
choice first; the first success of the continuation is the answer.  A cursor keeps the text on both
sides, so looking behind and giving characters back move it the other way.

Beside the cursor go the `Registers`: the place noted last, and the marks where groups start and end.
An attempt that fails hands its registers back.  What it noted there is taken back only in part, and
later parts of the pattern can tell:

* outside a repetition, a choice that failed leaves the marks it moved, and only forgets the marks it
  added (`Registers.retake`);
* a possessive repetition goes on from the place noted last, also if the round that ended it failed: so it
  was up to release 3.11.4 of the language whose patterns these are, and later ones restore the place.

In a repetition a round that ends where it started is the last one, which also bounds the number of
rounds: no two of them start at the same place of the text (`roundsFrom`).
-/

namespace ShapeSearch.Pattern

/-- A place in a text: the characters before it, last first, those after it, and how many are
before. -/
structure Cursor where
  before : List Char
  after : List Char
  pos : Nat

namespace Cursor

def start (s : List Char) : Cursor := ⟨[], s, 0⟩

def next? (c : Cursor) : Option (Char × Cursor) :=
  match c.after with
  | [] => none
  | x :: r => some (x, ⟨x :: c.before, r, c.pos + 1⟩)

def back (c : Cursor) : Cursor :=
  match c.before with
  | [] => c
  | x :: r => ⟨r, x :: c.after, c.pos - 1⟩

def back? : Nat → Cursor → Option Cursor
  | 0, c => some c
  | n + 1, c => if c.before.isEmpty then none else back? n c.back

def passes (c : Cursor) (t : CharTest) : Bool := c.after.head?.any t.accepts

end Cursor

structure Span where
  start : Cursor
  length : Nat

def Span.chars (s : Span) : List Char := s.start.after.take s.length

def Span.text (s : Span) : String := String.ofList s.chars

/-- The place noted last, and the marks: group `n` starts at mark `2 * n - 2` and ends at the mark
after it. -/
structure Registers where
  place : Cursor
  marks : List (Option Cursor)

namespace Registers

def note (r : Registers) (c : Cursor) : Registers := { r with place := c }

/-- Set a mark; marks between the last one and it are absent. -/
def mark (r : Registers) (i : Nat) (c : Cursor) : Registers :=
  if i < r.marks.length then { r with marks := r.marks.set i (some c) }
  else { r with marks := r.marks ++ (List.replicate (i - r.marks.length) none ++ [some c]) }

/-- The registers after an attempt that started with some marks and failed: in a repetition those
marks come back, otherwise only the marks beyond them go. -/
def retake (r : Registers) (inLoop : Bool) (marks : List (Option Cursor)) : Registers :=
  { r with marks := if inLoop then marks else r.marks.take marks.length }

def bounds? (r : Registers) (n : Nat) : Option (Cursor × Cursor) :=
  match r.marks.drop (2 * n - 2) with
  | some s :: some e :: _ => some (s, e)
  | _ => none

def group? (r : Registers) (n : Nat) : Option Span :=
  (r.bounds? n).bind fun (s, e) => if s.pos ≤ e.pos then some ⟨s, e.pos - s.pos⟩ else none

/-- Whether one of the groups ends before it starts; `marks` are the marks from some group on. -/
def anyReversed : List (Option Cursor) → Bool
  | some s :: some e :: r => e.pos < s.pos || anyReversed r
  | _ :: _ :: r => anyReversed r
  | _ => false

end Registers

/-- How an attempt ended, with the registers it left. -/
inductive Outcome where
  | found (r : Registers)
  | lost (r : Registers)

abbrev Step := Cursor → Registers → Outcome

def stop : Step := fun c r => .found (r.note c)

def Anchor.holds (a : Anchor) (c : Cursor) : Bool :=
  match a with
  | .textStart => c.before.isEmpty
  | .lineStart => c.before.isEmpty || c.before.head? == some '\n'
  | .lastEnd => c.after.isEmpty || c.after == ['\n']
  | .lineEnd => c.after.isEmpty || c.after.head? == some '\n'
  | .textEnd => c.after.isEmpty
  | .boundary unicode negated =>
    let word (x : Option Char) : Bool := x.any (Category.word.holds unicode)
    !(c.before.isEmpty && c.after.isEmpty) &&
      ((word c.before.head? != word c.after.head?) != negated)

def hasAtLeast : Nat → List Char → Bool
  | 0, _ => true
  | _ + 1, [] => false
  | n + 1, _ :: r => hasAtLeast n r

/-- Move over characters that pass a test, at most `limit` of them; gives how many. -/
def eat (t : CharTest) (limit : Option Nat) :
    List Char → List Char → Nat → Nat → Nat × Cursor
  | before, [], pos, n => (n, ⟨before, [], pos⟩)
  | before, c :: r, pos, n =>
    if limit.all (n < ·) && t.accepts c then eat t limit (c :: before) r (pos + 1) (n + 1)
    else (n, ⟨before, c :: r, pos⟩)

/-- Try a continuation here, if the next character passes the test that it starts with. -/
def attempt (inLoop : Bool) (lead : Option CharTest) (k : Step) (c : Cursor) (r : Registers) : Outcome :=
  if lead.all c.passes then
    match k c (r.note c) with
    | .found r' => .found r'
    | .lost r' => .lost (r'.retake inLoop r.marks)
  else .lost r

/-- Try the continuation here, then with one character given back after the other, at most `n`. -/
def giveBack (inLoop : Bool) (follow : Option CharTest) (k : Step) : Nat → Step
  | 0, c, r => attempt inLoop follow k c r
  | n + 1, c, r =>
    match attempt inLoop follow k c r with
    | .found r' => .found r'
    | .lost r' => giveBack inLoop follow k n c.back r'

/-- Try the continuation here, then after one more character that passes the test and so on, at most
`limit` more. -/
def takeMore (inLoop : Bool) (t : CharTest) (k : Step) :
    Option Nat → List Char → List Char → Nat → Registers → Outcome
  | _, before, [], pos, r =>
    match attempt inLoop none k ⟨before, [], pos⟩ r with
    | .found r' => .found r'
    | .lost r' => .lost (r'.note ⟨before, [], pos⟩)
  | limit, before, x :: rest, pos, r =>
    match attempt inLoop none k ⟨before, x :: rest, pos⟩ r with
    | .found r' => .found r'
    | .lost r' =>
      if t.accepts x then
        let r' := r'.note (if t.isFoldedSet then ⟨x :: before, rest, pos + 1⟩
          else ⟨before, x :: rest, pos⟩)
        if limit = some 0 then .lost r'
        else takeMore inLoop t k (limit.map (· - 1)) (x :: before) rest (pos + 1) r'
      else .lost (r'.note ⟨before, x :: rest, pos⟩)

/-- The continuation, with the place noted again if it fails. -/
def noting (k : Step) : Step := fun c r =>
  match k c r with
  | .found r' => .found r'
  | .lost r' => .lost (r'.note c)

/-- The least number of rounds, and then `more` with what is left of the limit. -/
def leastRounds (m : Step → Step) (more : Option Nat → Step) : Nat → Option Nat → Step
  | 0, limit, c, r => more limit c r
  | n + 1, limit, c, r => noting (m (leastRounds m more n (limit.map (· - 1)))) c (r.note c)

/-- Greedy rounds beyond the least number: `m` matches one round, `last` is where the round before
started, and after as many rounds as `fuel` is long `out` goes on. -/
def greedyMore (m : Step → Step) (k : Step) (out : Option Nat → Option Nat → Step) :
    List Char → Option Nat → Option Nat → Step
  | [], limit, last, c, r => out limit last c r
  | _ :: fuel, limit, last, c, r =>
    if limit = some 0 || last = some c.pos then noting k c (r.note c)
    else
      match m (greedyMore m k out fuel (limit.map (· - 1)) (some c.pos)) c (r.note c) with
      | .found r' => .found r'
      | .lost _ => noting k c (r.note c)

/-- Reluctant rounds beyond the least number, with the arguments of `greedyMore`. -/
def reluctantMore (inLoop : Bool) (m : Step → Step) (k : Step)
    (out : Option Nat → Option Nat → Step) : List Char → Option Nat → Option Nat → Step
  | [], limit, last, c, r => out limit last c r
  | _ :: fuel, limit, last, c, r =>
    match attempt inLoop none k c r with
    | .found r' => .found r'
    | .lost r' =>
      if limit = some 0 || last = some c.pos then .lost (r'.note c)
      else
        noting (m (reluctantMore inLoop m k out fuel (limit.map (· - 1)) (some c.pos))) c (r'.note c)

/-- The least number of rounds that are never taken back, each from the place noted last. -/
def possessiveLeast (m : Step) : Nat → Registers → Outcome
  | 0, r => .found r
  | n + 1, r =>
    match m r.place r with
    | .found r' => possessiveLeast m n r'
    | .lost r' => .lost r'

/-- Rounds that are never taken back, beyond the least number, with the arguments of `greedyMore`.  The
round that fails sets the marks back, but not the place. -/
def possessiveMore (m : Step) (out : Option Nat → Option Nat → Registers → Registers) :
    List Char → Option Nat → Option Nat → Registers → Registers
  | [], limit, last, r => out limit last r
  | _ :: fuel, limit, last, r =>
    if limit = some 0 || last = some r.place.pos then r
    else
      match m r.place r with
      | .found r' => possessiveMore m out fuel (limit.map (· - 1)) (some r.place.pos) r'
      | .lost r' => { r' with marks := r.marks }

/-- As many rounds as characters are left, one that consumes nothing, and one to see that. -/
def roundsFrom (c : Cursor) : List Char := ' ' :: ' ' :: c.after

/-- Greedy rounds beyond the least number in a repetition that starts at `c`: rounds that go on in the
text, and then as many as there are characters before it, for rounds that go back. -/
def greedyRounds (m : Step → Step) (k : Step) (c : Cursor) (limit : Option Nat) : Step :=
  greedyMore m k (greedyMore m k (fun _ _ c r => noting k c (r.note c)) c.before) (roundsFrom c) limit none

def reluctantRounds (inLoop : Bool) (m : Step → Step) (k : Step) (c : Cursor) (limit : Option Nat) :
    Step :=
  reluctantMore inLoop m k (reluctantMore inLoop m k (fun _ _ => noting (attempt inLoop none k)) c.before)
    (roundsFrom c) limit none

def possessiveRounds (m : Step) (c : Cursor) (limit : Option Nat) (r : Registers) : Registers :=
  possessiveMore m (possessiveMore m (fun _ _ r => r) c.before) (roundsFrom c) limit none r

/-- Move over the given characters, compared in a given way. -/
def eatText (fold : Fold) : List Char → Cursor → Option Cursor
  | [], c => some c
  | x :: r, c =>
    match c.next? with
    | some (y, c') => if fold.apply x == fold.apply y then eatText fold r c' else none
    | none => none

/-- Look for a match of a pattern from a place; the continuation judges each end.  `inLoop` says that
the pattern is part of a repetition whose rounds can be taken back. -/
def Node.run : Node → Bool → Step → Step
  | .empty, _, k, c, r => k c r
  | .unit t, _, k, c, r =>
    match c.next? with
    | some (x, c') => if t.accepts x then k c' r else .lost r
    | none => .lost r
  | .anchor a, _, k, c, r => if a.holds c then k c r else .lost r
  | .seq a b, inLoop, k, c, r => a.run inLoop (fun c' r' => b.run inLoop k c' r') c r
  | .never, _, _, _, r => .lost r
  | .alt lead a rest, inLoop, k, c, r =>
    match attempt inLoop lead (a.run inLoop k) c r with
    | .found r' => .found r'
    | .lost r' => rest.run inLoop k c r'
  | .many greed min max t follow, inLoop, k, c, r =>
    if hasAtLeast min c.after then
      let limit := if greed = .reluctant then some min else max
      let (n, c') := eat t limit c.before c.after c.pos 0
      let r := r.note (if t.isFoldedSet then c' else c)
      if n < min then .lost r
      else
        match greed with
        | .greedy => giveBack inLoop follow k (n - min) c' r
        | .reluctant => takeMore inLoop t k (max.map (· - min)) c'.before c'.after c'.pos r
        | .possessive => k c' r
    else .lost r
  | .loop .greedy min max body, _, k, c, r =>
    leastRounds (fun k c r => body.run true k c r)
      (greedyRounds (fun k c r => body.run true k c r) k c) min max c r
  | .loop .reluctant min max body, inLoop, k, c, r =>
    leastRounds (fun k c r => body.run true k c r)
      (reluctantRounds inLoop (fun k c r => body.run true k c r) k c) min max c r
  | .loop .possessive min max body, inLoop, k, c, r =>
    match possessiveLeast (body.run inLoop stop) min (r.note c) with
    | .lost r' => .lost (r'.note c)
    | .found r' =>
      let r' := possessiveRounds (body.run inLoop stop) c (max.map (· - min)) r'
      k r'.place r'
  | .group n body, inLoop, k, c, r =>
    body.run inLoop (fun c' r' => k c' (r'.mark (2 * n - 1) c')) c (r.mark (2 * n - 2) c)
  | .atomic body, inLoop, k, c, r =>
    match body.run inLoop stop c (r.note c) with
    | .found r' => k r'.place r'
    | .lost r' => .lost (r'.note c)
  | .look negated back body, inLoop, k, c, r =>
    match c.back? back with
    | none => if negated then k c r else .lost r
    | some c' =>
      match body.run inLoop stop c' (r.note c') with
      | .found r' => if negated then .lost r' else k c r'
      | .lost r' => if negated then k c (r'.retake inLoop r.marks) else .lost r'
  | .backref n fold, _, k, c, r =>
    match r.group? n with
    | none => .lost r
    | some piece =>
      match eatText fold piece.chars c with
      | some c' => k c' r
      | none => .lost r
  | .cond n yes no, inLoop, k, c, r =>
    if (r.group? n).isSome then yes.run inLoop k c r else no.run inLoop k c r

end ShapeSearch.Pattern
