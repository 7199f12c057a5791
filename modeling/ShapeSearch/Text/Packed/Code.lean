import ShapeSearch.Text.Packed

/-!
# Compressed tables

The largest tables are compressed by an arithmetic code.  A compressed text is a number between zero and
one, written with 89 digits, and the text is found by halving intervals: each character is seven bits, the
highest first, and for each bit the interval is divided in proportion to the chances of the two values.

The chance of a bit is estimated from what was seen in several contexts (`contexts`): after the same
characters, at the same place of an entry, or under the same characters of the entries before.  Each
context has a state that counts the two values, and each state a chance of its own.  These chances are mixed
by weights that are adjusted after every bit, on the scale where `squash` is the way back.
-/

namespace ShapeSearch.Text.Packed

/-- The place that is looked for: the width of the interval, the place in it, and further digits. -/
structure Search where
  width : Nat
  place : Nat
  digits : List Nat

def leastWidth : Nat := Nat.pow 89 4

/-- Look closer, as long as the interval is too narrow. -/
def Search.refine : Nat → Search → Search
  | 0, s => s
  | fuel + 1, s =>
    if leastWidth ≤ s.width then s
    else refine fuel ⟨s.width * 89, s.place * 89 + s.digits.headD 0, s.digits.tail⟩

def Search.start (text : String) : Search :=
  let digits := (text.toList.filter fun c => c != ' ' && c != '\n').map digit89
  refine 5 ⟨1, 0, digits⟩

/-- The logistic curve at every 128th step from -2048 to 2048. -/
def curve : Array Nat := #[1, 2, 3, 6, 10, 16, 27, 45, 73, 120, 194, 310, 488, 747, 1101, 1546, 2047, 2549, 2994,
  3348, 3607, 3785, 3901, 3975, 4022, 4050, 4068, 4079, 4085, 4089, 4092, 4093, 4094]

/-- A chance among 4096, from the scale where chances are added. -/
def squash (d : Int) : Nat :=
  let n := (max (-2047) (min d 2047) + 2048).toNat
  (curve.getD (n / 128) 0 * (128 - n % 128) + curve.getD (n / 128 + 1) 0 * (n % 128) + 64) / 128

/-- The inverse of `squash`, by chance. -/
def stretched : Array Int :=
  (List.range 4095).foldl (fun t (i : Nat) =>
    let d : Int := i - 2047
    t ++ Array.replicate (squash d + 1 - t.size) d) #[]

/-- What has been learnt: the state of every context, one count in each half of a byte, the chance of a one
among 65536 for every kind of context and state, and the sets of weights, sixteen in each. -/
structure Model where
  states : ByteArray
  chances : Array Nat
  weights : Array Int

/-- A model with room for the states that a text of some length needs. -/
def Model.start (length : Nat) : Model where
  states := (List.range (length.log2 + 7)).foldl (fun b _ => b ++ b) ⟨#[0]⟩
  chances := (Array.range 4096).map fun i => 65536 * (2 * (i % 16) + 1) / (2 * (i / 16 % 16 + i % 16) + 2)
  weights := Array.replicate 10240 7000

/-- What precedes a character: all characters, and those of its entry, last first, with their number and the first of
them, and the two entries before, from the same place on. -/
structure Setting where
  out : List Char := []
  line : List Char := []
  place : Nat := 0
  first : Nat := 0
  above : List Char := []
  higher : List Char := []

def codeAt (cs : List Char) (i : Nat) : Nat := (cs[i]?.map Char.toNat).getD 0

def Setting.contexts (t : Setting) : List UInt64 :=
  let past := codeAt t.out
  let top := codeAt t.above
  [[], [past 0], [past 0, past 1], [past 0, past 1, past 2], [past 0, past 1, past 2, past 3, past 4],
    [past 0, past 2, past 3], [past 0, top 0, codeAt t.higher 0], [top 0, top 1, top 2],
    [t.place, t.first], (t.out.takeWhile Char.isUpper).map Char.toNat].mapIdx
      fun i (key : List Nat) => ((key.foldr (fun c k => c.toUInt64 + 128 * k) 0) * 16 + i.toUInt64) * 128

/-- The sets of weights for the next bit of a character. -/
def Setting.sets (t : Setting) (bits : Nat) : List Nat :=
  let kind := if t.out.head?.any Char.isUpper then 2 else if t.out.head?.any Char.isLower then 1 else 0
  [bits + 128 * kind, 384 + min t.place 31, 512 + t.first]

/-- Count a value once more, and the other one half, unless it was seen rarely. -/
def countOnce (bit : Bool) (state : Nat) : Nat :=
  let more (k : Nat) := min (k + 1) 15
  let less (k : Nat) := if k ≤ 2 then k else (k + 1) / 2
  if bit then less (state / 16) * 16 + more (state % 16) else more (state / 16) * 16 + less (state % 16)

/-- A context of a bit: its kind, where its state and its chance stand, and the chance as it is added. -/
structure Vote where
  kind : Nat
  slot : Nat
  cell : Nat
  amount : Int

def Model.votes (m : Model) (keys : List UInt64) (bits : Nat) : List Vote :=
  keys.map fun k =>
    let slot := (((k + bits.toUInt64) * 0x9E3779B97F4A7C15) >>> 40).toNat % m.states.size
    let kind := (k / 128 % 16).toNat
    let cell := 256 * kind + (m.states.get! slot).toNat
    ⟨kind, slot, cell, stretched.getD (m.chances.getD cell 0 / 16) 2047⟩

/-- The chance of a one among 4096. -/
def Model.chance (m : Model) (votes : List Vote) (sets : List Nat) : Nat :=
  let sum := votes.foldl (fun (n : Int) v =>
    n + v.amount * sets.foldl (fun w set => w + m.weights.getD (16 * set + v.kind) 0) 0) 0
  max 1 (min (squash (sum / 65536)) 4095)

/-- Learn from a bit that had a chance among 4096. -/
def Model.learn (m : Model) (votes : List Vote) (sets : List Nat) (bit : Bool) (chance : Nat) : Model :=
  let error : Int := ((if bit then 4096 else 0) - chance) * 16
  votes.foldl (fun m v =>
    let change := (v.amount * error + 32768) / 65536
    { states := m.states.set! v.slot (countOnce bit (v.cell % 256)).toUInt8
      chances := m.chances.modify v.cell fun p => (p + ((if bit then 65535 else 0) - p : Int) / 100).toNat
      weights := sets.foldl (fun ws set => ws.modify (16 * set + v.kind) (· + change)) m.weights }) m

/-- Find bits of a character, as many as are asked for, behind those already found. -/
def findBits (t : Setting) (keys : List UInt64) : Nat → Nat → Search → Model → Nat × Search × Model
  | 0, bits, s, m => (bits, s, m)
  | n + 1, bits, s, m =>
    let votes := m.votes keys bits
    let sets := t.sets bits
    let chance := m.chance votes sets
    let ones := s.width / 4096 * chance
    let bit := s.place < ones
    let s := if bit then { s with width := ones }
      else { s with width := s.width - ones, place := s.place - ones }
    findBits t keys n (2 * bits + if bit then 1 else 0) (s.refine 5) (m.learn votes sets bit chance)

/-- Find characters, as many as are asked for; `last` is the entry before. -/
def findChars : Nat → Search → Model → Setting → List Char → List Char
  | 0, _, _, t, _ => t.out.reverse
  | n + 1, s, m, t, last =>
    let (bits, s, m) := findBits t t.contexts 7 1 s m
    let c := Char.ofNat (bits - 128)
    if c == ';' || c == '|' then
      let entry := t.line.reverse
      findChars n s m ⟨c :: t.out, [], 0, 0, entry, last⟩ entry
    else
      let first := if t.place = 0 then c.toNat else t.first
      findChars n s m ⟨c :: t.out, c :: t.line, t.place + 1, first, t.above.tail, t.higher.tail⟩ last

def expand (length : Nat) (text : String) : List Char :=
  findChars length (.start text) (.start length) {} []

end ShapeSearch.Text.Packed
