import ShapeSearch.Text.CharName.Names
import ShapeSearch.Text.Packed.Code
import Std.Data.HashMap

/-!
# Characters by name

`charNamed?` finds a character by its standard name or a further one.  Names in the tables are found
whatever the case of their letters; the names of Chinese characters and of Korean syllables follow rules,
and there the case counts.

The table lists names in the order of their characters, then further names.  An entry starts with the code
point between `@` and `:`, unless it is the next one.  Then a digit says how many words the name has in common
with the one before it, and the words that differ follow; `~` after them keeps the words of the name before it that
come after the first to differ, and `#` stands for the code point.  `*` gives the number of names that
follow the entry's own with only the last word counted on, `A001` to `A002` or `A` to `B`.

Small letters stand for frequent words, which the table lists first: one letter for the first six, two for
any other.
-/

namespace ShapeSearch.Text

namespace CharName

/-- Where the reading of the table stands: the last code point, and the words of its name. -/
structure Place where
  code : Nat := 0
  words : List String := []

def codeText (n : Nat) : List Char :=
  let ds := (Nat.toDigits 16 n).map Char.toUpper
  List.replicate (4 - ds.length) '0' ++ ds

def parts : Thunk (List Char × List Char) :=
  .mk fun _ => Packed.splitAt '|' (Packed.expand tableLength compressedTable)

def frequentWords : Thunk (Array String) :=
  .mk fun _ => ((String.ofList parts.get.1).splitOn " ").toArray

/-- The place of a letter among all letters, small ones first. -/
def letterPlace (c : Char) : Nat :=
  if c.isLower then c.toNat - 97 else c.toNat - 39

/-- The number of the word that two letters stand for. -/
def pairPlace (c d : Char) : Nat :=
  6 + (letterPlace c - 6) * 52 + letterPlace d

/-- The word that has been read, last character first, if there is one. -/
def spelled (word : List Char) : List String :=
  if word.isEmpty then [] else [String.ofList word.reverse]

def wordsFrom (word : List Char) : List Char → List String
  | [] => spelled word
  | ' ' :: r => spelled word ++ wordsFrom [] r
  | c :: d :: r =>
    if !c.isLower then wordsFrom (c :: word) (d :: r)
    else if c ≤ 'f' then spelled word ++ frequentWords.get.getD (letterPlace c) "" :: wordsFrom [] (d :: r)
    else spelled word ++ frequentWords.get.getD (pairPlace c d) "" :: wordsFrom [] r
  | [c] =>
    if c.isLower then spelled word ++ [frequentWords.get.getD (letterPlace c) ""]
    else spelled (c :: word)

def nameOf (code : Nat) (words : List String) : String :=
  let name := " ".intercalate words
  if name.endsWith "#" then (name.dropEnd 1).toString ++ String.ofList (codeText code) else name

/-- A word counted on, last character first. -/
def countOn : List Char → List Char
  | [] => []
  | '#' :: r => '#' :: r
  | '9' :: r => '0' :: countOn r
  | c :: r => Char.ofNat (c.toNat + 1) :: r

def Place.next (p : Place) : Place :=
  ⟨p.code + 1, p.words.dropLast ++
    (p.words.getLast?.toList.map fun w => String.ofList (countOn w.toList.reverse).reverse)⟩

/-- The place of an entry of the table, and the number of names in its run after it. -/
def step (p : Place) (entry : List Char) : Place × Nat :=
  let (code, entry) := match entry with
    | '@' :: r =>
      let (digits, rest) := Packed.splitAt ':' r
      (Packed.number digits, rest)
    | r => (p.code + 1, r)
  let (name, run) := Packed.splitAt '*' entry
  let shared := Packed.digitValue (name.headD '0')
  let (words, kept) := if name.getLast? == some '~'
    then (name.tail.dropLast, p.words.drop (shared + 1)) else (name.tail, [])
  (⟨code, p.words.take shared ++ wordsFrom [] words ++ kept⟩, Packed.number run)

/-- Add the name of a place and of as many places after it. -/
def addRun (p : Place) (names : Std.HashMap String Nat) : Nat → Place × Std.HashMap String Nat
  | 0 => (p, names.insert (nameOf p.code p.words) p.code)
  | n + 1 => addRun p.next (names.insert (nameOf p.code p.words) p.code) n

def table : Thunk (Std.HashMap String Nat) :=
  .mk fun _ => ((Packed.entries parts.get.2).foldl (fun (acc : Place × Std.HashMap String Nat) entry =>
    let (p, run) := step acc.1 entry
    addRun p acc.2 run) ({}, {})).2

/-- The first and last Chinese characters of every block that is named by its code points. -/
def ideographRanges : List (Nat × Nat) :=
  [(0x3400, 0x4dbf), (0x4e00, 0x9fff), (0x20000, 0x2a6df), (0x2a700, 0x2b738), (0x2b740, 0x2b81d),
    (0x2b820, 0x2cea1), (0x2ceb0, 0x2ebe0), (0x30000, 0x3134a)]

def ideograph? (digits : List Char) : Option Nat :=
  let n := Packed.number digits
  if (digits.length == 4 || digits.length == 5) &&
      digits.all (fun c => c.isDigit || ('A' ≤ c && c ≤ 'F')) &&
      ideographRanges.any (fun r => r.1 ≤ n && n ≤ r.2) then some n
  else none

def leads : List String :=
  ["G", "GG", "N", "D", "DD", "R", "M", "B", "BB", "S", "SS", "", "J", "JJ", "C", "K", "T", "P", "H"]

def vowels : List String :=
  ["A", "AE", "YA", "YAE", "EO", "E", "YEO", "YE", "O", "WA", "WAE", "OE", "YO", "U", "WEO", "WE", "WI",
    "YU", "EU", "YI", "I"]

def tails : List String :=
  ["", "G", "GG", "GS", "N", "NJ", "NH", "D", "L", "LG", "LM", "LB", "LS", "LT", "LP", "LH", "M", "B",
    "BS", "S", "SS", "NG", "J", "C", "K", "T", "P", "H"]

/-- The longest of some parts at the start of a text, by its place among them, and the rest. -/
def longestPart (parts : List String) (s : List Char) : Option (Nat × List Char) :=
  (parts.zipIdx.foldl (fun (best : Option (Nat × Nat)) (part, i) =>
    if part.toList.isPrefixOf s && best.all (fun b => b.1 < part.length) then some (part.length, i)
    else best) none).map fun (n, i) => (i, s.drop n)

def syllable? (s : List Char) : Option Nat := do
  let (l, s) ← longestPart leads s
  let (v, s) ← longestPart vowels s
  let (t, s) ← longestPart tails s
  if s.isEmpty then some (0xac00 + (l * 21 + v) * 28 + t) else none

def find? (name : List Char) : Option Nat :=
  let korean := "HANGUL SYLLABLE ".toList
  let chinese := "CJK UNIFIED IDEOGRAPH-".toList
  if korean.isPrefixOf name then syllable? (name.drop korean.length)
  else if chinese.isPrefixOf name then ideograph? (name.drop chinese.length)
  else table.get[String.ofList (name.map Char.toUpper)]?

end CharName

def charNamed? (name : String) : Option Char :=
  (CharName.find? name.toList).map Char.ofNat

end ShapeSearch.Text
