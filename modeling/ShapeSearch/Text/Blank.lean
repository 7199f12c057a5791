/-!
# White space and line ends

`isBlank` holds of the characters that trimming removes, `isLineEnd` of those that end a line.
`isPart needle text` says whether the first text occurs in the second; the empty text occurs everywhere.
-/

namespace ShapeSearch.Text

def isBlank (c : Char) : Bool :=
  let n := c.toNat
  (9 ≤ n && n ≤ 13) || (28 ≤ n && n ≤ 32) || n == 0x85 || n == 0xa0 || n == 0x1680 ||
    (0x2000 ≤ n && n ≤ 0x200a) || n == 0x2028 || n == 0x2029 || n == 0x202f || n == 0x205f ||
    n == 0x3000

def isAsciiBlank (c : Char) : Bool :=
  c == ' ' || (9 ≤ c.toNat && c.toNat ≤ 13)

def isLineEnd (c : Char) : Bool :=
  let n := c.toNat
  (10 ≤ n && n ≤ 13) || (28 ≤ n && n ≤ 30) || n == 0x85 || n == 0x2028 || n == 0x2029

def trimChars (s : List Char) : List Char :=
  (((s.dropWhile isBlank).reverse).dropWhile isBlank).reverse

def trim (s : String) : String :=
  String.ofList (trimChars s.toList)

def wordsAux : List Char → List Char → List (List Char)
  | [], [] => []
  | [], w => [w.reverse]
  | c :: r, w =>
    if isBlank c then
      if w.isEmpty then wordsAux r [] else w.reverse :: wordsAux r []
    else wordsAux r (c :: w)

def words (s : String) : List String :=
  (wordsAux s.toList []).map String.ofList

/-- The lines of a text without their ends; a carriage return and the line feed after it are one
end, and a text that ends in a line end has no empty last line. -/
def linesAux : List Char → List Char → List (List Char)
  | [], [] => []
  | [], w => [w.reverse]
  | '\r' :: '\n' :: r, w => w.reverse :: linesAux r []
  | c :: r, w => if isLineEnd c then w.reverse :: linesAux r [] else linesAux r (c :: w)

def lines (s : String) : List String :=
  (linesAux s.toList []).map String.ofList

/-- Line ends written `\r\n` or `\r` become `\n`; `out` holds what precedes, last character first. -/
def unifyLineEndsFrom : List Char → List Char → List Char
  | out, [] => out.reverse
  | out, '\r' :: '\n' :: r => unifyLineEndsFrom ('\n' :: out) r
  | out, c :: r => unifyLineEndsFrom ((if c == '\r' then '\n' else c) :: out) r

/-- A text in which line ends written `\r\n` or `\r` become `\n`. -/
def unifyLineEnds (s : String) : String :=
  String.ofList (unifyLineEndsFrom [] s.toList)

def splitOnChar (sep : Char) : List Char → List (List Char)
  | [] => [[]]
  | c :: r =>
    if c == sep then [] :: splitOnChar sep r
    else
      match splitOnChar sep r with
      | [] => [[c]]
      | p :: ps => (c :: p) :: ps

/-! ## Texts inside texts -/

def isPart (needle : List Char) : List Char → Bool
  | [] => needle.isEmpty
  | c :: r => needle.isPrefixOf (c :: r) || isPart needle r

/-- A piece occurs in a text exactly if the text is the piece between two others. -/
theorem isPart_iff {needle text : List Char} :
    isPart needle text = true ↔ ∃ a b, text = a ++ needle ++ b := by
  induction text with
  | nil => cases needle <;> simp [isPart]
  | cons c r ih =>
    rw [isPart, Bool.or_eq_true, ih, List.isPrefixOf_iff_prefix]
    constructor
    · rintro (⟨b, hb⟩ | ⟨a, b, hr⟩)
      · exact ⟨[], b, by simpa using hb.symm⟩
      · exact ⟨c :: a, b, by simp [hr]⟩
    · rintro ⟨a, b, h⟩
      cases a with
      | nil => exact .inl ⟨b, by simpa using h.symm⟩
      | cons d a =>
        simp only [List.cons_append, List.cons.injEq] at h
        exact .inr ⟨a, b, by simpa using h.2⟩

def contains (text needle : String) : Bool :=
  isPart needle.toList text.toList

def replaceChar (old new : Char) (s : String) : String :=
  String.ofList (s.toList.map fun c => if c == old then new else c)

def dropChar (c : Char) (s : String) : String :=
  String.ofList (s.toList.filter (· != c))

end ShapeSearch.Text
