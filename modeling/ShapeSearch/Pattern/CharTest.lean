import ShapeSearch.Pattern.Syntax
import ShapeSearch.Text.Case

/-!
# Tests on one character

A `CharTest` is one character, a character set or the sign for any character, with the modes in force
worked in.  When case is ignored, the characters of the text are compared in lower case; a test on
characters without a second case compares them as they are.
-/

namespace ShapeSearch.Pattern

inductive Fold where
  | exact
  | ascii
  | unicode
deriving DecidableEq

namespace Fold

def ofFlags (f : Flags) : Fold :=
  if f.ignoreCase then (if f.unicode then .unicode else .ascii) else .exact

def apply : Fold → Char → Char
  | .exact, c => c
  | .ascii, c => c.toLower
  | .unicode, c => Text.lowerChar c

/-- The characters that compare equal to a character already in compared form. -/
def variants : Fold → Char → List Char
  | .exact, c => [c]
  | .ascii, c => if c.isLower then [c, c.toUpper] else [c]
  | .unicode, c => if Text.isCased c then Text.caseVariants c else [c]

def distinguishes (fold : Fold) (code : Nat) : Bool :=
  code.isValidChar &&
    match fold with
    | .exact => false
    | .ascii => (Char.ofNat code).isAlpha
    | .unicode => Text.isCased (Char.ofNat code)

end Fold

/-- How a test is written: one character, a set, or the sign for any character. -/
inductive TestForm where
  | one
  | set
  | any
deriving DecidableEq

structure CharTest where
  form : TestForm
  negated : Bool
  fold : Fold
  unicode : Bool
  members : List Member
deriving DecidableEq

def planeSize : Nat := 0x10000

namespace Member

/-- Whether a member of a set covers a character; `c` is in compared form.  A range that leaves the
basic plane also covers the characters whose upper case it holds. -/
def covers (fold : Fold) (unicode : Bool) (c : Char) : Member → Bool
  | .single code => c.toNat == code
  | .range lo hi =>
    let holds (v : Char) : Bool := lo ≤ v.toNat && v.toNat ≤ hi
    holds c || fold != .exact &&
      ((fold.variants c).any holds || planeSize ≤ hi && holds ((Text.upperChar c).headD c))
  | .category cat neg => cat.holds unicode c != neg

def isCased (fold : Fold) : Member → Bool
  | .single code => planeSize ≤ code || fold.distinguishes code
  | .range lo hi => planeSize ≤ hi || (List.range' lo (hi + 1 - lo)).any fold.distinguishes
  | .category _ _ => false

/-- A member in compared form; characters beyond the basic plane stay as they are. -/
def folded (fold : Fold) : Member → List Member
  | .single code =>
    if !code.isValidChar || planeSize ≤ code then [.single code]
    else
      let low := fold.apply (Char.ofNat code)
      .single low.toNat ::
        if fold = .unicode then (Text.foldsWith low).map (.single ·.toNat) else []
  | m => [m]

end Member

namespace CharTest

def accepts (t : CharTest) (c : Char) : Bool :=
  let c := t.fold.apply c
  t.members.any (·.covers t.fold t.unicode c) != t.negated

def one (f : Flags) (code : Nat) (negated : Bool) : CharTest :=
  let fold := Fold.ofFlags f
  if fold.distinguishes code then
    let low := fold.apply (Char.ofNat code)
    match fold, Text.foldsWith low with
    | .unicode, more@(_ :: _) =>
      ⟨.set, negated, fold, f.unicode, .single low.toNat :: more.map (.single ·.toNat)⟩
    | _, _ => ⟨.one, negated, fold, f.unicode, [.single low.toNat]⟩
  else ⟨.one, negated, .exact, f.unicode, [.single code]⟩

def set (f : Flags) (negated : Bool) (members : List Member) : CharTest :=
  let fold := Fold.ofFlags f
  if fold != .exact && members.any (·.isCased fold) then
    ⟨.set, negated, fold, f.unicode, members.flatMap (·.folded fold)⟩
  else ⟨.set, negated, .exact, f.unicode, members⟩

/-- The test for any character, by default other than a line feed. -/
def any (f : Flags) : CharTest :=
  ⟨.any, true, .exact, f.unicode, if f.dotAll then [] else [.single 10]⟩

/-- Whether the test is for one given character, compared as it is. -/
def isLiteral (t : CharTest) : Bool :=
  t.form == .one && t.fold == .exact && !t.negated

/-- Whether the test is for one given character or a set, compared as they are. -/
def isPlain (t : CharTest) : Bool :=
  t.isLiteral || t.form == .set && t.fold == .exact

def isFoldedSet (t : CharTest) : Bool :=
  t.form == .set && t.fold != .exact

end CharTest

end ShapeSearch.Pattern
