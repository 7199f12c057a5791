import ShapeSearch.Text.Blank
import ShapeSearch.Text.Letter

/-!
# Written patterns

`Raw` is a text pattern as written.  Items one after the other are a `seq`, choices an `alt` that ends
in `never`, and a group that only groups is no item of its own once the items around it have been read
(`Raw.unwrap`).  `Raw.ofChoices` takes out what all choices start with, and choices between single
characters become one character set.  `Raw.width` bounds the length of a match.
-/

namespace ShapeSearch.Pattern

structure Flags where
  ignoreCase : Bool := false
  multiline : Bool := false
  dotAll : Bool := false
  verbose : Bool := false
  ascii : Bool := false
  unicode : Bool := false
  template : Bool := false
deriving DecidableEq

namespace Flags

def union (a b : Flags) : Flags where
  ignoreCase := a.ignoreCase || b.ignoreCase
  multiline := a.multiline || b.multiline
  dotAll := a.dotAll || b.dotAll
  verbose := a.verbose || b.verbose
  ascii := a.ascii || b.ascii
  unicode := a.unicode || b.unicode
  template := a.template || b.template

def without (a b : Flags) : Flags where
  ignoreCase := a.ignoreCase && !b.ignoreCase
  multiline := a.multiline && !b.multiline
  dotAll := a.dotAll && !b.dotAll
  verbose := a.verbose && !b.verbose
  ascii := a.ascii && !b.ascii
  unicode := a.unicode && !b.unicode
  template := a.template && !b.template

def meets (a b : Flags) : Bool :=
  a.ignoreCase && b.ignoreCase || a.multiline && b.multiline || a.dotAll && b.dotAll ||
    a.verbose && b.verbose || a.ascii && b.ascii || a.unicode && b.unicode ||
    a.template && b.template

/-- The modes inside a group that switches some on and some off; a choice of script replaces the one
in force. -/
def within (outer add del : Flags) : Flags :=
  let outer := if add.ascii || add.unicode then { outer with ascii := false, unicode := false }
    else outer
  (outer.union add).without del

end Flags

inductive Category where
  | digit
  | space
  | word
deriving DecidableEq

def Category.holds (unicode : Bool) : Category → Char → Bool
  | .digit, c => if unicode then Text.isDecimal c else c.isDigit
  | .space, c => if unicode then Text.isBlank c else Text.isAsciiBlank c
  | .word, c => if unicode then Text.isWordChar c else Text.isAsciiWordChar c

inductive Member where
  | single (code : Nat)
  | range (lo hi : Nat)
  | category (cat : Category) (negated : Bool)
deriving DecidableEq

inductive Greed where
  | greedy
  | reluctant
  | possessive
deriving DecidableEq

inductive Raw where
  | empty
  | literal (code : Nat) (negated : Bool)
  | set (negated : Bool) (members : List Member)
  | any
  | start
  | finish
  | textStart
  | textEnd
  | boundary (negated : Bool)
  | seq (a b : Raw)
  | never
  | alt (a rest : Raw)
  | loop (greed : Greed) (min : Nat) (max : Option Nat) (body : Raw)
  | group (index : Option Nat) (add del : Flags) (body : Raw)
  | atomic (body : Raw)
  | look (behind negated : Bool) (body : Raw)
  | backref (index : Nat)
  | cond (index : Nat) (yes : Raw) (no : Option Raw)

namespace Raw

def ofItems : List Raw → Raw
  | [] => .empty
  | [x] => x
  | x :: r => .seq x (ofItems r)

def items : Raw → List Raw
  | .empty => []
  | .seq a b => a :: b.items
  | x => [x]

def plainBody? : Raw → Option Raw
  | .group none add del body => if add = {} && del = {} then some body else none
  | _ => none

def unwrap (item : Raw) : List Raw :=
  match item.plainBody? with
  | some body => body.items
  | none => [item]

/-- Whether two items are the same character, class, place or reference. -/
def sameAtom : Raw → Raw → Bool
  | .literal a m, .literal b n => a == b && m == n
  | .set m as, .set n bs => m == n && as == bs
  | .any, .any => true
  | .start, .start => true
  | .finish, .finish => true
  | .textStart, .textStart => true
  | .textEnd, .textEnd => true
  | .boundary m, .boundary n => m == n
  | .backref a, .backref b => a == b
  | _, _ => false

/-- What the first choice and all others start with, and what remains of each. -/
def sharedStart : List Raw → List (List Raw) → List Raw × List (List Raw)
  | [], others => ([], [] :: others)
  | x :: first, others =>
    if others.all fun o => o.head?.any x.sameAtom then
      let (shared, rest) := sharedStart first (others.map List.tail)
      (x :: shared, rest)
    else ([], (x :: first) :: others)

def members? : List Raw → Option (List Member)
  | [.literal code false] => some [.single code]
  | [.set false members] => some members
  | _ => none

/-- Choices in order of preference, each given by its items. -/
def ofChoices : List (List Raw) → Raw
  | [] => .empty
  | [x] => ofItems x
  | x :: others =>
    let (shared, rest) := sharedStart x others
    let choice := match rest.mapM members? with
      | some members => .set false members.flatten.eraseDups
      | none => rest.foldr (fun c r => .alt (ofItems c) r) .never
    ofItems (shared ++ [choice])

def isPlace : Raw → Bool
  | .start => true
  | .finish => true
  | .textStart => true
  | .textEnd => true
  | .boundary _ => true
  | _ => false

def isLoop : Raw → Bool
  | .loop _ _ _ _ => true
  | _ => false

/-- The number of rounds that stands for any number of them. -/
def roundLimit : Nat := 4294967295

/-- Bounds on a length, the lower one below `roundLimit`, the upper one at most that. -/
def capped (lo hi : Nat) : Nat × Nat := (min lo (roundLimit - 1), min hi roundLimit)

/-- The least and greatest length of a match, given those of the groups closed so far. -/
def width (groups : List (Option (Nat × Nat))) : Raw → Nat × Nat
  | .literal _ _ => (1, 1)
  | .set _ _ => (1, 1)
  | .any => (1, 1)
  | .seq a b =>
    let (l₁, h₁) := a.width groups
    let (l₂, h₂) := b.width groups
    capped (l₁ + l₂) (h₁ + h₂)
  | .never => (roundLimit - 1, 0)
  | .alt a b =>
    let (l₁, h₁) := a.width groups
    let (l₂, h₂) := b.width groups
    (min l₁ l₂, max h₁ h₂)
  | .loop _ lo hi body =>
    let (l, h) := body.width groups
    capped (l * lo) (h * hi.getD roundLimit)
  | .group _ _ _ body => body.width groups
  | .atomic body => body.width groups
  | .backref n => (groups.getD n none).getD (0, 0)
  | .cond _ yes no =>
    let (l₁, h₁) := yes.width groups
    match no with
    | none => (0, h₁)
    | some no =>
      let (l₂, h₂) := no.width groups
      (min l₁ l₂, max h₁ h₂)
  | _ => (0, 0)

end Raw

end ShapeSearch.Pattern
