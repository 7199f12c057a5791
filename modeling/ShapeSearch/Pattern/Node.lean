import ShapeSearch.Pattern.CharTest

/-!
# Patterns to match

`Node` is a pattern with the modes in force at each place (case, lines, script) worked in.
`Raw.compile?` makes one from a written pattern; it refuses a look behind whose length is not fixed.

Some parts look ahead.  A choice notes the test that it starts with, if that is a plain one, so that the
choice is passed over where the test fails.  A repetition of one character notes the character that has
to follow it, if that is a given one.
-/

namespace ShapeSearch.Pattern

inductive Anchor where
  | textStart
  | lineStart
  | lastEnd
  | lineEnd
  | textEnd
  | boundary (unicode : Bool) (negated : Bool)
deriving DecidableEq

/-- A pattern with its modes worked in. -/
inductive Node where
  | empty
  | unit (t : CharTest)
  | anchor (a : Anchor)
  | seq (a b : Node)
  | never
  | alt (lead : Option CharTest) (a rest : Node)
  | many (greed : Greed) (min : Nat) (max : Option Nat) (t : CharTest) (follow : Option CharTest)
  | loop (greed : Greed) (min : Nat) (max : Option Nat) (body : Node)
  | group (index : Nat) (body : Node)
  | atomic (body : Node)
  | look (negated : Bool) (back : Nat) (body : Node)
  | backref (index : Nat) (fold : Fold)
  | cond (index : Nat) (yes no : Node)
deriving DecidableEq

/-- What stands at a place of a pattern: a test on one character, or something else. -/
inductive Part where
  | test (t : CharTest)
  | other
deriving DecidableEq

def Part.test? (p : CharTest → Bool) : Part → Option CharTest
  | .test t => if p t then some t else none
  | .other => none

def Node.first? : Node → Option Part
  | .empty => none
  | .unit t => some (.test t)
  | .seq a b => a.first? <|> b.first?
  | _ => some .other

def Node.reachBack : Node → Nat
  | .seq a b => max a.reachBack b.reachBack
  | .alt _ a rest => max a.reachBack rest.reachBack
  | .loop _ _ _ body => body.reachBack
  | .group _ body => body.reachBack
  | .atomic body => body.reachBack
  | .look _ back body => max back body.reachBack
  | .cond _ yes no => max yes.reachBack no.reachBack
  | _ => 0

namespace Raw

/-- Work the modes into a pattern; `follow` is what stands after it. -/
def compile? (groups : List (Option (Nat × Nat))) (f : Flags) (follow : Part) : Raw → Option Node
  | .empty => some .empty
  | .literal code neg => some (.unit (.one f code neg))
  | .set neg members => some (.unit (.set f neg members))
  | .any => some (.unit (.any f))
  | .start => some (.anchor (if f.multiline then .lineStart else .textStart))
  | .finish => some (.anchor (if f.multiline then .lineEnd else .lastEnd))
  | .textStart => some (.anchor .textStart)
  | .textEnd => some (.anchor .textEnd)
  | .boundary neg => some (.anchor (.boundary f.unicode neg))
  | .seq a b => do
    let b ← b.compile? groups f follow
    some (.seq (← a.compile? groups f (b.first?.getD follow)) b)
  | .never => some .never
  | .alt a rest => do
    let a ← a.compile? groups f .other
    some (.alt (a.first?.bind (·.test? CharTest.isPlain)) a (← rest.compile? groups f .other))
  | .loop greed lo hi body =>
    if f.template then none
    else do
      match ← body.compile? groups f .other with
      | .unit t => some (.many greed lo hi t (follow.test? CharTest.isLiteral))
      | body => some (.loop greed lo hi body)
  | .group none add del body => body.compile? groups (f.within add del) follow
  | .group (some n) add del body => do
    some (.group n (← body.compile? groups (f.within add del) .other))
  | .atomic body => do some (.atomic (← body.compile? groups f .other))
  | .look behind neg body => do
    let (lo, hi) := if behind then body.width groups else (0, 0)
    if lo = hi then some (.look neg lo (← body.compile? groups f .other)) else none
  | .backref n => some (.backref n (Fold.ofFlags f))
  | .cond n yes none => do some (.cond n (← yes.compile? groups f follow) .empty)
  | .cond n yes (some no) => do
    let no ← no.compile? groups f follow
    let yes ← yes.compile? groups f (if no.first?.isSome then .other else follow)
    some (.cond n yes no)

/-- Whether a pattern starts with a character or a set that are compared as they are; a group without
items is passed over only on the way to a character. -/
def startsWithLiteral (f : Flags) : Raw → Option Bool
  | .empty => none
  | .literal code neg => some (!neg && !(Fold.ofFlags f).distinguishes code)
  | .seq a b => a.startsWithLiteral f <|> b.startsWithLiteral f
  | .group _ add del body => body.startsWithLiteral (f.within add del)
  | _ => some false

/-- Whether a pattern is one of several choices that each start with a character compared as it is. -/
def choicesAreLiteral (f : Flags) : Raw → Bool
  | .never => true
  | .alt a rest =>
    (match a.items.head? with
      | some (.literal code neg) => !neg && !(Fold.ofFlags f).distinguishes code
      | _ => false) && rest.choicesAreLiteral f
  | _ => false

/-- Whether a pattern starts with a set, or with choices between characters, compared as they are. -/
def startsWithSet (f : Flags) : Raw → Bool
  | .set _ members =>
    !members.any fun
      | .single code => (Fold.ofFlags f).distinguishes code
      | m => Fold.ofFlags f != .exact && m.isCased (Fold.ofFlags f)
  | .alt a rest => choicesAreLiteral f (.alt a rest)
  | .seq a _ => a.startsWithSet f
  | .group _ add del body => body.startsWithSet (f.within add del)
  | _ => false

/-- Whether the places where a match can start are told by the next character alone. -/
def opensPlainly (f : Flags) (r : Raw) : Bool :=
  (r.startsWithLiteral f).getD false || r.startsWithSet f

end Raw

end ShapeSearch.Pattern
