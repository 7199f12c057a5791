/-!
# Matching braces

`matchingBrace text i` is the place of the brace that closes the one at `i`, braces inside quotes apart;
without one it is the end of the text.  `topLevel` keeps of a block only what lies outside its inner
braces.
-/

namespace ShapeSearch.Outline

def isQuote (c : Char) : Bool :=
  c == '\'' || c == '"' || c == '\x60'

/-- The place of the closing brace: `pos` is where the text stands, `depth` counts open braces, and
`quote` is the quote that is open. -/
def closeFrom : Nat → Int → Option Char → List Char → Nat
  | pos, _, _, [] => pos
  | pos, depth, some q, c :: r =>
    if c == '\\' then
      match r with
      | [] => pos + 1
      | _ :: r' => closeFrom (pos + 2) depth (some q) r'
    else closeFrom (pos + 1) depth (if c == q then none else some q) r
  | pos, depth, none, c :: r =>
    if isQuote c then closeFrom (pos + 1) depth (some c) r
    else if c == '{' then closeFrom (pos + 1) (depth + 1) none r
    else if c == '}' then
      if depth - 1 = 0 then pos else closeFrom (pos + 1) (depth - 1) none r
    else closeFrom (pos + 1) depth none r

/-- The place of the brace that closes the one at a place, or the length of the text. -/
def matchingBrace (text : List Char) (i : Nat) : Nat :=
  closeFrom i 0 none (text.drop i)

/-- The text between the brace that a text starts with and the one that closes it. -/
def bracedBody (text : List Char) : List Char :=
  (text.take (matchingBrace text 0)).drop 1

/-- What lies outside inner braces, which collapse to empty ones; `out` holds what was kept, last
character first. -/
def topLevelFrom : Nat → List Char → List Char → List Char
  | _, [], out => out.reverse
  | depth, c :: r, out =>
    if c == '{' then topLevelFrom (depth + 1) r (if depth = 0 then c :: out else out)
    else if c == '}' then topLevelFrom (depth - 1) r (if depth - 1 = 0 then c :: out else out)
    else topLevelFrom depth r (if depth = 0 then c :: out else out)

def topLevel (body : List Char) : List Char :=
  topLevelFrom 0 body []

end ShapeSearch.Outline
