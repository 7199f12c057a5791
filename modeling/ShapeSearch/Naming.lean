import ShapeSearch.Path
import ShapeSearch.Signature
import ShapeSearch.Text.Blank

/-!
# Names of files and entities

`tokenize` cuts a name into lower-case words, at changes of case and at everything that is neither an
ASCII letter nor a digit.  `quickMatch` looks at the name of a file alone and says whether it could hold
what a signature asks for.
-/

namespace ShapeSearch.Naming

open Pattern

/-- A small letter or digit before a capital, or capitals before a capital with a small letter. -/
def caseBoundary : Compiled :=
  Pattern.fixed r"([a-z0-9])([A-Z])|([A-Z]+)([A-Z][a-z])" {}

def separators : Compiled :=
  Pattern.fixed r"[^A-Za-z0-9]+" {}

def spaced (m : Match) : List Char :=
  let piece (n : Nat) : List Char := ((m.span? n).map Span.chars).getD []
  if (m.span? 1).isSome then piece 1 ++ ' ' :: piece 2 else piece 3 ++ ' ' :: piece 4

def tokenize (name : String) : List String :=
  let pieces := separators.splitAll (caseBoundary.replaceAll spaced name.toList)
  (pieces.filter (!·.isEmpty)).map fun p => Text.lower (String.ofList p)

def stemFits (stem : String) : Option NameQuery → Except Misfit Bool
  | some (.pattern p) => p.matchesIn stem
  | some (.exact n) => .ok ((tokenize n).any (Text.contains (Text.lower stem)))
  | none => .ok false

/-- Whether a file could hold what a signature asks for, by its name alone. -/
def quickMatch (fileName : String) (sig : Signature) : Except Misfit Bool := do
  let stem := Path.stem fileName
  let fits ← stemFits stem sig.name
  .ok ((sig.name.isNone && sig.exports.isNone) || fits ||
    sig.exports.any fun e => Text.contains (Text.lower stem) (Text.lower e))

end ShapeSearch.Naming
