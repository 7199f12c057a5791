import ShapeSearch.Pattern.Search

/-!
# Globs

In a glob a star stands for any characters, a question mark for one, and brackets for one of a set.
`Glob.source` writes a glob as a pattern, and `Glob.fits` matches a whole name against it.
-/

namespace ShapeSearch.Glob

/-- The text up to the bracket that closes a set, and what follows it.  A bracket right after the
opening one, or after its exclamation mark, belongs to the set. -/
def splitSet (s : List Char) : Option (List Char × List Char) :=
  let (mark, s) := match s with
    | '!' :: r => (['!'], r)
    | _ => ([], s)
  let (first, s) := match s with
    | ']' :: r => ([']'], r)
    | _ => ([], s)
  match s.dropWhile (· ≠ ']') with
  | _ :: rest => some (mark ++ first ++ s.takeWhile (· ≠ ']'), rest)
  | [] => none

/-- The pieces of a set between the hyphens that form ranges; a range needs a character on each side, so
no hyphen right after another end counts.  `skip` characters are taken unseen. -/
def rangePieces : Nat → List Char → List Char → List (List Char)
  | _, piece, [] => [piece.reverse]
  | 0, piece, '-' :: r => piece.reverse :: rangePieces 2 [] r
  | 0, piece, c :: r => rangePieces 0 (c :: piece) r
  | n + 1, piece, c :: r => rangePieces n (c :: piece) r

/-- An empty last piece is a hyphen of the piece before. -/
def mendLast (ps : List (List Char)) : List (List Char) :=
  match ps.reverse with
  | [] :: p :: r => ((p ++ ['-']) :: r).reverse
  | _ => ps

def isEmptyRange (a b : List Char) : Bool :=
  match a.getLast?, b.head? with
  | some x, some y => y < x
  | _, _ => false

/-- Join pieces whose range is empty, from the last to the first. -/
def dropEmptyRanges : List (List Char) → List (List Char)
  | [] => []
  | p :: r =>
    match dropEmptyRanges r with
    | [] => [p]
    | q :: qs => if isEmptyRange p q then (p.dropLast ++ q.drop 1) :: qs else p :: q :: qs

/-- A piece of a set with what would be special in it marked. -/
def markPiece (hyphens : Bool) (p : List Char) : List Char :=
  p.flatMap fun c => if c == '\\' || (hyphens && c == '-') then ['\\', c] else [c]

/-- A set with the operators of sets marked. -/
def markOperators (p : List Char) : List Char :=
  p.flatMap fun c => if c == '&' || c == '~' || c == '|' then ['\\', c] else [c]

def setSource (stuff : List Char) : List Char :=
  let body :=
    if stuff.contains '-' then
      let skip := if stuff.head? == some '!' then 2 else 1
      let pieces := dropEmptyRanges (mendLast (rangePieces skip [] stuff))
      ['-'].intercalate (pieces.map (markPiece true))
    else markPiece false stuff
  match markOperators body with
  | [] => "(?!)".toList
  | ['!'] => ['.']
  | '!' :: r => '[' :: '^' :: r ++ [']']
  | c :: r => if c == '^' || c == '[' then '[' :: '\\' :: c :: r ++ [']'] else '[' :: c :: r ++ [']']

/-- A glob as a pattern; every step takes at least one character. -/
def sourceFrom : Nat → List Char → List Char
  | 0, _ => []
  | _, [] => []
  | n + 1, c :: r =>
    if c == '*' then '.' :: '*' :: sourceFrom n (r.dropWhile (· == '*'))
    else if c == '?' then '.' :: sourceFrom n r
    else if c == '[' then
      match splitSet r with
      | some (stuff, rest) => setSource stuff ++ sourceFrom n rest
      | none => '\\' :: '[' :: sourceFrom n r
    else (Pattern.quoteText c.toString).toList ++ sourceFrom n r

def source (glob : String) : String :=
  String.ofList (sourceFrom glob.length glob.toList) ++ r"\Z"

def fits (glob name : String) : Bool :=
  ((Pattern.fixed (source glob) { dotAll := true }).matchStart? name).isSome

end ShapeSearch.Glob
