import ShapeSearch.Command.Bytes

/-!
# Patterns with wildcards

A pattern stands for names or texts: `*` for any bytes, `?` for one byte, and a set in brackets for one of
its members.  A quoted character stands for itself.
-/

namespace ShapeSearch.Command.Shell

def classHolds (name : Bytes) (c : Char) : Option Bool :=
  match String.ofList name with
  | "alpha" => some c.isAlpha
  | "digit" => some c.isDigit
  | "alnum" => some c.isAlphanum
  | "upper" => some c.isUpper
  | "lower" => some c.isLower
  | "space" => some (c == ' ' || ('\t' ≤ c && c ≤ '\r'))
  | "blank" => some (c == ' ' || c == '\t')
  | "punct" => some ('!' ≤ c && c ≤ '~' && !c.isAlphanum)
  | "print" => some (' ' ≤ c && c ≤ '~')
  | "graph" => some ('!' ≤ c && c ≤ '~')
  | "cntrl" => some (c < ' ' || c == '\x7f')
  | "xdigit" => some (c.isDigit || ('a' ≤ c && c ≤ 'f') || ('A' ≤ c && c ≤ 'F'))
  | _ => none

inductive SetMember where
  | range (first last : Char)
  | named (name : Bytes)

def SetMember.holds (c : Char) : SetMember → Bool
  | .range first last => first ≤ c && c ≤ last
  | .named name => (classHolds name c).getD false

inductive Wild where
  | one (c : Char)
  | any
  | many
  | set (negated : Bool) (members : List SetMember)

/-- A character of a pattern, with whether it is quoted. -/
abbrev Marked := Char × Bool

def className? : List Marked → Bytes → Option (Bytes × List Marked)
  | (':', _) :: (']', _) :: r, out => some (out.reverse, r)
  | (c, _) :: r, out => if c.isAlpha then className? r (c :: out) else none
  | [], _ => none

/-- The members of a set up to its bracket, and what follows; `first` says that a bracket is a member. -/
def setMembers? : Nat → Bool → List Marked → List SetMember → Option (List SetMember × List Marked)
  | 0, _, _, _ => none
  | _, _, [], _ => none
  | fuel + 1, first, (c, quoted) :: r, out =>
    if c == ']' && !quoted && !first then some (out.reverse, r)
    else
      let single :=
        match r with
        | ('-', false) :: (d, e) :: r' =>
          if d == ']' && !e then setMembers? fuel false r (.range c c :: out)
          else setMembers? fuel false r' (.range c d :: out)
        | _ => setMembers? fuel false r (.range c c :: out)
      match c, quoted, r with
      | '[', false, (':', false) :: r' =>
        match className? r' [] with
        | some (name, r'') => setMembers? fuel false r'' (.named name :: out)
        | none => single
      | _, _, _ => single

/-- The pattern that marked characters spell; `fuel` is at least their number. -/
def wildsFrom : Nat → List Marked → List Wild
  | 0, _ => []
  | _, [] => []
  | fuel + 1, (c, true) :: r => .one c :: wildsFrom fuel r
  | fuel + 1, ('*', false) :: r => .many :: wildsFrom fuel r
  | fuel + 1, ('?', false) :: r => .any :: wildsFrom fuel r
  | fuel + 1, ('[', false) :: r =>
    let (negated, body) := match r with
      | ('!', false) :: r' => (true, r')
      | _ => (false, r)
    match setMembers? (body.length + 1) true body [] with
    | some (members, rest) => .set negated members :: wildsFrom fuel rest
    | none => .one '[' :: wildsFrom fuel r
  | fuel + 1, (c, false) :: r => .one c :: wildsFrom fuel r

def wilds (cs : List Marked) : List Wild := wildsFrom cs.length cs

/-- The ends of a text, longest first. -/
def suffixes : Bytes → List Bytes
  | [] => [[]]
  | c :: s => (c :: s) :: suffixes s

def fits : List Wild → Bytes → Bool
  | [], s => s.isEmpty
  | .many :: p, s => (suffixes s).any (fits p)
  | .one c :: p, d :: s => c == d && fits p s
  | .any :: p, _ :: s => fits p s
  | .set negated members :: p, c :: s => (members.any (SetMember.holds c) != negated) && fits p s
  | _ :: _, [] => false

def hasWild (cs : List Marked) : Bool :=
  (wilds cs).any fun
    | .one _ => false
    | _ => true

def trimStart (longest : Bool) (p : List Wild) (s : Bytes) : Bytes :=
  let cuts := List.range (s.length + 1)
  match (if longest then cuts.reverse else cuts).find? fun n => fits p (s.take n) with
  | some n => s.drop n
  | none => s

def trimEnd (longest : Bool) (p : List Wild) (s : Bytes) : Bytes :=
  let cuts := List.range (s.length + 1)
  match (if longest then cuts else cuts.reverse).find? fun n => fits p (s.drop n) with
  | some n => s.take n
  | none => s

end ShapeSearch.Command.Shell
