import ShapeSearch.Command.Shell.Wildcard
import ShapeSearch.Command.Tool.Lines

/-!
# Translating bytes

A set of bytes is written as the bytes themselves, ranges, classes and repetitions.  `tr` translates the
bytes of one set to those of another, deletes them, or leaves only the first of several equal ones.
-/

namespace ShapeSearch.Command.Tool

inductive SetElement where
  | bytes (bs : Bytes)
  /-- a byte as often as it takes to fill the set -/
  | fill (c : Char)

/-- A byte of a set, read with its backslash, and what follows; the flag says that there was one. -/
def setByte : Bytes → Option (Char × Bool × Bytes)
  | [] => none
  | ['\\'] => some ('\\', false, [])
  | '\\' :: c :: r =>
    if isOctal c then
      let (v, rest) := takeOctal 3 (c :: r) 0
      some (Bytes.ofNumber v, true, rest)
    else
      match c with
      | 'e' => some ('e', true, r)
      | _ => some ((letterEscape? c).getD c, true, r)
  | c :: r => some (c, false, r)

def classBytes (name : Bytes) : Option Bytes :=
  if (Shell.classHolds name 'a').isSome then
    some ((List.range 256).map Char.ofNat |>.filter fun c => (Shell.classHolds name c).getD false)
  else none

def byteRange (a b : Char) : Bytes :=
  (List.range (b.toNat + 1 - a.toNat)).map fun i => Char.ofNat (a.toNat + i)

/-- The number of a repetition, octal if it starts with zero. -/
def repeatCount? (ds : Bytes) : Option Nat :=
  match ds with
  | '0' :: _ => if ds.all isOctal then some (takeOctal ds.length ds 0).1 else none
  | _ => Bytes.nat? ds

def setElements : Nat → Bytes → List SetElement → Except Bytes (List SetElement)
  | 0, _, out => .ok out.reverse
  | _, [], out => .ok out.reverse
  | fuel + 1, s, out =>
    let plain : Except Bytes (List SetElement) :=
      match setByte s with
      | none => .ok out.reverse
      | some (a, _, '-' :: r) =>
        match setByte r with
        | none => setElements fuel ('-' :: r) (.bytes [a] :: out)
        | some (b, _, rest) =>
          if b < a then
            .error ("range-endpoints of '".toList ++ [a, '-', b] ++
              "' are in reverse collating sequence order".toList)
          else setElements fuel rest (.bytes (byteRange a b) :: out)
      | some (a, _, rest) => setElements fuel rest (.bytes [a] :: out)
    match s with
    | '[' :: ':' :: r =>
      let name := r.takeWhile (· != ':')
      match r.dropWhile (· != ':') with
      | ':' :: ']' :: rest =>
        match classBytes name with
        | some bs => setElements fuel rest (.bytes bs :: out)
        | none => .error ("invalid character class ".toList ++ shownWord name)
      | _ => plain
    | '[' :: '=' :: c :: '=' :: ']' :: rest => setElements fuel rest (.bytes [c] :: out)
    | '[' :: r =>
      match setByte r with
      | some (c, _, '*' :: more) =>
        let digits := more.takeWhile Char.isDigit
        match more.dropWhile Char.isDigit with
        | ']' :: rest =>
          match repeatCount? digits with
          | some 0 => setElements fuel rest (.fill c :: out)
          | some n => setElements fuel rest (.bytes (List.replicate n c) :: out)
          | none => if digits.isEmpty then setElements fuel rest (.fill c :: out) else plain
        | _ => plain
      | _ => plain
    | _ => plain

/-- The bytes of a set that has to have a given number of them if something in it can fill it. -/
def setBytes (elements : List SetElement) (wanted : Nat) : Bytes :=
  let given := elements.foldl (fun n e => match e with
    | .bytes bs => n + bs.length
    | .fill _ => n) 0
  elements.flatMap fun
    | .bytes bs => bs
    | .fill c => List.replicate (wanted - given) c

def otherBytes (s : Bytes) : Bytes :=
  ((List.range 256).map Char.ofNat).filter fun c => !s.contains c

def squeeze (s bs : Bytes) : Bytes :=
  (bs.foldl (fun (out : Bytes) c => if out.head? == some c && s.contains c then out else c :: out) []).reverse

def tr (r : Request) : Reply :=
  match r.arguments [⟨'c', "complement", false⟩, ⟨'C', "", false⟩, ⟨'d', "delete", false⟩,
      ⟨'s', "squeeze-repeats", false⟩, ⟨'t', "truncate-set1", false⟩] false with
  | .error e => r.failWithHint e
  | .ok a =>
    let delete := a.has 'd'
    let squeezing := a.has 's'
    let least := if delete == squeezing then 2 else 1
    let most := if delete && !squeezing then 1 else 2
    let count := a.operands.length
    if count < least then
      match a.operands.getLast? with
      | none => r.failWithHint "missing operand".toList
      | some last =>
        r.failWithHint ("missing operand after ".toList ++ shownWord last ++
          (if squeezing then "\nTwo strings must be given when both deleting and squeezing repeats."
            else "\nTwo strings must be given when translating.").toList)
    else if most < count then
      r.failWithHint ("extra operand ".toList ++ shownWord ((a.operands[most]?).getD []) ++
        (if count == 2 then "\nOnly one string may be given when deleting without squeezing repeats.".toList
          else []))
    else
      let read (s : Bytes) : Except Bytes (List SetElement) := setElements s.length s []
      match read (a.operands.headD []), read ((a.operands[1]?).getD []) with
      | .error e, _ => r.fail e
      | _, .error e => r.fail e
      | .ok first, .ok second =>
        let complement := a.has 'c' || a.has 'C'
        let set1 := setBytes first 0
        let set1 := if complement then otherBytes set1 else set1
        let set2 := setBytes second set1.length
        if delete then
          let kept := r.input.filter fun c => !set1.contains c
          .ofOutput (if squeezing then squeeze set2 kept else kept)
        else if squeezing && count == 1 then .ofOutput (squeeze set1 r.input)
        else if set2.isEmpty && !a.has 't' then
          r.fail "when not truncating set1, string2 must be non-empty".toList
        else
          let filler := set2.getLast?
          let pairs := set1.zipIdx.filterMap fun (c, i) =>
            match set2[i]? with
            | some d => some (c, d)
            | none => if a.has 't' then none else filler.map (c, ·)
          let pairs := pairs.reverse
          let out := r.input.map fun c => ((pairs.find? (·.1 == c)).map (·.2)).getD c
          .ofOutput (if squeezing then squeeze set2 out else out)

end ShapeSearch.Command.Tool
