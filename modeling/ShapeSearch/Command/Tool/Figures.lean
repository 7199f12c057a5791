import ShapeSearch.Command.Tool.Lines

/-!
# Programs that calculate
-/

namespace ShapeSearch.Command.Tool

/-- A number with decimals: its digits as a whole number, and how many of them are decimals. -/
structure Scaled where
  value : Int
  places : Nat

def scaled? (s : Bytes) : Option Scaled :=
  let (negative, t) := match s with
    | '-' :: r => (true, r)
    | '+' :: r => (false, r)
    | r => (false, r)
  let whole := t.takeWhile Char.isDigit
  let (part, rest) := match t.dropWhile Char.isDigit with
    | '.' :: r => (r.takeWhile Char.isDigit, r.dropWhile Char.isDigit)
    | r => ([], r)
  if (whole.isEmpty && part.isEmpty) || !rest.isEmpty then none
  else
    let n : Int := Bytes.digitsValue (whole ++ part)
    some ⟨if negative then -n else n, part.length⟩

def Scaled.toPlaces (n : Scaled) (places : Nat) : Int := n.value * Nat.pow 10 (places - n.places)

def placesText (places : Nat) (n : Int) : Bytes :=
  let text := (Decimal.placesText places n.natAbs).toList
  let text := if places == 0 && n == 0 then ['0'] else text
  if n < 0 then '-' :: text else text

/-- The numbers that `seq` prints, at most `fuel` of them. -/
def countUp : Nat → Int → Int → Int → List Int
  | 0, _, _, _ => []
  | fuel + 1, n, step, last =>
    if (0 < step && last < n) || (step < 0 && n < last) then [] else n :: countUp fuel (n + step) step last

def seqOptions : Nat → List Bytes → Bytes → Bool → Except Bytes (Bytes × Bool × List Bytes)
  | 0, args, sep, wide => .ok (sep, wide, args)
  | fuel + 1, args, sep, wide =>
    match args with
    | ['-', 's'] :: s :: r => seqOptions fuel r s wide
    | ['-', 's'] :: [] => .error "option requires an argument -- 's'".toList
    | ('-' :: 's' :: s) :: r => seqOptions fuel r s wide
    | ['-', 'w'] :: r => seqOptions fuel r sep true
    | ['-', '-'] :: r => .ok (sep, wide, r)
    | ('-' :: '-' :: name) :: r =>
      if name == "equal-width".toList then seqOptions fuel r sep true
      else if "separator=".toList.isPrefixOf name then seqOptions fuel r (name.drop 10) wide
      else .error ("unrecognized option '--".toList ++ name ++ ['\''])
    | ('-' :: c :: _) :: _ =>
      if c.isDigit || c == '.' then .ok (sep, wide, args) else .error ("invalid option -- '".toList ++ [c, '\''])
    | _ => .ok (sep, wide, args)

def seq (r : Request) : Reply :=
  match seqOptions (r.args.length + 1) r.args ['\n'] false with
  | .error e => r.failWithHint e
  | .ok (sep, wide, operands) =>
    match operands with
    | [] => r.failWithHint "missing operand".toList
    | _ :: _ :: _ :: extra :: _ => r.failWithHint ("extra operand ".toList ++ shownWord extra)
    | _ =>
      match operands.find? fun o => (scaled? o).isNone with
      | some bad => r.failWithHint ("invalid floating point argument: ".toList ++ shownWord bad)
      | none =>
        let one : Scaled := ⟨1, 0⟩
        let (first, step, last) := match operands.filterMap scaled? with
          | [l] => (one, one, l)
          | [f, l] => (f, one, l)
          | [f, s, l] => (f, s, l)
          | _ => (one, one, one)
        if step.value == 0 then
          r.failWithHint ("invalid Zero increment value: ".toList ++ shownWord ((operands[1]?).getD []))
        else
          let places := max first.places step.places
          let scale := max places last.places
          let up := Nat.pow 10 (scale - places)
          let numbers := countUp 200000 (first.toPlaces scale) (step.toPlaces scale) (last.toPlaces scale)
          let texts := numbers.map fun n => placesText places (Int.tdiv n up)
          let width := texts.foldl (fun w t => max w t.length) 0
          let texts := if wide then texts.map fun t =>
              match t with
              | '-' :: ds => '-' :: List.replicate (width - t.length) '0' ++ ds
              | ds => List.replicate (width - ds.length) '0' ++ ds
            else texts
          { Reply.ofOutput (if texts.isEmpty then [] else Bytes.joined sep texts ++ ['\n']) with rest := r.input }

end ShapeSearch.Command.Tool
