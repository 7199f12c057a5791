import ShapeSearch.Command.Tool.Lines

/-!
# Programs that deal with names of files
-/

namespace ShapeSearch.Command.Tool

/-- A name without slashes at its end; a name of slashes is one slash. -/
def withoutSlashes (n : Bytes) : Bytes :=
  let t := (n.reverse.dropWhile (· == '/')).reverse
  if t.isEmpty && !n.isEmpty then ['/'] else t

def lastPart (n : Bytes) : Bytes :=
  let t := withoutSlashes n
  if t == ['/'] then t else (t.reverse.takeWhile (· != '/')).reverse

def parentPart (n : Bytes) : Bytes :=
  let t := withoutSlashes n
  if t == ['/'] then t
  else if t.contains '/' then withoutSlashes ((t.reverse.dropWhile (· != '/')).reverse)
  else ['.']

/-- A name without an ending, unless nothing else is left. -/
def dropEnding (ending n : Bytes) : Bytes :=
  if ending.reverse.isPrefixOf n.reverse && n != ending then n.take (n.length - ending.length) else n

def basename (r : Request) : Reply :=
  match r.arguments [⟨'a', "multiple", false⟩, ⟨'s', "suffix", true⟩, ⟨'z', "zero", false⟩] false with
  | .error e => r.failWithHint e
  | .ok a =>
    let many := a.has 'a' || a.has 's'
    match a.operands with
    | [] => r.failWithHint "missing operand".toList
    | _ :: _ :: extra :: _ =>
      if many then { Reply.ofOutput (print a many) with rest := r.input }
      else r.failWithHint ("extra operand ".toList ++ shownWord extra)
    | _ => { Reply.ofOutput (print a many) with rest := r.input }
where
  print (a : Arguments) (many : Bool) : Bytes :=
    if many then
      a.operands.flatMap fun n => dropEnding ((a.get? 's').getD []) (lastPart n) ++ ['\n']
    else dropEnding ((a.operands[1]?).getD []) (lastPart (a.operands.headD [])) ++ ['\n']

def dirname (r : Request) : Reply :=
  match r.arguments [⟨'z', "zero", false⟩] false with
  | .error e => r.failWithHint e
  | .ok a =>
    if a.operands.isEmpty then r.failWithHint "missing operand".toList
    else { Reply.ofOutput (a.operands.flatMap fun n => parentPart n ++ ['\n']) with rest := r.input }

def listing (w : World) (a : Arguments) (dir : Bytes) : Bytes :=
  let names := Files.entries w dir
  let names := if a.has 'a' then ['.'] :: ['.', '.'] :: names
    else if a.has 'A' then names
    else names.filter fun n => n.head? != some '.'
  let names := names.mergeSort fun x y => !(y < x)
  Bytes.ofLines (if a.has 'r' then names.reverse else names)

def ls (r : Request) : Reply :=
  match r.arguments [⟨'1', "", false⟩, ⟨'a', "all", false⟩, ⟨'A', "almost-all", false⟩,
      ⟨'d', "directory", false⟩, ⟨'r', "reverse", false⟩, ⟨'C', "", false⟩, ⟨'U', "", false⟩] with
  | .error e => r.failWithHint e 2
  | .ok a =>
    let operands := if a.operands.isEmpty then [['.']] else a.operands
    let operands := operands.mergeSort fun x y => !(y < x)
    let missing := operands.filter fun n => (Files.node? r.world n).isNone && !Files.isLink r.world n
    let isDir (n : Bytes) : Bool := match Files.node? r.world n with
      | some (.dir _) => !a.has 'd'
      | _ => false
    let present := operands.filter fun n => !missing.contains n
    let files := present.filter fun n => !isDir n
    let dirs := present.filter isDir
    let errors := missing.flatMap fun n =>
      r.message ("cannot access ".toList ++ quotedName n ++ ": No such file or directory\n".toList)
    let titled := 1 < operands.length
    let blocks := (if files.isEmpty then [] else [Bytes.ofLines files]) ++ dirs.map fun d =>
      (if titled then d ++ ":\n".toList else []) ++ listing r.world a d
    { status := if missing.isEmpty then 0 else 2, rest := r.input
      printed := [(.errors, errors), (.output, Bytes.joined ['\n'] blocks)] }

def printenv (r : Request) : Reply :=
  match r.args with
  | [] => { Reply.ofOutput (r.env.flatMap fun (n, v) => n ++ '=' :: v ++ ['\n']) with rest := r.input }
  | names =>
    let found := names.map fun n => (r.env.find? (·.1 == n)).map (·.2)
    { printed := [(.output, Bytes.ofLines (found.filterMap id))], rest := r.input
      status := if found.any Option.isNone then 1 else 0 }

end ShapeSearch.Command.Tool
