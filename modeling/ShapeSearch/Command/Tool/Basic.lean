import ShapeSearch.Command.Files
import ShapeSearch.Command.Format
import ShapeSearch.Command.Tool.Request

/-!
# Programs that print, copy and wait
-/

namespace ShapeSearch.Command.Tool

def isSimpleName (s : Bytes) : Bool :=
  !s.isEmpty && s.head? != some '~' && s.head? != some '#' &&
    s.all fun c => c.isAlphanum || "_-./+,@%~#\x7b\x7d]".toList.contains c || 128 ≤ c.toNat

def quotedName (s : Bytes) : Bytes :=
  if s.contains '\'' && !s.any ("\"$\\\x60!".toList.contains ·) then '"' :: s ++ ['"']
  else '\'' :: (s.flatMap fun c => if c == '\'' then "'\\''".toList else [c]) ++ ['\'']

/-- A name as messages show it: with quotes where it needs them. -/
def shownName (s : Bytes) : Bytes :=
  if isSimpleName s then s else quotedName s

def shownByte (c : Char) : Bytes :=
  match c with
  | '\\' => ['\\', '\\']
  | '\n' => ['\\', 'n']
  | '\t' => ['\\', 't']
  | '\r' => ['\\', 'r']
  | c => [c]

def shownWord (s : Bytes) : Bytes := Bytes.encode "‘" ++ s.flatMap shownByte ++ Bytes.encode "’"

/-- The inputs that operands name, each with its operand; `-` stands for the input of the program, which is
read once. -/
def inputsOf (r : Request) (operands : List Bytes) : List (Bytes × Except OpenFault Bytes) :=
  let rec go (input : Bytes) : List Bytes → List (Bytes × Except OpenFault Bytes)
    | [] => []
    | n :: ns =>
      if n == ['-'] || n == "/dev/stdin".toList then (n, .ok input) :: go [] ns
      else (n, Files.read r.world n) :: go input ns
  go r.input (if operands.isEmpty then [['-']] else operands)

def readsInput (operands : List Bytes) : Bool :=
  operands.isEmpty || operands.any fun n => n == ['-'] || n == "/dev/stdin".toList

/-- The input left after a program that reads all of it if its operands name it. -/
def restAfter (r : Request) (operands : List Bytes) : Bytes :=
  if readsInput operands then [] else r.input

/-- Print every input that operands name, changed by a function that is told all of the bytes. -/
def printInputs (r : Request) (operands : List Bytes) (change : Bytes → Bytes) : Reply :=
  let parts := inputsOf r operands
  let printed := parts.map fun (n, content) =>
    match content with
    | .ok bs => (Stream.output, change bs)
    | .error e => (Stream.errors, r.message (shownName n ++ ": ".toList ++ (Files.faultText e).toList ++ ['\n']))
  { status := if parts.any (fun p => p.2.toOption.isNone) then 1 else 0
    printed, rest := restAfter r operands }

/-- Lines with their ends; the last one may have none. -/
def fullLines (bs : Bytes) : List Bytes :=
  let ls := Bytes.lines bs
  if Bytes.endsLine bs then ls.map (· ++ ['\n'])
  else
    match ls.reverse with
    | last :: before => (before.reverse.map (· ++ ['\n'])) ++ [last]
    | [] => []

structure CatStyle where
  number : Bool
  numberFilled : Bool
  squeeze : Bool
  showEnds : Bool
  showTabs : Bool
  showOthers : Bool

/-- A byte that cannot be seen, as letters. -/
def visibleByte (tabs : Bool) (c : Char) : Bytes :=
  let low (n : Nat) : Bytes :=
    if n < 32 then ['^', Char.ofNat (n + 64)] else if n == 127 then ['^', '?'] else [Char.ofNat n]
  if c == '\n' || (c == '\t' && !tabs) then [c]
  else if c.toNat < 128 then low c.toNat
  else ['M', '-'] ++ low (c.toNat - 128)

def catLines (st : CatStyle) : List Bytes → Nat → Bool → List Bytes → List Bytes
  | done, _, _, [] => done
  | done, n, wasEmpty, l :: r =>
    let isEmpty := l == ['\n']
    if st.squeeze && isEmpty && wasEmpty then catLines st done n true r
    else
      let counted := if st.numberFilled then !isEmpty else st.number
      let digits := Bytes.ofNat (n + 1)
      let start := if counted then List.replicate (6 - digits.length) ' ' ++ digits ++ ['\t'] else []
      let body := l.flatMap fun c =>
        if c == '\n' then (if st.showEnds then ['$', '\n'] else ['\n'])
        else if c == '\t' then (if st.showTabs then ['^', 'I'] else ['\t'])
        else if st.showOthers then visibleByte st.showTabs c
        else [c]
      catLines st ((start ++ body) :: done) (if counted then n + 1 else n) isEmpty r

def cat (r : Request) : Reply :=
  match r.arguments [⟨'A', "show-all", false⟩, ⟨'b', "number-nonblank", false⟩, ⟨'e', "", false⟩,
      ⟨'E', "show-ends", false⟩, ⟨'n', "number", false⟩, ⟨'s', "squeeze-blank", false⟩, ⟨'t', "", false⟩,
      ⟨'T', "show-tabs", false⟩, ⟨'u', "", false⟩, ⟨'v', "show-nonprinting", false⟩] with
  | .error e => r.failWithHint e
  | .ok a =>
    let st : CatStyle := {
      number := a.has 'n', numberFilled := a.has 'b', squeeze := a.has 's'
      showEnds := a.has 'A' || a.has 'e' || a.has 'E', showTabs := a.has 'A' || a.has 't' || a.has 'T'
      showOthers := a.has 'A' || a.has 'e' || a.has 't' || a.has 'v' }
    if st.number || st.numberFilled || st.squeeze || st.showEnds || st.showTabs || st.showOthers then
      let parts := inputsOf r a.operands
      let all := parts.flatMap fun p => (p.2.toOption).getD []
      let reply := printInputs r a.operands fun _ => []
      { reply with printed := (.output, (catLines st [] 0 false (fullLines all)).reverse.flatten) :: reply.printed }
    else printInputs r a.operands id

def duration? (s : Bytes) : Option Float :=
  let (digits, unit) := match s.reverse with
    | 's' :: r => (r.reverse, 1.0)
    | 'm' :: r => (r.reverse, 60.0)
    | 'h' :: r => (r.reverse, 3600.0)
    | 'd' :: r => (r.reverse, 86400.0)
    | _ => (s, 1.0)
  match Text.readFloat? (String.ofList digits) with
  | some x => if x < 0.0 || digits.contains '_' then none else some (x * unit)
  | none => none

def sleep (r : Request) : Reply :=
  match r.arguments [] with
  | .error e => r.failWithHint e
  | .ok a =>
    if a.operands.isEmpty then r.failWithHint "missing operand".toList
    else
      match a.operands.filter fun s => (duration? s).isNone with
      | [] => {
          elapsedMs := (a.operands.filterMap duration?).foldl (· + ·) 0.0 * 1000.0
          rest := r.input }
      | bad =>
        let lines := bad.flatMap fun s =>
          r.message ("invalid time interval ".toList ++ shownWord s ++ ['\n'])
        { status := 1, rest := r.input
          printed := [(.errors, lines ++ "Try '".toList ++ r.name ++
            " --help' for more information.\n".toList)] }

def programComplaints (r : Request) : Complaints where
  dialect := .programFormat
  textDialect := .programText
  number fault a := match fault with
    | .outOfRange => r.message (shownWord a ++ ": Numerical result out of range".toList)
    | .trailing => r.message (shownWord a ++ ": value not completely converted".toList)
    | _ => r.message (shownWord a ++ ": expected a numeric value".toList)
  directive shown := r.message (shown ++ ": invalid conversion specification".toList)
  directiveStatus := 1
  unfinished shown := r.message (shown ++ ": invalid conversion specification".toList)
  quoted? := some shownName

def printf (r : Request) : Reply :=
  let args := match r.args with
    | ['-', '-'] :: rest => rest
    | rest => rest
  match args with
  | [] => r.failWithHint "missing operand".toList
  | format :: rest =>
    let (reply, left) := printFormat (programComplaints r) format rest
    let warning := match left, reply.status with
      | a :: _, 0 => [(Stream.errors, r.message ("warning: ignoring excess arguments, starting with ".toList ++
          shownWord a ++ ['\n']))]
      | _, _ => []
    { reply with printed := reply.printed ++ warning, rest := r.input }

def tee (r : Request) : Reply :=
  match r.arguments [⟨'a', "append", false⟩, ⟨'i', "ignore-interrupts", false⟩, ⟨'p', "", false⟩] with
  | .error e => r.failWithHint e
  | .ok a =>
    let (world, errors) := a.operands.foldl (fun ((w, errors) : World × Bytes) n =>
      let old := if a.has 'a' then (Files.read w n).toOption.getD [] else []
      match Files.write w n (old ++ r.input) with
      | .ok w => (w, errors)
      | .error e =>
        if n == "/dev/null".toList then (w, errors)
        else (w, errors ++ r.message (shownName n ++ ": ".toList ++ (Files.faultText e).toList ++ ['\n'])))
      (r.world, [])
    { status := if errors.isEmpty then 0 else 1, world := some world
      printed := [(.errors, errors), (.output, r.input)] }

end ShapeSearch.Command.Tool
