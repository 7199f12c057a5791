import ShapeSearch.Command.Format
import ShapeSearch.Command.Shell.Condition
import ShapeSearch.Command.Shell.Fields
import ShapeSearch.Command.Shell.Reader
import ShapeSearch.Command.Shell.Session

/-!
# Commands of the shell itself

The commands that the shell runs without starting a program, apart from those that run further commands.
A special one ends the shell when it fails.
-/

namespace ShapeSearch.Command.Shell

open Act

def builtinNames : List String :=
  ["[", "alias", "bg", "cd", "chdir", "command", "echo", "false", "fg", "getopts", "hash", "jobs",
    "kill", "printf", "pwd", "read", "test", "true", "type", "ulimit", "umask", "unalias", "wait"]

def isBuiltin (name : Bytes) : Bool :=
  let s := String.ofList name
  builtinNames.contains s || specialNames.contains s

def singleQuotes (s : Bytes) : Bytes :=
  '\'' :: (s.flatMap fun c => if c == '\'' then "'\"'\"'".toList else [c]) ++ ['\'']

def nameBefore (a b : Bytes × Variable) : Bool := !(b.1 < a.1)

def variableLines (start : Bytes) (vs : List (Bytes × Variable)) : Bytes :=
  (vs.mergeSort nameBefore).flatMap fun (n, v) =>
    match v.value with
    | some t => start ++ n ++ '=' :: singleQuotes t ++ ['\n']
    | none => start ++ n ++ ['\n']

def argumentCount (s : Bytes) : Act Nat :=
  match Bytes.nat? s with
  | some n => if n < 2147483648 then pure n else fail ("Illegal number: ".toList ++ s)
  | none => fail ("Illegal number: ".toList ++ s)

def refuse (message : Bytes) : Act Unit := do
  complain message
  setStatus 2

/-- The letters of options at the start of the arguments, and the rest; `error` says which one is unknown. -/
def takeOptions (known : Bytes) : Bytes → List Bytes → Except Char (Bytes × List Bytes)
  | found, ['-', '-'] :: r => .ok (found, r)
  | found, ('-' :: o :: os) :: r =>
    match (o :: os).find? fun c => !known.contains c with
    | some c => .error c
    | none => takeOptions known (found ++ o :: os) r
  | found, r => .ok (found, r)

def splitArgument (a : Bytes) : Bytes × Option Bytes :=
  match a.dropWhile (· != '=') with
  | _ :: v => (a.takeWhile (· != '='), some v)
  | [] => (a, none)

def declareVariables (change : Variable → Variable) : List Bytes → Act Unit
  | [] => setStatus 0
  | a :: r => do
    let (name, value) := splitArgument a
    if !isName name then fail (name ++ ": bad variable name".toList)
    else
      match value with
      | some v => assign name v
      | none => pure ()
      let v ← binding? name
      putVariable name (change (v.getD { value := none }))
      declareVariables change r

def declareOrList (word : String) (isListed : Variable → Bool) (change : Variable → Variable)
    (args : List Bytes) : Act Unit := do
  match takeOptions ['p'] [] args with
  | .error c => fail ("Illegal option -".toList ++ [c])
  | .ok (found, names) =>
    if names.isEmpty || found.contains 'p' then
      let vs := (← get).bindings.filter fun v => isListed v.2
      print 1 (variableLines (word.toList ++ [' ']) vs)
      setStatus 0
    else declareVariables change names

def declareLocals : List Bytes → Act Unit
  | [] => setStatus 0
  | a :: r => do
    let s ← get
    match s.locals with
    | [] => fail "not in a function".toList
    | frame :: frames =>
      let (name, value) := splitArgument a
      if !isName name then fail (name ++ ": bad variable name".toList)
      else
        let old ← binding? name
        if (frame.find? (·.1 == name)).isNone then
          set { s with locals := ((name, old) :: frame) :: frames }
        match value with
        | some v => assign name v
        | none => pure ()
        declareLocals r

def unsetNames (functions : Bool) : List Bytes → Act Unit
  | [] => setStatus 0
  | name :: r => do
    if functions then
      modify fun s => { s with functions := s.functions.filter (·.1 != name) }
    else
      if (← binding? name).any (·.readOnly) then fail (name ++ ": is read only".toList)
      else if !isName name then fail (name ++ ": bad variable name".toList)
      else dropVariable name
    unsetNames functions r

def longOptions : List (String × Char) :=
  [("errexit", 'e'), ("noglob", 'f'), ("ignoreeof", 'I'), ("interactive", 'i'), ("monitor", 'm'),
    ("noexec", 'n'), ("stdin", 's'), ("xtrace", 'x'), ("verbose", 'v'), ("vi", 'V'), ("emacs", 'E'),
    ("noclobber", 'C'), ("allexport", 'a'), ("notify", 'b'), ("nounset", 'u'), ("privileged", 'p'),
    ("nolog", 'N'), ("debug", 'D')]

def optionLetters : Bytes := "efIimnsxvVECabup".toList

def setOption (on : Bool) (c : Char) : Act Unit :=
  modify fun s =>
    let others := s.options.filter (· != c)
    { s with options := if on then others ++ [c] else others }

/-- The options in some arguments, and the arguments after them; nothing if there are none. -/
def setOptions : List Bytes → Act (Option (List Bytes))
  | [] => pure none
  | ['-', '-'] :: r => pure (some r)
  | ['-'] :: r => do
    setOption false 'x'
    setOption false 'v'
    pure (if r.isEmpty then none else some r)
  | (sign :: o :: os) :: r =>
    if sign == '-' || sign == '+' then do
      if o :: os == ['o'] then
        match r with
        | [] =>
          let s ← get
          if sign == '+' then
            print 1 (longOptions.flatMap fun (n, c) =>
              (if s.options.contains c then "set -o " else "set +o ").toList ++ n.toList ++ ['\n'])
          else
            print 1 ("Current option settings\n".toList ++ longOptions.flatMap fun (n, c) =>
              n.toList ++ List.replicate (16 - n.length) ' ' ++
                (if s.options.contains c then "on\n" else "off\n").toList)
          pure none
        | name :: r =>
          match longOptions.find? fun p => p.1.toList == name with
          | some (_, c) =>
            setOption (sign == '-') c
            setOptions r
          | none => fail ("Illegal option -o ".toList ++ name)
      else
        match (o :: os).find? fun c => !optionLetters.contains c with
        | some c => fail ("Illegal option -".toList ++ [c])
        | none =>
          (o :: os).forM (setOption (sign == '-'))
          setOptions r
    else pure (some ((sign :: o :: os) :: r))
  | r => pure (some r)

def setCommand (args : List Bytes) : Act Unit := do
  if args.isEmpty then
    print 1 (variableLines [] ((← get).bindings.filter (·.2.value.isSome)))
  else
    match ← setOptions args with
    | some params => modify fun s => { s with params }
    | none => pure ()
  setStatus 0

/-- The next line of the input, with whether each character was protected by a backslash, the rest, and
whether the line had an end. -/
def takeLine (raw : Bool) : Bytes → List Marked → List Marked × Bytes × Bool
  | [], out => (out.reverse, [], false)
  | '\\' :: c :: r, out =>
    if raw then takeLine raw (c :: r) (('\\', false) :: out)
    else if c == '\n' then takeLine raw r out
    else takeLine raw r ((c, true) :: out)
  | c :: r, out =>
    if c == '\n' then (out.reverse, r, true)
    else if c == '\x00' || (c == '\\' && !raw) then takeLine raw r out
    else takeLine raw r ((c, false) :: out)

def skipBlankSeparators (separators : Bytes) (line : List Marked) : List Marked :=
  line.dropWhile fun (c, q) => !q && separators.contains c && (c == ' ' || c == '\t' || c == '\n')

/-- The first field of a line, and the line after the separators that follow it. -/
def takeField (separators : Bytes) (line : List Marked) : Bytes × List Marked :=
  let isSeparator : Marked → Bool := fun (c, q) => !q && separators.contains c
  let field := line.takeWhile fun m => !isSeparator m
  let rest := skipBlankSeparators separators (line.dropWhile fun m => !isSeparator m)
  let rest := match rest with
    | m :: r => if isSeparator m then skipBlankSeparators separators r else m :: r
    | [] => []
  (field.map (·.1), rest)

/-- What is left of a line, as the last field: blank separators at its end do not count, nor a single
separator if no other stands before it. -/
def lastField (separators : Bytes) (line : List Marked) : Bytes :=
  let (field, rest) := takeField separators line
  if rest.isEmpty then field
  else
    ((skipBlankSeparators separators line.reverse).reverse).map (·.1)

/-- Give variables the fields of a line; gives back the first name that is none. -/
def assignFields (separators : Bytes) : List Bytes → List Marked → Act (Option Bytes)
  | [], _ => pure none
  | name :: r, line => do
    if !isName name then pure (some name)
    else if r.isEmpty then
      assign name (lastField separators line)
      pure none
    else
      let (field, line) := takeField separators line
      assign name field
      assignFields separators r line

def separators : Act Bytes := do
  match (← get).bindings.find? (·.1 == "IFS".toList) with
  | some (_, v) => pure (v.value.getD " \t\n".toList)
  | none => pure " \t\n".toList

def readInto (raw : Bool) (names : List Bytes) : Act Unit := do
  let (line, rest, whole) := takeLine raw (← pendingInput) []
  leaveInput rest
  let separators ← separators
  match ← assignFields separators names (skipBlankSeparators separators line) with
  | some n => refuse (n ++ ": bad variable name".toList)
  | none => setStatus (if whole then 0 else 1)

def readLine : List Bytes → Act Unit
  | ['-', 'p'] :: _ :: r => readLine r
  | args =>
    match takeOptions ['r'] [] args with
    | .error c => refuse ("Illegal option -".toList ++ [c])
    | .ok (found, names) =>
      if names.isEmpty then refuse "arg count".toList else readInto (found.contains 'r') names

/-- Components of a path without those that lead back; `done` holds the ones so far, last first. -/
def withoutDots : List String → List String → List String
  | done, [] => done.reverse
  | done, p :: r =>
    if p = "." then withoutDots done r
    else if p = ".." then withoutDots done.tail r
    else withoutDots (p :: done) r

def changeDirectory (target : Bytes) (shown : Bool) : Act Unit := do
  let s ← get
  match (Bytes.decode? target).bind fun t => (s.world.stat? t).map (t, ·) with
  | some (path, .dir _) =>
    let here := World.pathText (withoutDots [] (Path.components (s.world.absolute path)))
    let old ← value? "PWD".toList
    assign "OLDPWD".toList (old.getD [])
    modify fun s => { s with world := { s.world with cwd := here } }
    assign "PWD".toList (Bytes.encode here)
    if shown then print 1 (Bytes.encode here ++ ['\n'])
    setStatus 0
  | _ => refuse ("can't cd to ".toList ++ target)

def cdCommand (args : List Bytes) : Act Unit := do
  match takeOptions ['L', 'P'] [] args with
  | .error c => refuse ("Illegal option -".toList ++ [c])
  | .ok (_, []) =>
    match ← value? "HOME".toList with
    | some home => if home.isEmpty then setStatus 0 else changeDirectory home false
    | none => setStatus 0
  | .ok (_, ['-'] :: _) => changeDirectory ((← value? "OLDPWD".toList).getD ['.']) true
  | .ok (_, target :: _) => if target.isEmpty then setStatus 0 else changeDirectory target false

def signalNumbers : List (String × Nat) :=
  [("EXIT", 0), ("HUP", 1), ("INT", 2), ("QUIT", 3), ("ILL", 4), ("TRAP", 5), ("ABRT", 6), ("BUS", 7),
    ("FPE", 8), ("KILL", 9), ("USR1", 10), ("SEGV", 11), ("USR2", 12), ("PIPE", 13), ("ALRM", 14),
    ("TERM", 15), ("CHLD", 17), ("CONT", 18), ("STOP", 19), ("TSTP", 20), ("TTIN", 21), ("TTOU", 22)]

def signal? (s : Bytes) : Option Nat :=
  match Bytes.nat? s with
  | some n => if n < 65 then some n else none
  | none => (signalNumbers.find? fun p => p.1.toList == s.map Char.toUpper).map (·.2)

def isHarmless (signal : Nat) : Bool := [0, 17, 18].contains signal

/-- Send a signal to processes; the shell itself is the only one. -/
def sendSignal (signal : Nat) : List Bytes → Act Unit
  | [] => setStatus 0
  | target :: r => do
    match Bytes.nat? target with
    | none => refuse ("Illegal number: ".toList ++ target)
    | some n =>
      if n == ownNumber then
        if isHarmless signal then sendSignal signal r else throw (.killed signal)
      else
        complain "No such process".toList
        setStatus 1

def killCommand (args : List Bytes) : Act Unit :=
  match args with
  | ['-', 's'] :: name :: r =>
    match signal? name with
    | some n => sendSignal n r
    | none => refuse ("invalid signal number or name: ".toList ++ name)
  | ['-', '-'] :: r => sendSignal 15 r
  | ('-' :: name) :: r =>
    match signal? name with
    | some n => sendSignal n r
    | none => refuse ("Illegal option -".toList ++ name.take 1)
  | [] => refuse ("Usage: kill [-s sigspec | -signum | -sigspec] [pid | job]... or\n".toList ++
      "kill -l [exitstatus]".toList)
  | r => sendSignal 15 r

def trapSignals (action : Option Bytes) : List Bytes → Act Unit
  | [] => setStatus 0
  | name :: r => do
    match signal? name with
    | some 0 =>
      modify fun s => { s with atExit := action }
      trapSignals action r
    | some _ => trapSignals action r
    | none =>
      print 2 ("trap: ".toList ++ name ++ ": bad trap\n".toList)
      setStatus 1

def trapCommand (args : List Bytes) : Act Unit := do
  let args := match args with
    | ['-', '-'] :: r => r
    | r => r
  match args with
  | [] =>
    match (← get).atExit with
    | some action => print 1 ("trap -- ".toList ++ singleQuotes action ++ " EXIT\n".toList)
    | none => pure ()
    setStatus 0
  | ['-'] :: names => trapSignals none names
  | [name] => trapSignals none [name]
  | action :: names =>
    if (signal? action).isSome then trapSignals none (action :: names)
    else trapSignals (some action) names

def shellComplaints (start : Bytes) : Complaints where
  dialect := .shellFormat
  textDialect := .shellText
  number fault a := start ++ a ++ (match fault with
    | .outOfRange => ": Numerical result out of range"
    | .trailing => ": not completely converted"
    | _ => ": expected numeric value").toList
  directive shown := start ++ shown ++ ": invalid directive".toList
  directiveStatus := 2
  unfinished _ := start ++ "missing format character".toList

def printfCommand (args : List Bytes) : Act Unit := do
  match takeOptions [] [] args with
  | .error c => refuse ("Illegal option -".toList ++ [c])
  | .ok (_, []) => refuse "usage: printf format [arg ...]".toList
  | .ok (_, format :: rest) =>
    let s ← get
    let start := s.name ++ ": ".toList ++ Bytes.ofNat s.line ++ ": printf: ".toList
    conclude (printFormat (shellComplaints start) format rest).1

def testCommand (args : List Bytes) : Act Unit := do
  match decideCondition (← get).world args with
  | .ok true => setStatus 0
  | .ok false => setStatus 1
  | .error e => refuse e.message

def leaveLoops (flow : Nat → Flow) (args : List Bytes) : Act Unit := do
  let n ← match args with
    | [] => pure 1
    | a :: _ => argumentCount a
  if n == 0 then fail ("Illegal number: ".toList ++ args.headD [])
  else
    let loops := (← get).loops
    setStatus 0
    if loops == 0 then pure () else throw (flow (min n loops))

def shiftParams (args : List Bytes) : Act Unit := do
  let n ← match args with
    | [] => pure 1
    | a :: _ => argumentCount a
  let s ← get
  if s.params.length < n then fail "can't shift that many".toList
  else set { s with params := s.params.drop n, status := 0 }

def exitCommand (args : List Bytes) : Act Unit := do
  match args with
  | [] => pure ()
  | a :: _ => setStatus (← argumentCount a)
  throw .exit

def returnCommand (args : List Bytes) : Act Unit := do
  match args with
  | [] => pure ()
  | a :: _ => setStatus (← argumentCount a)
  throw .back

/-- Run one of the shell's own commands; nothing if it needs to run others, or if there is none. -/
def runBuiltin? (name : String) (args : List Bytes) : Option (Act Unit) :=
  match name with
  | ":" => some (setStatus 0)
  | "true" => some (setStatus 0)
  | "false" => some (setStatus 1)
  | "echo" => some do
    print 1 ((if (← get).isBash then programEcho else shellEcho) args)
    setStatus 0
  | "printf" => some (printfCommand args)
  | "test" => some (testCommand args)
  | "[" => some (match args.getLast? with
    | some (']' :: _) => testCommand args.dropLast
    | _ => refuse "missing ]".toList)
  | "break" => some (leaveLoops .leave args)
  | "continue" => some (leaveLoops .again args)
  | "exit" => some (exitCommand args)
  | "return" => some (returnCommand args)
  | "shift" => some (shiftParams args)
  | "set" => some (setCommand args)
  | "export" => some (declareOrList "export" (·.exported) (fun v => { v with exported := true }) args)
  | "readonly" => some
      (declareOrList "readonly" (·.readOnly) (fun v => { v with readOnly := true }) args)
  | "local" => some do
    if (← get).locals.isEmpty then fail "not in a function".toList else declareLocals args
  | "unset" => some (match takeOptions ['f', 'v'] [] args with
    | .error c => fail ("Illegal option -".toList ++ [c])
    | .ok (found, names) => unsetNames (found.contains 'f') names)
  | "read" => some (readLine args)
  | "cd" => some (cdCommand args)
  | "chdir" => some (cdCommand args)
  | "pwd" => some (match takeOptions ['L', 'P'] [] args with
    | .error c => refuse ("Illegal option -".toList ++ [c])
    | .ok _ => do
      print 1 (Bytes.encode (← get).world.cwd ++ ['\n'])
      setStatus 0)
  | "kill" => some (killCommand args)
  | "trap" => some (trapCommand args)
  | "umask" => some do
    match args with
    | [] => do
      print 1 ((← get).mask ++ ['\n'])
      setStatus 0
    | a :: _ =>
      if a.all isOctal then
        let mask := List.replicate (4 - a.length) '0' ++ a
        modify fun s => { s with mask, status := 0 }
      else refuse ("Illegal mode: ".toList ++ a)
  | "ulimit" => some do
    if args.isEmpty then print 1 "unlimited\n".toList
    setStatus 0
  | "times" => some do
    print 1 "0m0.000000s 0m0.000000s\n0m0.000000s 0m0.000000s\n".toList
    setStatus 0
  | "wait" => some (match args.find? fun a => (Bytes.nat? a).isNone with
    | some a => refuse ("Illegal number: ".toList ++ a)
    | none => modify fun s => { s with
        status := if args.isEmpty then 0 else 127, elapsedMs := max s.elapsedMs s.busyMs })
  | "hash" => some (setStatus 0)
  | "jobs" => some (setStatus 0)
  | "alias" => some do
    setStatus 0
    for a in args do
      if !a.contains '=' then
        print 2 ("alias: ".toList ++ a ++ " not found\n".toList)
        setStatus 1
  | "unalias" => some (setStatus 0)
  | _ => none

end ShapeSearch.Command.Shell
