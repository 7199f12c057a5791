import ShapeSearch.Command.Shell.Arithmetic
import ShapeSearch.Command.Shell.Builtin
import ShapeSearch.Command.Tool

/-!
# Running scripts

Commands run in a session.  `runText` reads a script command by command and runs each of them before the
next is read.  Every part of a pipeline, every list in brackets and every command whose output is taken
runs in a session of its own, of which only the channels, the files and the status stay.

Commands stand inside commands only to a depth, and loops run only so many rounds; what goes beyond counts
as never ending.
-/

namespace ShapeSearch.Command.Shell

open Act

def roundLimit : Nat := 200000

def workLimit : Nat := 1000000

def nestingLimit : Nat := 20000

def functionLimit : Nat := 1000

/-- What stays of a session of its own. -/
def Session.merge (outer inner : Session) : Session :=
  { outer with
    world := { inner.world with cwd := outer.world.cwd }
    channels := inner.channels
    work := inner.work
    elapsedMs := inner.elapsedMs
    busyMs := inner.busyMs
    status := inner.status % 256
    documents := inner.documents
    nextDocument := inner.nextDocument }

/-- Do something in a session of its own. -/
def apart (x : Act Unit) : Act Unit := fun s =>
  match x { s with atExit := none, loops := 0 } with
  | .ok _ t => .ok () (s.merge t)
  | .error .stuck t => .error .stuck (s.merge t)
  | .error (.killed n) t => .error (.killed n) (s.merge t)
  | .error _ t => .ok () (s.merge t)

/-- Do something in a process of its own, whose death is a status. -/
def surviving (x : Act Unit) : Act Unit := do
  match ← attempt (apart x) with
  | .ok _ => pure ()
  | .error (.killed n) => setStatus (128 + n)
  | .error e => throw e

def Session.environment (s : Session) : List (Bytes × Bytes) :=
  s.bindings.filterMap fun (n, v) => if v.exported then v.value.map (n, ·) else none

def programDirs : List Bytes := ["/usr/bin".toList, "/bin".toList]

def runnerNames : List String := ["sh", "dash", "bash", "env", "nohup", "nice", "timeout"]

def isProgram (name : Bytes) : Bool :=
  (tool? name).isSome || runnerNames.contains (String.ofList name)

def splitAt (sep : Char) : Bytes → Bytes → List Bytes
  | cur, [] => [cur.reverse]
  | cur, c :: r => if c == sep then cur.reverse :: splitAt sep [] r else splitAt sep (c :: cur) r

def programPath? (s : Session) (name : Bytes) : Option Bytes :=
  let path := ((s.bindings.find? (·.1 == "PATH".toList)).bind (·.2.value)).getD []
  if isProgram name then
    ((splitAt ':' [] path).find? programDirs.contains).map (· ++ '/' :: name)
  else none

def programAt? (path : Bytes) : Option Bytes :=
  let name := (path.reverse.takeWhile (· != '/')).reverse
  if isProgram name && programDirs.any (fun d => d ++ '/' :: name == path) then some name else none

/-- A word without the marks of quotes before all parameters together. -/
def withoutMarks : Word → Word
  | .quoted [] :: .parameter true ['@'] .value w :: r => .parameter true ['@'] .value w :: withoutMarks r
  | p :: r => p :: withoutMarks r
  | [] => []

def resultItems (inQuotes : Bool) (text : Bytes) : List Item :=
  if inQuotes then .mark :: text.map (.char · .quoted) else text.map (.char · .result)

def withGaps : List (List Item) → List Item
  | [] => []
  | [x] => x
  | x :: r => x ++ .gap :: withGaps r

/-- What stands between parameters that are taken as one text. -/
def paramSeparator : Act Bytes := do
  match (← get).bindings.find? (·.1 == "IFS".toList) with
  | some (_, v) => pure ((v.value.getD [' ']).take 1)
  | none => pure [' ']

def paramValue (name : Bytes) : Act (Option Bytes) := do
  let s ← get
  match name with
  | ['#'] => pure (some (Bytes.ofNat s.params.length))
  | ['?'] => pure (some (Bytes.ofNat s.status))
  | ['$'] => pure (some (Bytes.ofNat ownNumber))
  | ['!'] => pure none
  | ['-'] => pure (some (longOptions.reverse.filterMap fun (_, c) =>
      if s.options.contains c then some c else none))
  | ['0'] => pure (some s.name)
  | ['@'] => do
    let sep ← paramSeparator
    pure (if s.params.isEmpty then none else some (Bytes.joined sep s.params))
  | ['*'] => do
    let sep ← paramSeparator
    pure (if s.params.isEmpty then none else some (Bytes.joined sep s.params))
  | _ =>
    match Bytes.nat? name with
    | some 0 => pure (some s.name)
    | some n => pure s.params[n - 1]?
    | none => value? name

/-- The items of a parameter; all parameters together stay apart if `split` is set. -/
def paramItems (split inQuotes : Bool) (name value : Bytes) : Act (List Item) := do
  let s ← get
  if split && (name == ['@'] || (name == ['*'] && !inQuotes)) then
    pure (withGaps (s.params.map (resultItems inQuotes)))
  else pure (resultItems inQuotes value)

def arithmeticValue (text : Bytes) : Act Bytes := do
  let s ← get
  let scope : ArithScope := fun n => (s.bindings.find? (·.1 == n)).bind (·.2.value)
  match evaluate scope text with
  | .ok (n, assigned) =>
    for (name, v) in assigned do
      assign name (Bytes.ofInt v)
    pure (Bytes.ofInt n)
  | .error (.expression m) =>
    fail ("arithmetic expression: ".toList ++ m.toList ++ ": \"".toList ++ text ++ ['"'])
  | .error (.illegalNumber t) => fail ("Illegal number: ".toList ++ t)

def openSource (name : Bytes) : Act (Option Nat) := do
  if name == "/dev/stdin".toList || name == "/dev/fd/0".toList then channelOf? 0
  else
    match Files.read (← get).world name with
    | .ok bs => some <$> openChannel (if name == "/dev/null".toList then .nowhere else .source bs)
    | .error .isDirectory => some <$> openChannel .nowhere
    | .error .notADirectory =>
      complain ("cannot open ".toList ++ name ++ ": Not a directory".toList)
      pure none
    | .error _ =>
      complain ("cannot open ".toList ++ name ++ ": No such file".toList)
      pure none

/-- A file opened for writing; `guarded` says that it must not be there yet. -/
def openSink (name : Bytes) (append guarded : Bool) : Act (Option Nat) := do
  if name == "/dev/null".toList then some <$> openChannel .nowhere
  else if name == "/dev/stdout".toList || name == "/dev/fd/1".toList then channelOf? 1
  else if name == "/dev/stderr".toList || name == "/dev/fd/2".toList then channelOf? 2
  else
    let s ← get
    let old := Files.read s.world name
    if guarded && old.toOption.isSome then
      complain ("cannot create ".toList ++ name ++ ": File exists".toList)
      return none
    match Files.write s.world name (if append then old.toOption.getD [] else []) with
    | .ok world =>
      set { s with world }
      some <$> openChannel (.file name 0 append)
    | .error .isDirectory =>
      complain ("cannot create ".toList ++ name ++ ": Is a directory".toList)
      pure none
    | .error _ =>
      complain ("cannot create ".toList ++ name ++ ": Directory nonexistent".toList)
      pure none

/-- Let a number lead to where another one leads. -/
def copyChannel (fd : Nat) (target : Bytes) : Act Bool := do
  match target with
  | ['-'] =>
    disconnect fd
    pure true
  | [d] =>
    if d.isDigit then
      match ← channelOf? (d.toNat - 48) with
      | some c =>
        connect fd c
        pure true
      | none =>
        complain (d :: ": Bad file descriptor".toList)
        pure false
    else fail "Syntax error: Bad fd number".toList
  | _ => fail "Syntax error: Bad fd number".toList

/-- What a name is, as `type` says it. -/
def describe (s : Session) (name : Bytes) : Option Bytes :=
  let text := String.ofList name
  if keywords.contains text then some (name ++ " is a shell keyword".toList)
  else if specialNames.contains text then some (name ++ " is a special shell builtin".toList)
  else if s.functions.any (·.1 == name) then some (name ++ " is a shell function".toList)
  else if builtinNames.contains text then some (name ++ " is a shell builtin".toList)
  else
    match programPath? s name with
    | some p => some (name ++ " is ".toList ++ p)
    | none => (programAt? name).map fun _ => name ++ " is ".toList ++ name

def callPath? (s : Session) (name : Bytes) : Option Bytes :=
  if keywords.contains (String.ofList name) || isBuiltin name || s.functions.any (·.1 == name) then
    some name
  else
    match programPath? s name with
    | some p => some p
    | none => (programAt? name).map fun _ => name

def typeCommand (names : List Bytes) : Act Unit := do
  setStatus 0
  for name in names do
    match describe (← get) name with
    | some d => print 1 (d ++ ['\n'])
    | none =>
      print 1 (name ++ ": not found\n".toList)
      setStatus 127

def notFound (name : Bytes) : Act Unit := do
  let s ← get
  if name.isEmpty || name == "..".toList then
    complain (name ++ ": Permission denied".toList)
    setStatus 127
  else if name.contains '/' && ((Files.node? s.world name).isSome || programDirs.contains name) then
    complain (name ++ ": Permission denied".toList)
    setStatus 126
  else
    let fault := if !s.isBash then "not found"
      else if name.contains '/' then "No such file or directory" else "command not found"
    complain (name ++ ": ".toList ++ fault.toList)
    setStatus 127

structure Invocation where
  options : Bytes := []
  hasScript : Bool := false
  operands : List Bytes := []

def invocation? : Invocation → List Bytes → Except Bytes Invocation
  | v, ['-'] :: r => .ok { v with operands := r }
  | v, ['-', '-'] :: r => .ok { v with operands := r }
  | v, (sign :: o :: os) :: r =>
    if sign == '-' || sign == '+' then
      match (o :: os).find? fun c => c != 'c' && c != 'l' && !optionLetters.contains c with
      | some c => .error ("Illegal option -".toList ++ [c])
      | none =>
        let on := (o :: os).filter fun c => c != 'c' && c != 'l'
        let options := if sign == '-' then v.options ++ on else v.options.filter fun c => !on.contains c
        invocation? { v with options, hasScript := v.hasScript || (o :: os).contains 'c' } r
    else .ok { v with operands := (sign :: o :: os) :: r }
  | v, r => .ok { v with operands := r }

def initialVariables (world : World) (env : List (Bytes × Bytes)) : List (Bytes × Variable) :=
  let given := (env.filter fun p => isName p.1 && p.1 != "IFS".toList && p.1 != "PWD".toList).map fun (n, v) =>
    (n, ({ value := some v, exported := true } : Variable))
  given ++ [("IFS".toList, { value := some " \t\n".toList }), ("OPTIND".toList, { value := some ['1'] }),
    ("PPID".toList, { value := some (Bytes.ofNat (ownNumber - 1)) }), ("PS1".toList, { value := some "# ".toList }),
    ("PS2".toList, { value := some "> ".toList }), ("PS4".toList, { value := some "+ ".toList }),
    ("PWD".toList, { value := some (Bytes.encode world.cwd), exported := true })]

mutual

/-- The items of a word; `inWord` says that it stands inside a parameter, where plain text is a result. -/
def expandParts : Nat → Bool → Bool → Word → Act (List Item)
  | 0, _, _, _ => throw .stuck
  | fuel + 1, split, inWord, parts => do
    let items ← (withoutMarks parts).mapM fun p => expandPart fuel split inWord p
    pure items.flatten

def expandPart : Nat → Bool → Bool → Part → Act (List Item)
  | 0, _, _, _ => throw .stuck
  | fuel + 1, split, inWord, part => do
    match part with
    | .plain t => pure (t.map (.char · (if inWord then .result else .plain)))
    | .quoted t => pure (.mark :: t.map (.char · .quoted))
    | .output inQuotes body => do
      let text ← outputOf fuel body
      pure (resultItems inQuotes (Bytes.trimLineEnds (text.filter (· != '\x00'))))
    | .arithmetic inQuotes parts => do
      let text := itemText (← expandParts fuel false false parts)
      pure (resultItems inQuotes (← arithmeticValue text))
    | .parameter inQuotes name form word => do
      let value ← paramValue name
      let all := name == ['@'] || name == ['*']
      let unset : Act Unit := do
        if value.isNone && !all && (← Act.option 'u') then fail (name ++ ": parameter not set".toList)
      let isMissing (orNull : Bool) : Bool :=
        match value with
        | none => true
        | some v => orNull && v.isEmpty
      match form with
      | .malformed => fail "Bad substitution".toList
      | .value => do
        unset
        paramItems split inQuotes name (value.getD [])
      | .length => do
        unset
        pure (resultItems inQuotes (Bytes.ofNat (value.getD []).length))
      | .orElse orNull =>
        if isMissing orNull then expandParts fuel split (!inQuotes) word
        else paramItems split inQuotes name (value.getD [])
      | .ifSet orNull =>
        if isMissing orNull then pure (if inQuotes then [.mark] else [])
        else expandParts fuel split (!inQuotes) word
      | .orAssign orNull =>
        if isMissing orNull then do
          let text := itemText (← expandParts fuel false false word)
          if isName name then
            assign name text
            pure (resultItems inQuotes text)
          else fail (name ++ ": bad variable name".toList)
        else paramItems split inQuotes name (value.getD [])
      | .orFail orNull =>
        if isMissing orNull then do
          let text := itemText (← expandParts fuel false false word)
          let message :=
            if !text.isEmpty then text
            else if orNull then "parameter not set or null".toList
            else "parameter not set".toList
          fail (name ++ ": ".toList ++ message)
        else paramItems split inQuotes name (value.getD [])
      | .trimStart longest => do
        unset
        let p := itemPattern (← expandParts fuel false false word)
        pure (resultItems inQuotes (trimStart longest p (value.getD [])))
      | .trimEnd longest => do
        unset
        let p := itemPattern (← expandParts fuel false false word)
        pure (resultItems inQuotes (trimEnd longest p (value.getD [])))

def outputOf : Nat → Statement → Act Bytes
  | 0, _ => throw .stuck
  | fuel + 1, body => do
    let status := (← get).status
    let sink ← openChannel (.sink [])
    apart do
      connect 1 sink
      runApart fuel false body
    modify fun s => { s with substituted := s.status, status }
    written sink

def runApart : Nat → Bool → Statement → Act Unit
  | 0, _, _ => throw .stuck
  | fuel + 1, tested, body => do
    let ending ← attempt (runCommand fuel tested body)
    finish fuel ending

def finish : Nat → Except Flow Unit → Act Unit
  | 0, _ => throw .stuck
  | fuel + 1, ending => do
    match ending with
    | .error .stuck => throw .stuck
    | .error (.killed n) => throw (.killed n)
    | _ =>
      let s ← get
      match s.atExit with
      | none => pure ()
      | some text =>
        set { s with atExit := none }
        match ← attempt (runText fuel false text) with
        | .error .exit => pure ()
        | .error .stuck => throw .stuck
        | .error (.killed n) => throw (.killed n)
        | _ => setStatus s.status

def expandText : Nat → Word → Act Bytes
  | 0, _ => throw .stuck
  | fuel + 1, word => do
    let home ← value? "HOME".toList
    let word := match word, home with
      | .plain ('~' :: r) :: more, some h =>
        if r.isEmpty || r.head? == some '/' then .quoted h :: .plain r :: more else word
      | w, _ => w
    pure (itemText (← expandParts fuel false false word))

def expandFields : Nat → Word → Act (List Bytes)
  | 0, _ => throw .stuck
  | fuel + 1, word => do
    let home ← value? "HOME".toList
    let word := match word, home with
      | .plain ('~' :: r) :: more, some h =>
        if r.isEmpty || r.head? == some '/' then .quoted h :: .plain r :: more else word
      | w, _ => w
    let items ← expandParts fuel true false word
    let fields := splitFields (← separators) items
    if ← Act.option 'f' then pure (fields.map (·.map (·.1)))
    else do
      let w := (← get).world
      pure (fields.flatMap (globField w))

/-- Do a redirection; `false` says that it failed. -/
def redirect : Nat → Redirect → Act Bool
  | 0, _ => throw .stuck
  | fuel + 1, .to kind fd target => do
    let connectTo (channel : Option Nat) : Act Bool :=
      match channel with
      | some c => do
        connect fd c
        pure true
      | none => pure false
    match kind with
    | .here id =>
      let word := (((← get).documents.find? (·.1 == id)).map (·.2)).getD []
      let text := itemText (← expandParts fuel false false word)
      connectTo (some (← openChannel (.source text)))
    | .read => connectTo (← openSource (← expandText fuel target))
    | .write => do
      let guarded ← Act.option 'C'
      connectTo (← openSink (← expandText fuel target) false guarded)
    | .overwrite => connectTo (← openSink (← expandText fuel target) false false)
    | .append => connectTo (← openSink (← expandText fuel target) true false)
    | .readWrite => connectTo (← openSink (← expandText fuel target) true false)
    | .copyInput => copyChannel fd (← expandText fuel target)
    | .copyOutput => copyChannel fd (← expandText fuel target)

def redirectAll : Nat → List Redirect → Act Bool
  | 0, _ => throw .stuck
  | fuel + 1, rs => do
    match rs with
    | [] => pure true
    | r :: more => if ← redirect fuel r then redirectAll fuel more else pure false

/-- Do something under redirections; the status of a failure if one of them fails. -/
def redirecting : Nat → List Redirect → Act Unit → Act Unit
  | 0, _, _ => throw .stuck
  | fuel + 1, rs, body => do
    let fds := (← get).fds
    let ending ← attempt (do
      if ← redirectAll fuel rs then body else setStatus 2)
    modify fun s => { s with fds }
    match ending with
    | .ok _ => pure ()
    | .error e => throw e

/-- End the shell after a failure if it is set to. -/
def checked : Nat → Bool → Act Unit → Act Unit
  | 0, _, _ => throw .stuck
  | _ + 1, tested, body => do
    body
    if !tested && (← get).status != 0 && (← Act.option 'e') then throw .exit

def runRunner : Nat → Bytes → String → List Bytes → Act Unit
  | 0, _, _, _ => throw .stuck
  | fuel + 1, called, name, args => do
    match name with
    | "env" =>
      let settings := args.takeWhile fun a => (splitArgument a).2.isSome
      match args.drop settings.length with
      | [] =>
        let env := (← get).environment ++ settings.map fun a => ((splitArgument a).1, ((splitArgument a).2).getD [])
        print 1 (env.flatMap fun (n, v) => n ++ '=' :: v ++ ['\n'])
        setStatus 0
      | command :: rest => apart do
        for a in settings do
          let (n, v) := splitArgument a
          putVariable n { value := v, exported := true }
        if (programPath? (← get) command).isSome || (programAt? command).isSome then
          runProgram fuel command rest
        else
          print 2 (called ++ ": ".toList ++ Tool.shownWord command ++ ": No such file or directory\n".toList)
          setStatus 127
    | "timeout" =>
      match args with
      | _ :: command :: rest => runProgram fuel command rest
      | _ =>
        print 2 (called ++ ": missing operand\nTry '".toList ++ called ++
          " --help' for more information.\n".toList)
        setStatus 125
    | "nohup" =>
      match args with
      | command :: rest => runProgram fuel command rest
      | [] =>
        print 2 (called ++ ": missing operand\nTry '".toList ++ called ++
          " --help' for more information.\n".toList)
        setStatus 125
    | "nice" =>
      match args with
      | command :: rest => runProgram fuel command rest
      | [] =>
        print 1 "0\n".toList
        setStatus 0
    | _ => surviving (runShell fuel called args)

def runProgram : Nat → Bytes → List Bytes → Act Unit
  | 0, _, _ => throw .stuck
  | fuel + 1, name, args => do
    let s ← get
    let base := if name.contains '/' then programAt? name
      else (programPath? s name).map fun _ => name
    match base with
    | none => notFound name
    | some base =>
      match tool? base with
      | some tool =>
        let reply := tool {
          name, args, input := ← pendingInput, world := s.world, env := s.environment }
        leaveInput reply.rest
        conclude reply
      | none => runRunner fuel name (String.ofList base) args

def runShell : Nat → Bytes → List Bytes → Act Unit
  | 0, _, _ => throw .stuck
  | fuel + 1, called, args => do
    let s ← get
    let isBash := "bash".toList.isSuffixOf called
    let fresh (options name : Bytes) (params : List Bytes) : Session :=
      { world := s.world, channels := s.channels, fds := s.fds
        bindings := initialVariables s.world s.environment
        name, params, options, elapsedMs := s.elapsedMs, busyMs := s.busyMs
        documents := s.documents, nextDocument := s.nextDocument, work := s.work, isBash }
    let refused (message : Bytes) : Act Unit := do
      print 2 (called ++ (if isBash then ": " else ": 0: ").toList ++ message ++ ['\n'])
      setStatus 2
    match invocation? {} args with
    | .error message => refused message
    | .ok v =>
      if v.hasScript then
        match v.operands with
        | [] => refused ((if isBash then "-c: option requires an argument" else "-c requires an argument").toList)
        | script :: rest =>
          set (fresh v.options (rest.headD called) rest.tail)
          runMain fuel script
      else if v.options.contains 's' || v.operands.isEmpty then
        let script ← pendingInput
        leaveInput []
        let channels := (← get).channels
        let options := if v.options.contains 's' then v.options else v.options ++ ['s']
        set { fresh options called v.operands with channels }
        runMain fuel script
      else
        let file := v.operands.headD []
        match Files.read s.world file with
        | .ok script =>
          set (fresh v.options file v.operands.tail)
          runMain fuel script
        | .error .isDirectory => set (fresh v.options file v.operands.tail)
        | .error _ =>
          if isBash then
            refused (file ++ ": No such file or directory".toList)
            setStatus 127
          else refused ("cannot open ".toList ++ file ++ ": No such file".toList)

/-- Run a whole script and what it has set to run at the end. -/
def runMain : Nat → Bytes → Act Unit
  | 0, _ => throw .stuck
  | fuel + 1, script => do
    let ending ← attempt (runText fuel false script)
    finish fuel ending

def runText : Nat → Bool → Bytes → Act Unit
  | 0, _, _ => throw .stuck
  | fuel + 1, tested, text => do
    let step (script : Script) : Act (Option Script) := do
      let s ← get
      match readCommand { script with documents := s.documents, nextDocument := s.nextDocument } with
      | .error e =>
        set { s with line := e.line }
        fail ("Syntax error: ".toList ++ e.message.toList)
      | .ok (none, script) =>
        set { s with documents := script.documents, nextDocument := script.nextDocument }
        pure none
      | .ok (some c, script) =>
        set { s with documents := script.documents, nextDocument := script.nextDocument }
        match c with
        | .nothing => pure (some script)
        | c =>
          if s.options.contains 'n' then pure (some script)
          else do
            runCommand fuel tested c
            pure (some script)
    rounds step (text.length + 2) { rest := text }

def callFunction : Nat → Bool → Statement → List Bytes → Act Unit
  | 0, _, _, _ => throw .stuck
  | fuel + 1, tested, body, args => do
    let outer ← get
    if functionLimit ≤ outer.locals.length then
      fail ("Maximum function recursion depth (".toList ++ Bytes.ofNat functionLimit ++ ") reached".toList)
    set { outer with params := args, locals := [] :: outer.locals, loops := 0 }
    let ending ← attempt (runCommand fuel tested body)
    let frame := (← get).locals.headD []
    for (name, v) in frame do
      restoreVariable name v
    modify fun s => { s with params := outer.params, locals := outer.locals, loops := outer.loops }
    match ending with
    | .ok _ => pure ()
    | .error .back => pure ()
    | .error e => throw e

/-- Run a command by its words; `tested` says that its failure has been foreseen. -/
def runWords : Nat → Bool → Bool → Bytes → List Bytes → Act Unit
  | 0, _, _, _, _ => throw .stuck
  | fuel + 1, tested, functions, name, args => do
    let s ← get
    if workLimit ≤ s.work then throw .stuck
    set { s with work := s.work + 1 }
    let text := String.ofList name
    let own (body : Act Unit) : Act Unit := do
      let about := s.about
      modify fun s => { s with about := some name }
      let ending ← attempt body
      modify fun s => { s with about }
      match ending with
      | .ok _ => pure ()
      | .error e => throw e
    let function := if functions && !specialNames.contains text then
        (s.functions.find? (·.1 == name)).map (·.2)
      else none
    match function with
    | some body => callFunction fuel tested body args
    | none =>
      match text with
      | "eval" => own do
        setStatus 0
        runText fuel tested (Bytes.joined [' '] args)
      | "." => own do
        match args with
        | [] => setStatus 0
        | file :: _ =>
          let found := if file.contains '/' then file else []
          if found.isEmpty then fail (file ++ ": not found".toList)
          else
            match Files.read s.world file with
            | .ok script =>
              setStatus 0
              modify fun s => { s with about := some file }
              match ← attempt (runText fuel tested script) with
              | .ok _ => pure ()
              | .error .back => pure ()
              | .error e => throw e
            | .error _ => fail ("cannot open ".toList ++ file ++ ": No such file".toList)
      | "command" =>
        match takeOptions ['v', 'V', 'p'] [] args with
        | .error c => own (refuse ("Illegal option -".toList ++ [c]))
        | .ok (_, []) => setStatus 0
        | .ok (found, command :: rest) =>
          if found.contains 'v' then
            match callPath? s command with
            | some p =>
              print 1 (p ++ ['\n'])
              setStatus 0
            | none => setStatus 127
          else if found.contains 'V' then typeCommand [command]
          else runWords fuel tested false command rest
      | "type" => typeCommand args
      | "exec" =>
        match args with
        | [] => setStatus 0
        | command :: rest =>
          let base := if command.contains '/' then programAt? command else programPath? s command
          match base with
          | some _ =>
            runProgram fuel command rest
            modify fun s => { s with atExit := none }
            throw .exit
          | none => own do
            notFound command
            throw .exit
      | _ =>
        match runBuiltin? text args with
        | some body => own body
        | none => runProgram fuel name args

/-- Assign the values of words to variables, and give back how each variable was before and the value. -/
def assignAll : Nat → List (Bytes × Word) → Act (List (Bytes × Option Variable × Bytes))
  | 0, _ => throw .stuck
  | fuel + 1, assignments => do
    match assignments with
    | [] => pure []
    | (name, word) :: r =>
      let value ← expandText fuel word
      let old ← binding? name
      assign name value
      pure ((name, old, value) :: (← assignAll fuel r))

def runSimple : Nat → Bool → Nat → List (Bytes × Word) → List Word → List Redirect → Act Unit
  | 0, _, _, _, _, _ => throw .stuck
  | fuel + 1, tested, line, assignments, words, redirects => do
    modify fun s => { s with line, substituted := 0 }
    let fields := (← words.mapM fun w => expandFields fuel w).flatten
    let trace (assigned : List (Bytes × Option Variable × Bytes)) : Act Unit := do
      if ← Act.option 'x' then
        let shown := (assigned.map fun (n, _, v) => n ++ '=' :: v) ++ fields
        if !shown.isEmpty then print 2 ("+ ".toList ++ Bytes.joined [' '] shown ++ ['\n'])
    match fields with
    | [] =>
      let before := (← get).fds
      let ok ← redirectAll fuel redirects
      modify fun s => { s with fds := before }
      if ok then
        trace (← assignAll fuel assignments)
        modify fun s => { s with status := s.substituted }
      else setStatus 2
    | name :: args =>
      let text := String.ofList name
      if text == "exec" then
        let before := (← get).fds
        if ← redirectAll fuel redirects then
          trace (← assignAll fuel assignments)
          runWords fuel tested true name args
        else
          modify fun s => { s with fds := before }
          setStatus 2
          throw .exit
      else
        let isSpecialCommand := specialNames.contains text
        let before := (← get).fds
        let ending ← attempt (do
          if ← redirectAll fuel redirects then
            let old ← assignAll fuel assignments
            trace old
            if isSpecialCommand then runWords fuel tested true name args
            else
              for (n, _) in old do
                match ← binding? n with
                | some v => putVariable n { v with exported := true }
                | none => pure ()
              let ending ← attempt (runWords fuel tested true name args)
              for (n, v, _) in old.reverse do
                restoreVariable n v
              match ending with
              | .ok _ => pure ()
              | .error e => throw e
          else
            setStatus 2
            if isSpecialCommand then throw .exit)
        modify fun s => { s with fds := before }
        match ending with
        | .ok _ => pure ()
        | .error e => throw e

def runPipeline : Nat → Bool → List Statement → Option Nat → Float → Float → Act Unit
  | 0, _, _, _, _, _ => throw .stuck
  | fuel + 1, tested, commands, input, start, longest => do
    modify fun s => { s with elapsedMs := start }
    let status := (← get).status
    let connectInput : Act Unit :=
      match input with
      | some c => connect 0 c
      | none => pure ()
    match commands with
    | [] => pure ()
    | [c] =>
      apart do
        connectInput
        runApart fuel tested c
      modify fun s => { s with elapsedMs := max longest s.elapsedMs }
    | c :: r =>
      let sink ← openChannel (.sink [])
      apart do
        connectInput
        connect 1 sink
        runApart fuel tested c
      let text ← written sink
      modify fun s => { s with channels := s.channels.setIfInBounds sink (.source text) }
      let elapsed := (← get).elapsedMs
      setStatus status
      runPipeline fuel tested r (some sink) start (max longest elapsed)

def runArms : Nat → Bool → Bytes → List (List Word × Statement) → Act Unit
  | 0, _, _, _ => throw .stuck
  | fuel + 1, tested, text, arms => do
    match arms with
    | [] => setStatus 0
    | (patterns, body) :: r =>
      if ← anyFits fuel text patterns then runCommand fuel tested body
      else runArms fuel tested text r

def anyFits : Nat → Bytes → List Word → Act Bool
  | 0, _, _ => throw .stuck
  | fuel + 1, text, patterns => do
    match patterns with
    | [] => pure false
    | p :: r =>
      if fits (itemPattern (← expandParts fuel false false p)) text then pure true
      else anyFits fuel text r

/-- Run the body of a loop; `false` says that the loop is left. -/
def runBody : Nat → Bool → Statement → Act Bool
  | 0, _, _ => throw .stuck
  | fuel + 1, tested, body => do
    match ← attempt (runCommand fuel tested body) with
    | .ok _ => pure true
    | .error (.leave n) => if n ≤ 1 then pure false else throw (.leave (n - 1))
    | .error (.again n) => if n ≤ 1 then pure true else throw (.again (n - 1))
    | .error e => throw e

def looping : Nat → Act Unit → Act Unit
  | 0, _ => throw .stuck
  | _ + 1, body => do
    modify fun s => { s with loops := s.loops + 1 }
    let ending ← attempt body
    modify fun s => { s with loops := s.loops - 1 }
    match ending with
    | .ok _ => pure ()
    | .error e => throw e

/-- Run a command; `tested` says that its failure has been foreseen. -/
def runCommand : Nat → Bool → Statement → Act Unit
  | 0, _, _ => throw .stuck
  | fuel + 1, tested, command => do
    if ← Act.option 'n' then return
    match command with
    | .nothing => setStatus 0
    | .simple line assignments words redirects =>
      checked fuel tested (runSimple fuel tested line assignments words redirects)
    | .pipeline commands =>
      let start := (← get).elapsedMs
      checked fuel tested (runPipeline fuel tested commands none start start)
    | .negate c => do
      runCommand fuel true c
      modify fun s => { s with status := if s.status == 0 then 1 else 0 }
    | .both a b => do
      runCommand fuel true a
      if (← get).status == 0 then runCommand fuel tested b
    | .either a b => do
      runCommand fuel true a
      if (← get).status != 0 then runCommand fuel tested b
    | .seq a b => do
      runCommand fuel tested a
      runCommand fuel tested b
    | .background c => do
      let s ← get
      apart do
        connect 0 (← openChannel .nowhere)
        runApart fuel false c
      modify fun t => { t with
        status := 0, busyMs := max t.busyMs t.elapsedMs, elapsedMs := s.elapsedMs }
    | .redirected line c redirects => do
      modify fun s => { s with line }
      redirecting fuel redirects (runCommand fuel tested c)
    | .subshell line body redirects =>
      checked fuel tested do
        modify fun s => { s with line }
        apart do
          if ← redirectAll fuel redirects then runApart fuel tested body
          else setStatus 2
    | .choose condition yes no => do
      runCommand fuel true condition
      if (← get).status == 0 then runCommand fuel tested yes else runCommand fuel tested no
    | .loop untilOk condition body =>
      looping fuel do
        let step (status : Nat) : Act (Option Nat) := do
          if ← runBody fuel true condition then
            if ((← get).status == 0) != untilOk then
              let more ← runBody fuel tested body
              let status := (← get).status
              if more then pure (some status)
              else
                setStatus status
                pure none
            else
              setStatus status
              pure none
          else pure none
        rounds step roundLimit 0
    | .each line name words body => do
      modify fun s => { s with line }
      let fields := (← words.mapM fun w => expandFields fuel w).flatten
      setStatus 0
      looping fuel do
        let step (left : List Bytes) : Act (Option (List Bytes)) := do
          match left with
          | [] => pure none
          | f :: r =>
            assign name f
            if ← runBody fuel tested body then pure (some r) else pure none
        rounds step (fields.length + 1) fields
    | .select line word arms => do
      modify fun s => { s with line }
      let text ← expandText fuel word
      setStatus 0
      runArms fuel tested text arms
    | .define name body => do
      modify fun s => { s with
        functions := (name, body) :: s.functions.filter (·.1 != name), status := 0 }

end

/-- How a program ended: its status, or the signal that killed it. -/
inductive Finish where
  | exited (status : Nat)
  | killed (signal : Nat)
  | stuck

structure Outcome where
  finish : Finish
  output : Bytes
  errors : Bytes
  elapsedMs : Float

/-- Start a program by its name and arguments with an input; nothing if there is no such program. -/
def start? (world : World) (name : Bytes) (args : List Bytes) (input : Bytes) : Option Outcome :=
  let env := (("PATH", "/usr/local/sbin:/usr/local/bin:/usr/sbin:/usr/bin:/sbin:/bin") :: world.env).map
    fun p => (Bytes.encode p.1, Bytes.encode p.2)
  let s : Session := {
    world, name, bindings := initialVariables world env
    channels := #[.source input, .sink [], .sink []], fds := [(0, 0), (1, 1), (2, 2)] }
  let known := if name.contains '/' then programAt? name else (programPath? s name).map fun _ => name
  match known with
  | none => none
  | some base =>
    let isShell := ["sh".toList, "dash".toList, "bash".toList].contains base
    let finished (finish : Finish) (t : Session) : Outcome :=
      let bytes (n : Nat) : Bytes :=
        match t.channels[n]? with
        | some (.sink chunks) => chunks.reverse.flatten
        | _ => []
      ⟨finish, bytes 1, bytes 2, max t.elapsedMs t.busyMs⟩
    match (if isShell then runShell else runProgram) nestingLimit name args s with
    | .ok _ t => some (finished (.exited (t.status % 256)) t)
    | .error (.killed n) t => some (finished (.killed n) t)
    | .error .stuck t => some (finished .stuck t)
    | .error _ t => some (finished (.exited (t.status % 256)) t)

end ShapeSearch.Command.Shell
