import ShapeSearch.Command.Files
import ShapeSearch.Command.Shell.Syntax

/-!
# Shell sessions

A session is what a running shell knows: its variables, parameters and functions, where its numbered
channels lead, and how the last command ended.  An `Act` changes a session; it can end early, because the
shell exits, a loop is left or a function returns.
-/

namespace ShapeSearch.Command.Shell

/-- Where numbered channels lead to. -/
inductive Channel where
  /-- an input, with what has not been read -/
  | source (rest : Bytes)
  /-- an output, with what has been written, last first -/
  | sink (chunks : List Bytes)
  /-- a file that is written to, with the place of the next byte -/
  | file (name : Bytes) (place : Nat) (append : Bool)
  /-- nothing comes from it and nothing is kept -/
  | nowhere

structure Variable where
  value : Option Bytes
  exported : Bool := false
  readOnly : Bool := false

structure Session where
  world : World
  channels : Array Channel := #[]
  /-- the channel of each number -/
  fds : List (Nat × Nat) := []
  bindings : List (Bytes × Variable) := []
  name : Bytes
  params : List Bytes := []
  functions : List (Bytes × Statement) := []
  /-- for each function that runs, the variables it has made its own and their values outside -/
  locals : List (List (Bytes × Option Variable)) := []
  status : Nat := 0
  options : Bytes := []
  elapsedMs : Float := 0.0
  /-- until when commands in the background run -/
  busyMs : Float := 0.0
  line : Nat := 1
  /-- the command that messages are about -/
  about : Option Bytes := none
  atExit : Option Bytes := none
  loops : Nat := 0
  /-- the rights that new files do not get -/
  mask : Bytes := "0022".toList
  documents : List (Nat × Word) := []
  nextDocument : Nat := 0
  /-- how the last command whose output was taken ended -/
  substituted : Nat := 0
  work : Nat := 0
  /-- whether it runs as `bash` -/
  isBash : Bool := false

inductive Flow where
  | exit
  | leave (loops : Nat)
  | again (loops : Nat)
  | back
  | killed (signal : Nat)
  /-- it would not end in any reasonable time -/
  | stuck

abbrev Act := EStateM Flow Session

/-- The number by which the shell knows itself. -/
def ownNumber : Nat := 4242

namespace Act

/-- Do something, and give back how it ended. -/
def attempt {α : Type} (x : Act α) : Act (Except Flow α) := fun s =>
  match x s with
  | .ok a s => .ok (.ok a) s
  | .error e s => .ok (.error e) s

/-- Do a step until it says that it is done; nothing runs for more than `rounds` steps. -/
def rounds {α : Type} (step : α → Act (Option α)) : Nat → α → Act Unit
  | 0, _ => throw .stuck
  | n + 1, a => do
    match ← step a with
    | some a => rounds step n a
    | none => pure ()

def setStatus (n : Nat) : Act Unit := modify fun s => { s with status := n }

def option (c : Char) : Act Bool := do pure ((← get).options.contains c)

def writeTo (channel : Nat) (bytes : Bytes) : Act Unit := do
  let s ← get
  match s.channels[channel]? with
  | some (.sink chunks) =>
    set { s with channels := s.channels.setIfInBounds channel (.sink (bytes :: chunks)) }
  | some (.file name place append) =>
    let old := (Files.read s.world name).toOption.getD []
    let (new, place) :=
      if append then (old ++ bytes, old.length + bytes.length)
      else
        let gap := List.replicate (place - old.length) '\x00'
        (old.take place ++ gap ++ bytes ++ old.drop (place + bytes.length), place + bytes.length)
    match Files.write s.world name new with
    | .ok world =>
      set { s with
        world, channels := s.channels.setIfInBounds channel (.file name place append) }
    | .error _ => pure ()
  | _ => pure ()

def channelOf? (fd : Nat) : Act (Option Nat) := do
  pure (((← get).fds.find? (·.1 == fd)).map (·.2))

def print (fd : Nat) (bytes : Bytes) : Act Unit := do
  match ← channelOf? fd with
  | some c => writeTo c bytes
  | none => pure ()

def pendingInput : Act Bytes := do
  match ← channelOf? 0 with
  | some c =>
    match (← get).channels[c]? with
    | some (.source rest) => pure rest
    | _ => pure []
  | none => pure []

def leaveInput (rest : Bytes) : Act Unit := do
  match ← channelOf? 0 with
  | some c =>
    match (← get).channels[c]? with
    | some (.source _) =>
      modify fun s => { s with channels := s.channels.setIfInBounds c (.source rest) }
    | _ => pure ()
  | none => pure ()

def openChannel (c : Channel) : Act Nat := do
  let s ← get
  set { s with channels := s.channels.push c }
  pure s.channels.size

def connect (fd channel : Nat) : Act Unit :=
  modify fun s => { s with fds := (fd, channel) :: s.fds.filter (·.1 != fd) }

def disconnect (fd : Nat) : Act Unit :=
  modify fun s => { s with fds := s.fds.filter (·.1 != fd) }

def written (channel : Nat) : Act Bytes := do
  match (← get).channels[channel]? with
  | some (.sink chunks) => pure chunks.reverse.flatten
  | _ => pure []

def complain (message : Bytes) : Act Unit := do
  let s ← get
  let about := match s.about with
    | some c => c ++ ": ".toList
    | none => []
  let place := if s.isBash then "line ".toList ++ Bytes.ofNat s.line else Bytes.ofNat s.line
  print 2 (s.name ++ ": ".toList ++ place ++ ": ".toList ++ about ++ message ++ ['\n'])

def fail {α : Type} (message : Bytes) : Act α := do
  complain message
  setStatus 2
  throw .exit

def binding? (name : Bytes) : Act (Option Variable) := do
  pure (((← get).bindings.find? (·.1 == name)).map (·.2))

def value? (name : Bytes) : Act (Option Bytes) := do
  pure ((← binding? name).bind (·.value))

def putVariable (name : Bytes) (v : Variable) : Act Unit :=
  modify fun s => { s with bindings := (name, v) :: s.bindings.filter (·.1 != name) }

def dropVariable (name : Bytes) : Act Unit :=
  modify fun s => { s with bindings := s.bindings.filter (·.1 != name) }

def restoreVariable (name : Bytes) : Option Variable → Act Unit
  | some v => putVariable name v
  | none => dropVariable name

def assign (name value : Bytes) : Act Unit := do
  match ← binding? name with
  | some v =>
    if v.readOnly then fail (name ++ ": is read only".toList)
    else
      let all := (← get).options.contains 'a'
      putVariable name { v with value := some value, exported := v.exported || all }
  | none => putVariable name { value := some value, exported := (← get).options.contains 'a' }

/-- Print what a program prints, and take over its status and the time it took. -/
def conclude (r : Reply) : Act Unit := do
  for (stream, bytes) in r.printed do
    print (if stream = .output then 1 else 2) bytes
  modify fun s => { s with
    status := r.status, elapsedMs := s.elapsedMs + r.elapsedMs, world := r.world.getD s.world }

end Act

end ShapeSearch.Command.Shell
