import ShapeSearch.Failure
import ShapeSearch.FileTree

/-!
# The surroundings of a search

Files, the working directory, the clock, the environment, and the commands that can be run.  Everything that
reads or changes them says so by taking and giving back a `World`.
-/

namespace ShapeSearch

namespace Command

/-- What a command leaves: its status, which is negative if a signal killed it, and what it printed. -/
structure Result where
  status : Int
  output : String
  errors : String

inductive Outcome where
  | notStarted
  | timedOut
  | finished (r : Result)

end Command

structure World where
  files : Node := .dir []
  cwd : String := "/"
  /-- seconds since the start of 1970 -/
  clock : Float := 0.0
  env : Fields String := []
  /-- when the directory at an absolute path was last changed, in nanoseconds since the start of 1970 -/
  dirTimes : String → Int := fun _ => 0
  /-- what comes of a command among some files and at some time, given its words, its input and how many
  milliseconds it has -/
  commands : Node → Float → List String → String → Number → Except Misfit Command.Outcome :=
    fun _ _ _ _ _ => .ok .notStarted

namespace World

/-- Run a command. -/
def run (w : World) (words : List String) (input : String) (timeoutMs : Number) :
    Except Misfit Command.Outcome :=
  w.commands w.files w.clock words input timeoutMs

def nowMs (w : World) : Number :=
  .float (w.clock * 1000.0)

/-- The time that a file gets which is written now. -/
def nowNs (w : World) : Int :=
  w.nowMs.truncate?.getD 0 * 1000000

def absolute (w : World) (path : String) : String :=
  Path.join w.cwd path

def pathText (parts : List String) : String :=
  "/" ++ "/".intercalate parts

def hasNull (path : String) : Bool :=
  path.toList.contains '\x00'

def realParts (w : World) (path : String) : Except Misfit (List String) :=
  if hasNull path then .error .badValue
  else
    match w.files.realPath? (w.absolute path) with
    | some parts => .ok parts
    | none => .error .linkLoop

def realPath (w : World) (path : String) : Except Misfit String := do
  .ok (pathText (← w.realParts path))

def misfitOf : Obstacle → Misfit
  | .absent => .absent
  | .notADirectory => .notADirectory
  | .tooManyLinks => .unreachable
  | .nameTooLong => .unreachable

def stat (w : World) (path : String) : Except Misfit Node :=
  if hasNull path then .error .badValue
  else if path = "" then .error .absent
  else (w.files.stat (w.absolute path)).mapError misfitOf

def stat? (w : World) (path : String) : Option Node :=
  (w.stat path).toOption

/-- What a path leads to, nothing if it leads nowhere; only a path that is too long is a misfit. -/
def probe (w : World) (path : String) : Except Misfit (Option Node) :=
  if hasNull path || path = "" then .ok none
  else
    match w.files.stat (w.absolute path) with
    | .ok n => .ok (some n)
    | .error .nameTooLong => .error .unreachable
    | .error _ => .ok none

def file? (w : World) (path : String) : Option File :=
  match w.stat? path with
  | some (.file f) => some f
  | _ => none

def mtimeMs (w : World) (path : String) : Except Misfit Number := do
  match ← w.stat path with
  | .file f => .ok f.mtimeMs
  | _ => .ok (milliseconds (w.dirTimes (w.absolute path)))

def mtimeMs? (w : World) (path : String) : Except Misfit (Option Number) :=
  match w.mtimeMs path with
  | .ok t => .ok (some t)
  | .error .badValue => .error .badValue
  | .error _ => .ok none

/-- A path relative to the directory with the given components; nothing if it is not inside. -/
def relativeTo (root parts : List String) : Option String :=
  if root.isPrefixOf parts then
    some (if parts.length = root.length then "." else "/".intercalate (parts.drop root.length))
  else none

/-- A path as it is shown: relative to the root if it is inside, else as it is. -/
def shownPath (w : World) (root path : String) : Except Misfit String :=
  match w.realParts path with
  | .ok parts => .ok ((relativeTo (Path.components root) parts).getD (Path.clean path))
  | .error .badValue => .ok (Path.clean path)
  | .error m => .error m

def splitLast (parts : List String) : List String × String :=
  (parts.dropLast, parts.getLastD "")

def textSize (s : String) : Nat := s.utf8ByteSize

/-- Put a node at a path; the directories before it are made.  Nothing if something is in the way. -/
def putNode (w : World) (path : String) (n : Node) : Option World := do
  let (dir, name) := splitLast (Path.components (w.absolute path))
  let parts ← w.files.realPath? (pathText dir)
  some { w with files := ← Node.insert n (parts ++ [name]) w.files }

/-- Make one directory after the other, each inside the one before; the last one counts only if all could
be made. -/
def makeDirs (w : World) : List String → List String → Bool × World
  | _, [] => (true, w)
  | done, name :: r =>
    let path := pathText (done ++ [name])
    match w.files.stat path with
    | .ok (.dir _) => makeDirs w (done ++ [name]) r
    | .error .absent =>
      match w.files.realPath? (pathText done) with
      | none => (false, w)
      | some parts =>
        if (w.files.lookup (parts ++ [name])).isSome then (false, w)
        else
          match Node.insert (.dir []) (parts ++ [name]) w.files with
          | some files => makeDirs { w with files } (done ++ [name]) r
          | none => (false, w)
    | _ => (false, w)

/-- Make the directories before a path, and say whether all could be made. -/
def makeParents (w : World) (path : String) : Bool × World :=
  w.makeDirs [] (splitLast (Path.components (w.absolute path))).1

/-- Put a file with a text at a path in place of what is there; nothing is written if something is in the
way. -/
def placeText (w : World) (path text : String) : World :=
  let (dir, name) := splitLast (Path.components (w.absolute path))
  match w.files.realPath? (pathText dir) with
  | none => w
  | some parts =>
    match w.files.lookup (parts ++ [name]) with
    | some (.dir _) => w
    | _ =>
      let file : Node := .file ⟨textSize text, some text, w.nowNs⟩
      if name = "" || name = ".." || nameLimit < name.utf8ByteSize then w
      else { w with files := (Node.insert file (parts ++ [name]) w.files).getD w.files }

/-- Write a text to a file in place of what is there, and make the directories before it.  Nothing is
written if something is in the way, but directories made so far stay. -/
def writeText (w : World) (path text : String) : World :=
  match w.makeParents path with
  | (false, w) => w
  | (true, w) => w.placeText path text

def unlink (w : World) (path : String) : World :=
  let (dir, name) := splitLast (Path.components (w.absolute path))
  match w.files.realPath? (pathText dir) with
  | none => w
  | some parts =>
    match Node.lookup (parts ++ [name]) w.files with
    | some (.dir _) => w
    | _ => { w with files := Node.remove (parts ++ [name]) w.files }

def delete (w : World) (path : String) : World :=
  let (dir, name) := splitLast (Path.components (w.absolute path))
  match w.files.realPath? (pathText dir) with
  | none => w
  | some parts => { w with files := Node.remove (parts ++ [name]) w.files }

end World

end ShapeSearch
