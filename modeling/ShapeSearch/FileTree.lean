import ShapeSearch.Number
import ShapeSearch.Path
import ShapeSearch.Fields

/-!
# Trees of files

A tree holds files, directories and links.  `realPath?` follows every link on a path and drops `..`; the
part of a path that does not exist is kept as it is.  It fails only where links lead in a circle.
`stat` goes the same way, but every step has to start at a directory and to exist; an `Obstacle` says where
it fails.
-/

namespace ShapeSearch

/-- A file: its size in bytes, its text if it can be decoded, and when it was last changed. -/
structure File where
  size : Nat
  text : Option String
  /-- in nanoseconds since the start of 1970 -/
  mtimeNs : Int

/-- A file, a link, or a directory with named nodes. -/
inductive Node where
  | file (f : File)
  | link (target : String)
  | dir (entries : List (String × Node))

/-- What stands in the way of a path. -/
inductive Obstacle where
  | absent
  | notADirectory
  | tooManyLinks
  | nameTooLong
deriving DecidableEq

def nameLimit : Nat := 255

def pathLimit : Nat := 4096

/-- A time in nanoseconds as the nearest number of milliseconds. -/
def milliseconds (ns : Int) : Number :=
  .float (Rounding.nearestFloat (decide (ns < 0)) ns.natAbs 1000000)

namespace File

def mtimeMs (f : File) : Number := milliseconds f.mtimeNs

def lines (f : File) : Option String :=
  f.text.map Text.unifyLineEnds

end File

namespace Node

def child? : Node → String → Option Node
  | .dir es, name => Fields.get? es name
  | _, _ => none

def lookup : List String → Node → Option Node
  | [], n => some n
  | name :: r, n => (n.child? name).bind (lookup r)

/-- Put a node at the end of some components; directories are made where nothing is, and what is no
directory is in the way. -/
def insert (new : Node) : List String → Node → Option Node
  | [], _ => some new
  | name :: r, .dir es =>
    (insert new r ((Fields.get? es name).getD (.dir []))).map fun n => .dir (Fields.put es name n)
  | _ :: _, _ => none

def remove : List String → Node → Node
  | [name], .dir es => .dir (Fields.erase es name)
  | name :: r, .dir es =>
    match Fields.get? es name with
    | some n => .dir (Fields.put es name (remove r n))
    | none => .dir es
  | _, n => n

/-- Where following components stops: at the end, or at a link with components left. -/
inductive Stop where
  | arrived (done : List String)
  | link (base : List String) (target : String) (rest : List String)

/-- Follow components up to the first link; `done` holds the components so far, last first. -/
def advance (root : Node) : List String → List String → Stop
  | done, [] => .arrived done
  | done, name :: r =>
    if name = ".." then advance root done.tail r
    else
      match root.lookup (name :: done).reverse with
      | some (.link target) => .link done target r
      | _ => advance root (name :: done) r

/-- Follow components through at most `n` links. -/
def follow (root : Node) : Nat → List String → List String → Option (List String)
  | n, done, rest =>
    match advance root done rest with
    | .arrived d => some d.reverse
    | .link base target r =>
      match n with
      | 0 => none
      | n + 1 =>
        follow root n (if Path.isAbsolute target then [] else base) (Path.components target ++ r)

def resolveLimit : Nat := 400

def realPath? (root : Node) (path : String) : Option (List String) :=
  follow root resolveLimit [] (Path.components path)

/-- The steps of a path; a slash at its end asks for a directory. -/
def stepsOf (path : String) : List String :=
  ((Text.splitOnChar '/' path.toList).map String.ofList).filter (· ≠ "") ++
    if path.toList.getLast? = some '/' then ["."] else []

/-- Take steps from directory to directory up to the first link. -/
def climb (root : Node) : List String → List String → Except Obstacle Stop
  | done, [] => .ok (.arrived done)
  | done, name :: r =>
    match root.lookup done.reverse with
    | some (.dir es) =>
      if name = "." then climb root done r
      else if name = ".." then climb root done.tail r
      else if nameLimit < name.utf8ByteSize then .error .nameTooLong
      else
        match Fields.get? es name with
        | none => .error .absent
        | some (.link target) => .ok (.link done target r)
        | some _ => climb root (name :: done) r
    | _ => .error .notADirectory

/-- Take steps through at most `n` links. -/
def locate (root : Node) : Nat → List String → List String → Except Obstacle (List String)
  | n, done, rest =>
    match climb root done rest with
    | .error o => .error o
    | .ok (.arrived d) => .ok d.reverse
    | .ok (.link base target r) =>
      match n with
      | 0 => .error .tooManyLinks
      | n + 1 => locate root n (if Path.isAbsolute target then [] else base) (stepsOf target ++ r)

def linkLimit : Nat := 40

def stat (root : Node) (path : String) : Except Obstacle Node := do
  if pathLimit ≤ path.utf8ByteSize then .error .nameTooLong
  else
    match root.lookup (← locate root linkLimit [] (stepsOf path)) with
    | some n => .ok n
    | none => .error .absent

end Node

end ShapeSearch
