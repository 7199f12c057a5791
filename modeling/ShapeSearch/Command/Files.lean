import ShapeSearch.Command.Bytes
import ShapeSearch.World

/-!
# Files as commands see them

Names of files are bytes here; a name that is no text leads nowhere.  A program prints to its output
and to its errors, ends with a status, leaves some of its input unread, and takes some time.
-/

namespace ShapeSearch.Command

inductive OpenFault where
  | absent
  | isDirectory
  | notADirectory
  /-- the directory of a new file is missing -/
  | noDirectory
deriving DecidableEq

namespace Files

/-- The bytes of a file; those of a file that holds no text are not known, but they hold no text. -/
def bytesOf (f : File) : Bytes :=
  match f.text with
  | some t => Bytes.encode t
  | none => List.replicate f.size '\xff'

def node? (w : World) (name : Bytes) : Option Node :=
  (Bytes.decode? name).bind w.stat?

def read (w : World) (name : Bytes) : Except OpenFault Bytes :=
  if name == "/dev/null".toList then .ok []
  else
    match Bytes.decode? name with
    | none => .error .absent
    | some path =>
      match w.stat path with
      | .ok (.file f) => .ok (bytesOf f)
      | .ok (.dir _) => .error .isDirectory
      | .error .notADirectory => .error .notADirectory
      | _ => .error .absent

def write (w : World) (name bytes : Bytes) : Except OpenFault World :=
  match Bytes.decode? name with
  | none => .error .noDirectory
  | some "" => .error .noDirectory
  | some path =>
    match w.stat? path with
    | some (.dir _) => .error .isDirectory
    | _ =>
      let (dir, last) := World.splitLast (Path.components (w.absolute path))
      match w.files.stat (World.pathText dir), last with
      | .ok (.dir _), last =>
        if last = "" then .error .isDirectory
        else
          let target := match w.realParts path with
            | .ok parts => World.pathText parts
            | .error _ => path
          let file : Node := .file ⟨bytes.length, Bytes.decode? bytes, w.nowNs⟩
          match w.putNode target file with
          | some w => .ok w
          | none => .error .noDirectory
      | _, _ => .error .noDirectory

def entries (w : World) (dir : Bytes) : List Bytes :=
  match node? w (if dir.isEmpty then ['.'] else dir) with
  | some (.dir es) =>
    (es.map fun e => Bytes.encode e.1).mergeSort fun a b => !(b < a)
  | _ => []

def isLink (w : World) (name : Bytes) : Bool :=
  match Bytes.decode? name with
  | none => false
  | some path =>
    let (dir, last) := World.splitLast (Path.components (w.absolute path))
    match w.files.realPath? (World.pathText dir) with
    | some parts =>
      match Node.lookup (parts ++ [last]) w.files with
      | some (.link _) => true
      | _ => false
    | none => false

def faultText : OpenFault → String
  | .absent => "No such file or directory"
  | .isDirectory => "Is a directory"
  | .notADirectory => "Not a directory"
  | .noDirectory => "No such file or directory"

end Files

/-! ## What a program leaves behind -/

inductive Stream where
  | output
  | errors
deriving DecidableEq

structure Reply where
  status : Nat := 0
  /-- what it prints, first first -/
  printed : List (Stream × Bytes) := []
  /-- the input it has not read -/
  rest : Bytes := []
  /-- how long it takes, in milliseconds -/
  elapsedMs : Float := 0.0
  /-- the files afterwards, if it changes them -/
  world : Option World := none

namespace Reply

def ofOutput (bs : Bytes) : Reply := { printed := [(.output, bs)] }

def failed (status : Nat) (message : Bytes) : Reply :=
  { status, printed := [(.errors, message ++ ['\n'])] }

end Reply

end ShapeSearch.Command
