import ShapeSearch.World

/-!
# Changes from outside

Between two searches the clock moves on, and files are written, touched, deleted and moved.  A change
that cannot be made leaves the world as it is.
-/

namespace ShapeSearch

inductive Change where
  /-- the clock shows some seconds -/
  | clock (seconds : Float)
  | write (path : String) (n : Node)
  /-- a file counts as changed at some time -/
  | touch (path : String) (mtimeNs : Int)
  | delete (path : String)
  | move (source target : String)

namespace Change

/-- Put a node at a path; a file written to a link goes to the place that the link leads to. -/
def written (w : World) (path : String) (n : Node) : Option World :=
  match w.stat? path, n with
  | some (.file _), .file _ =>
    match w.realPath path with
    | .ok real => w.putNode real n
    | .error _ => none
  | _, _ => w.putNode path n

def touched (w : World) (path : String) (mtimeNs : Int) : Option World :=
  match w.realPath path, w.file? path with
  | .ok real, some f => w.putNode real (.file { f with mtimeNs })
  | _, _ => none

def moved (w : World) (source target : String) : Option World := do
  let n ← Node.lookup (Path.components (w.absolute source)) w.files
  (w.delete source).putNode target n

def apply (c : Change) (w : World) : World :=
  match c with
  | .clock s => { w with clock := s }
  | .write path n => (written w path n).getD w
  | .touch path t => (touched w path t).getD w
  | .delete path => w.delete path
  | .move source target => (moved w source target).getD w

end Change

namespace World

mutual
def filesBelow (w : World) (path : String) : Node → List String
  | .file _ => [path]
  | .link _ =>
    match w.stat? path with
    | some (.dir _) => []
    | _ => [path]
  | .dir es => filesAmong w path es

def filesAmong (w : World) (path : String) : List (String × Node) → List String
  | [] => []
  | (name, n) :: r => filesBelow w (Path.join path name) n ++ filesAmong w path r
end

def allFiles (w : World) : List String :=
  match w.files with
  | .dir es => filesAmong w "/" es
  | _ => []

/-- The files that are new or have another text, with their text, and those that are gone. -/
def changedFiles (before after : World) : List (String × Option String) :=
  let written := after.allFiles.filterMap fun p =>
    let text := (after.file? p).bind File.text
    if (before.file? p).bind File.text = text then none else text.map fun t => (p, some t)
  written ++ ((before.allFiles.filter fun p => (after.stat? p).isNone).map fun p => (p, none))

/-- The paths of all files below a directory, links to files among them, relative to it and in
alphabetical order. -/
def listFiles (w : World) (dir : String) : List String :=
  match w.stat? dir with
  | some (.dir es) =>
    ((filesAmong w dir es).map fun p => String.ofList (p.toList.drop (dir.length + 1))).mergeSort
      fun a b => decide (a ≤ b)
  | _ => []

end World

end ShapeSearch
