import ShapeSearch.Settings.Lookup
import ShapeSearch.Text.Glob
import ShapeSearch.World

/-!
# Which files are looked at

A survey walks down from a root and lists the files that can be candidates.  Directories that are to be
skipped, links to directories, and directories below the greatest depth are not entered.  Every file is
counted; listed are those with an extension asked for whose name is not passed over.  A directory that
cannot be listed counts as empty.

If the settings do not fit in one directory, nothing in it is listed; only at the root that is a failure.
-/

namespace ShapeSearch

structure Survey where
  visited : Nat := 0
  files : List String := []

namespace Survey

structure Plan where
  world : World
  settings : Settings
  /-- in lower case -/
  extensions : List String
  /-- whether the directory at a path can be listed; one whose path is too long cannot -/
  listable : String → Bool := fun path => decide (path.utf8ByteSize < pathLimit)

def Plan.listing (p : Plan) (path : String) (es : List (String × Node)) : List (String × Node) :=
  if p.listable path then es else []

def join (a b : Survey) : Survey :=
  ⟨a.visited + b.visited, a.files ++ b.files⟩

def fitsAny (name : String) : List Json → Except Misfit Bool
  | [] => .ok false
  | .str g :: r => if Glob.fits g name then .ok true else fitsAny name r
  | _ :: _ => .error .wrongKind

def isListed (p : Plan) (name : String) : Except Misfit Bool := do
  let extension := Text.lower (Path.extension name)
  if p.extensions.contains extension then
    .ok (!(← fitsAny name (← p.settings.skipPatternsFor extension)))
  else .ok false

def isEntered (p : Plan) (name : String) (depth : Nat) : Except Misfit Bool := do
  if ← Settings.holds (some p.settings.skipDirectories) name then .ok false
  else
    match p.settings.maxDepth.numeric? with
    | some m => .ok ((Number.int depth).lt m)
    | none => .error .wrongKind

/-- The survey of one file: it is counted, and listed if it is to be.  What follows in the directory is
surveyed by `rest`; a failure carries the number of files counted so far. -/
def addFile (p : Plan) (dir name : String) (rest : Except (Nat × Misfit) Survey) :
    Except (Nat × Misfit) Survey :=
  match isListed p name, rest with
  | .error m, _ => .error (1, m)
  | .ok _, .error (n, m) => .error (n + 1, m)
  | .ok listed, .ok s =>
    .ok ⟨s.visited + 1, if listed then Path.join dir name :: s.files else s.files⟩

/-- A survey below a directory, in which a failure lists nothing. -/
def quiet : Except (Nat × Misfit) Survey → Survey
  | .ok s => s
  | .error (n, _) => { visited := n }

mutual
def ofEntries (p : Plan) (dir : String) (depth : Nat) :
    List (String × Node) → Except (Nat × Misfit) Survey
  | [] => .ok {}
  | (name, node) :: r => ofEntry p dir depth name (ofEntries p dir depth r) node

def ofEntry (p : Plan) (dir : String) (depth : Nat) (name : String)
    (rest : Except (Nat × Misfit) Survey) : Node → Except (Nat × Misfit) Survey
  | .file _ => addFile p dir name rest
  | .link _ =>
    if (p.world.file? (Path.join dir name)).isSome then addFile p dir name rest else rest
  | .dir es =>
    match isEntered p name depth, rest with
    | .error m, _ => .error (0, m)
    | .ok _, .error e => .error e
    | .ok false, .ok s => .ok s
    | .ok true, .ok s =>
      .ok (if p.listable (Path.join dir name) then
        join (quiet (ofEntries p (Path.join dir name) (depth + 1) es)) s
      else s)
end

/-- The survey from a root; a root that cannot be listed has no files. -/
def ofRoot (p : Plan) (root : String) : Except (Nat × Misfit) Survey :=
  match p.world.stat? root with
  | some (.dir es) => ofEntries p root 0 (p.listing root es)
  | _ => .ok {}

end Survey

end ShapeSearch
