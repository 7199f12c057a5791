import ShapeSearch.Command
import ShapeSearch.CommandLine
import ShapeSearch.World.Change
import Std.Time.DateTime.Timestamp

/-!
# The program

`main` takes a picture of the working directory and of every path on the command line, runs the command
on it, and carries out what it has changed.
-/

namespace ShapeSearch.Program

def name : String := "shapesearch"

def nanoseconds (t : IO.FS.SystemTime) : Int :=
  t.sec * 1000000000 + t.nsec.toNat

/-- An entry of a directory as a node; nothing if it cannot be read. -/
partial def picture (e : IO.FS.DirEntry) : IO (Option Node) := do
  try
    let info ← e.path.symlinkMetadata
    match info.type with
    | .dir =>
      let entries ← e.path.readDir
      let nodes ← entries.toList.filterMapM fun c => do
        return (← picture c).map fun n => (c.fileName, n)
      return some (.dir nodes)
    | .symlink => return some (.link (toString (← IO.FS.realPath e.path)))
    | .file =>
      let bytes ← IO.FS.readBinFile e.path
      return some (.file ⟨bytes.size, String.fromUTF8? bytes, nanoseconds info.modified⟩)
    | .other => return none
  catch _ => return none

def withPicture (w : World) (path : String) : IO World := do
  let path := Path.clean (w.absolute path)
  match ← picture ⟨Path.headText path, Path.baseName path⟩ with
  | some n => return (w.putNode path n).getD w
  | none => return w

/-- The paths that a word of the command line may name. -/
def pathsIn (word : String) : List String :=
  match CommandLine.splitValue word.toList with
  | (_, some v) => [word, String.ofList v]
  | (_, none) => [word]

def watchedVariables : List String := [
  "COLUMNS", "SIGFIND_CACHE", "SIGFIND_CACHE_FILE", "SIGFIND_CONCURRENCY", "SIGFIND_MIN_SCORE",
  "SIGFIND_LOG_LEVEL", "SIGFIND_DEFAULT_ROOT"]

/-- The world as it is. -/
def observe (words : List String) : IO World := do
  let cwd := toString (← IO.currentDir)
  let now ← Std.Time.Timestamp.now
  let env ← watchedVariables.filterMapM fun v => do return (← IO.getEnv v).map fun t => (v, t)
  let w : World :=
    { cwd, env, clock := Rounding.ofInt now.toSecondsSinceUnixEpoch.val }
  let paths := (words.flatMap pathsIn).filter fun p => p ≠ "" && p ≠ "/"
  return Command.equip (← (cwd :: paths).foldlM withPicture w)

def carryOut (change : String × Option String) : IO Unit := do
  match change with
  | (path, some text) =>
    IO.FS.createDirAll (Path.headText path)
    IO.FS.writeFile path text
  | (path, none) => IO.FS.removeFile path

def run (words : List String) : IO UInt32 := do
  let before ← observe words
  let done := CommandLine.run name before words
  (before.changedFiles done.world).forM carryOut
  match done.ending with
  | .exited status output errors =>
    IO.print output
    IO.eprint errors
    return UInt32.ofNat status
  | .crashed _ =>
    IO.eprintln "Error: a value does not fit"
    return 1

end ShapeSearch.Program

def main (words : List String) : IO UInt32 :=
  ShapeSearch.Program.run words
