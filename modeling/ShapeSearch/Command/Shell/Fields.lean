import ShapeSearch.Command.Files
import ShapeSearch.Command.Shell.Wildcard

/-!
# From a word to its fields

When a word runs it becomes items: characters that remember where they come from.  Results of unquoted
parameters and commands fall apart at separators; what is quoted stays together.  Fields with wildcards
then become the names of the files that fit.
-/

namespace ShapeSearch.Command.Shell

/-- Where a character of a word comes from. -/
inductive Origin where
  | quoted
  | plain
  | result
deriving DecidableEq

inductive Item where
  | char (c : Char) (origin : Origin)
  /-- something quoted stands here, possibly empty -/
  | mark
  /-- a field ends here -/
  | gap

structure Splitting where
  /-- complete fields, last first -/
  done : List (List Marked) := []
  /-- the field so far, last first -/
  field : List Marked := []
  /-- whether there is a field even if it is empty -/
  started : Bool := false
  /-- a field has just ended at a blank -/
  afterBlank : Bool := false

namespace Splitting

def close (s : Splitting) : Splitting :=
  { done := s.field.reverse :: s.done }

def step (separators : Bytes) (s : Splitting) : Item → Splitting
  | .mark => { s with started := true, afterBlank := false }
  | .gap => if s.started then s.close else s
  | .char c origin =>
    if origin = .result && separators.contains c then
      if c == ' ' || c == '\t' || c == '\n' then
        if s.started then { s.close with afterBlank := true } else s
      else if s.afterBlank && !s.started then { s with afterBlank := false }
      else s.close
    else
      { s with field := (c, origin == .quoted) :: s.field, started := true, afterBlank := false }

end Splitting

def splitFields (separators : Bytes) (items : List Item) : List (List Marked) :=
  let s := items.foldl (Splitting.step separators) {}
  (if s.started then s.close else s).done.reverse

def itemText (items : List Item) : Bytes :=
  items.filterMap fun
    | .char c _ => some c
    | _ => none

def itemPattern (items : List Item) : List Wild :=
  wilds (items.filterMap fun
    | .char c origin => some (c, origin == .quoted)
    | _ => none)

/-- The parts of a path, each with whether a slash follows. -/
def pathParts : List Marked → List Marked → List (List Marked × Bool)
  | [], cur => if cur.isEmpty then [] else [(cur.reverse, false)]
  | (c, q) :: r, cur => if c == '/' then (cur.reverse, true) :: pathParts r [] else pathParts r ((c, q) :: cur)

def globFrom (w : World) : List (List Marked × Bool) → Bytes → List Bytes
  | [], done => [done]
  | (part, slash) :: r, done =>
    let tail : Bytes := if slash then ['/'] else []
    if hasWild part then
      let p := wilds part
      let hidden := part.head?.any (·.1 == '.')
      let near := if hidden then [['.'], ['.', '.']] else []
      let names := (near ++ Files.entries w done).filter fun n => fits p n && (hidden || n.head? != some '.')
      names.flatMap fun n => globFrom w r (done ++ n ++ tail)
    else globFrom w r (done ++ part.map (·.1) ++ tail)

/-- The names of the files that fit a field, or the field itself if there are none. -/
def globField (w : World) (field : List Marked) : List Bytes :=
  let text := field.map (·.1)
  if hasWild field then
    let found := (globFrom w (pathParts field []) []).filter fun n =>
      (Files.node? w n).isSome || Files.isLink w n
    if found.isEmpty then [text] else found.mergeSort fun a b => !(b < a)
  else [text]

end ShapeSearch.Command.Shell
