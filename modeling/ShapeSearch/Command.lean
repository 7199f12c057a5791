import ShapeSearch.Command.Shell.Run

/-!
# Parser commands

`run` starts a command with a text as its input and says how it ended: it could not be started, it took
too long, or it left a result.  What a command prints has to be text; its line ends are unified.
-/

namespace ShapeSearch.Command

def waitLimit : Int := 2147483647

def printedText (bs : Bytes) : Except Misfit String :=
  match Bytes.decode? bs with
  | some s => .ok (Text.unifyLineEnds s)
  | none => .error .undecodable

def isStopped (o : Shell.Outcome) (timeoutMs : Number) : Bool :=
  match o.finish with
  | .stuck => true
  | _ => 0.0 < o.elapsedMs && timeoutMs.le (.float o.elapsedMs)

def conclude (o : Shell.Outcome) (timeoutMs : Number) : Except Misfit Outcome := do
  if !timeoutMs.isDefined then .error .badValue
  else if Number.lt (.int waitLimit) timeoutMs then .error .tooLarge
  else if isStopped o timeoutMs then .ok .timedOut
  else
    let output ← printedText o.output
    let errors ← printedText o.errors
    let status : Int := match o.finish with
      | .exited n => n
      | .killed n => -n
      | .stuck => 0
    .ok (.finished ⟨status, output, errors⟩)

def run (w : World) (argv : List String) (input : String) (timeoutMs : Number) :
    Except Misfit Outcome :=
  match argv with
  | [] => .ok .notStarted
  | name :: args =>
    match Shell.start? w (Bytes.encode name) (args.map Bytes.encode) (Bytes.encode input) with
    | none => .ok .notStarted
    | some o => conclude o timeoutMs

/-- A world in which the commands modelled here can be run. -/
def equip (w : World) : World :=
  { w with commands := fun files clock => run { w with files, clock } }

end ShapeSearch.Command
