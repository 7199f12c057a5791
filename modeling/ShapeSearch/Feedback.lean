import ShapeSearch.Scoring.Weights
import ShapeSearch.Signature

/-!
# Feedback

Verdicts of the user on results.  A verdict holds for a name and a path; the latest one counts.
-/

namespace ShapeSearch

/-- The paths that were accepted and those that were rejected, each with the name they were found for. -/
structure Feedback where
  accepted : List (String × String) := []
  rejected : List (String × String) := []

namespace Feedback

def keyOf (sig : Signature) : String :=
  match sig.pattern? with
  | some p => p.literal
  | none => (sig.targetName.filter (· ≠ "")).getD (sig.key none)

def insert (p : String × String) (xs : List (String × String)) : List (String × String) :=
  if xs.contains p then xs else p :: xs

def discard (p : String × String) (xs : List (String × String)) : List (String × String) :=
  xs.filter (· != p)

def accept (f : Feedback) (sig : Signature) (path : String) : Feedback :=
  let p := (keyOf sig, path)
  ⟨insert p f.accepted, discard p f.rejected⟩

def reject (f : Feedback) (sig : Signature) (path : String) : Feedback :=
  let p := (keyOf sig, path)
  ⟨discard p f.accepted, insert p f.rejected⟩

def floatWeight (ws : Fields Json) (name : String) : Except Misfit Number := do
  .ok (.float (← ((ws.get? name).getD (.ofInt 0)).asFloat))

def points (f : Feedback) (s : Settings) (sig : Signature) (path : String) :
    Except Misfit Number := do
  let ws ← s.weights "feedback"
  let p := (keyOf sig, path)
  if f.accepted.contains p then floatWeight ws "acceptedBonus"
  else if f.rejected.contains p then floatWeight ws "rejectedPenalty"
  else .ok (.float 0.0)

end Feedback

end ShapeSearch
