import ShapeSearch.Scoring.Weights

/-!
# Age and safety of files

A file that was changed lately gets a bonus, which halves whenever its half-life has passed.  A file is
safe if its text holds none of the blocked texts, whatever the case, or if unsafe files are allowed.
-/

namespace ShapeSearch

namespace Recency

/-- A weight, zero if it is absent or counts as false. -/
def weightOr (ws : Fields Json) (name : String) : Json :=
  match ws.get? name with
  | some v => if v.isTruthy then v else .ofInt 0
  | none => .ofInt 0

/-- The number that a weight stands for, if it is above zero. -/
def positive (v : Json) : Except Misfit (Option Number) :=
  match v.numeric? with
  | some n => .ok (if n.le (.int 0) then none else some n)
  | none => .error .wrongKind

/-- How much is left of a bonus after some hours. -/
def decay (bonus halfLife : Number) (hours : Float) : Except Misfit Number := do
  let rounds := -hours / (← halfLife.toFloat)
  bonus.mul (.float (Float.pow 2.0 rounds))

/-- The hours between two times in milliseconds, zero if the second is not later. -/
def hoursBetween (mtimeMs nowMs : Number) : Except Misfit Float := do
  let h ← (← nowMs.sub mtimeMs).quotient 3600000
  .ok (if 0.0 < h then h else 0.0)

def bonus (s : Settings) (mtimeMs : Option Number) (nowMs : Number) : Except Misfit Number := do
  let ws ← s.weights "recency"
  match mtimeMs with
  | none => .ok (.float 0.0)
  | some t =>
    match ← positive (weightOr ws "maxBonus") with
    | none => .ok (.float 0.0)
    | some most =>
      match ← positive (weightOr ws "halfLifeHours") with
      | none => .ok (.float 0.0)
      | some halfLife => decay most halfLife (← hoursBetween t nowMs)

end Recency

namespace Safety

def holdsNone (text : List Char) : List Json → Except Misfit Bool
  | [] => .ok true
  | .str token :: r =>
    if token ≠ "" && Text.isPart (Text.lower token).toList text then .ok false else holdsNone text r
  | v :: r => if v.isTruthy then .error .notATable else holdsNone text r

def isSafe (s : Settings) (content : String) : Except Misfit Bool := do
  if s.allowUnsafe.isTruthy then .ok true
  else holdsNone (Text.lower content).toList (← s.blockedTokens.iterate)

end Safety

end ShapeSearch
