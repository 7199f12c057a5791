import Mathlib.Data.List.Induction
import ShapeSearch.Feedback
import ShapeSearch.Misfit

/-!
# The latest verdict counts

Accepted and rejected paths are kept apart.  After any calls a path is accepted for a name if and only if the latest
verdict on it for that name was to accept it, and likewise for rejected paths (`mem_run`), so no path is both.
-/

namespace ShapeSearch.Feedback

inductive Verdict where
  | accept
  | reject

structure Call where
  verdict : Verdict
  signature : Signature
  path : String

def call (f : Feedback) (c : Call) : Feedback :=
  match c.verdict with
  | .accept => f.accept c.signature c.path
  | .reject => f.reject c.signature c.path

def run (calls : List Call) : Feedback :=
  calls.foldl call {}

/-- What a call gives its verdict on. -/
def Call.subject (c : Call) : String × String :=
  (keyOf c.signature, c.path)

def latest (calls : List Call) (p : String × String) : Option Verdict :=
  (calls.filter (·.subject = p)).getLast?.map Call.verdict

/-- The points for the latest verdict, none if there is no verdict. -/
def verdictPoints (ws : Fields Json) : Option Verdict → Except Misfit Number
  | some .accept => floatWeight ws "acceptedBonus"
  | some .reject => floatWeight ws "rejectedPenalty"
  | none => .ok (.float 0.0)

theorem mem_insert {p q : String × String} {xs : List (String × String)} :
    p ∈ insert q xs ↔ p = q ∨ p ∈ xs := by
  rw [insert]
  split
  · next h => exact ⟨.inr, fun hp => hp.elim (fun hpq => hpq ▸ List.contains_iff_mem.mp h) id⟩
  · exact List.mem_cons

theorem mem_discard {p q : String × String} {xs : List (String × String)} :
    p ∈ discard q xs ↔ p ≠ q ∧ p ∈ xs := by
  simp [discard, and_comm]

theorem latest_concat (calls : List Call) (c : Call) (p : String × String) :
    latest (calls ++ [c]) p = if p = c.subject then some c.verdict else latest calls p := by
  unfold latest
  rw [List.filter_append]
  by_cases h : p = c.subject
  · simp [h]
  · simp [h, Ne.symm h]

theorem mem_run (calls : List Call) (p : String × String) :
    (p ∈ (run calls).accepted ↔ latest calls p = some .accept) ∧
      (p ∈ (run calls).rejected ↔ latest calls p = some .reject) := by
  induction calls using List.reverseRecOn with
  | nil => simp [run, latest]
  | append_singleton calls c ih =>
    rw [run, List.foldl_append, List.foldl_cons, List.foldl_nil, ← run, latest_concat, call]
    cases hc : c.verdict with
    | accept =>
      rw [accept, ← Call.subject, mem_insert, mem_discard, ih.1, ih.2]
      split <;> simp_all
    | reject =>
      rw [reject, ← Call.subject, mem_insert, mem_discard, ih.1, ih.2]
      split <;> simp_all

/-- The points of a path are those for the latest verdict on it, and no path is both accepted and rejected. -/
theorem points_run (calls : List Call) (s : Settings) (sig : Signature) (path : String) :
    (run calls).points s sig path =
        ((s.weights "feedback").bind fun ws => verdictPoints ws (latest calls (keyOf sig, path))) ∧
      ∀ p, ¬ (p ∈ (run calls).accepted ∧ p ∈ (run calls).rejected) := by
  constructor
  · have h := mem_run calls (keyOf sig, path)
    rw [points]
    cases s.weights "feedback" with
    | error m => rfl
    | ok ws =>
      rw [bind_ok rfl, Except.bind]
      cases hv : latest calls (keyOf sig, path) with
      | none => simp [h.1, h.2, hv, verdictPoints]
      | some v => cases v <;> simp [h.1, h.2, hv, verdictPoints]
  · rintro p ⟨haccepted, hrejected⟩
    rw [(mem_run calls p).1] at haccepted
    rw [(mem_run calls p).2, haccepted] at hrejected
    cases hrejected

end ShapeSearch.Feedback
