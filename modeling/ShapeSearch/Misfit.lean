/-!
# Values that do not fit

A misfit says how a value fails where it is used.  Those that can end a validation have a wording of their
own, which is shown as the reason.

A computation in steps succeeds if and only if each of its steps does, and fails with the first that fails.
-/

namespace ShapeSearch

inductive Misfit where
  | wrongKind
  /-- a table or text is needed, and the value has no such operations -/
  | notATable
  /-- a value of the right kind that cannot be read -/
  | badValue
  /-- a number beyond what can be counted with -/
  | tooLarge
  | badPattern
  /-- a pattern that looks back further than can be looked -/
  | tooWide
  /-- a match with a group that ends before it starts -/
  | brokenGroup
  | missingKey
  | linkLoop
  | undecodable
  /-- a path that leads to nothing -/
  | absent
  /-- a path that goes through something that is no directory -/
  | notADirectory
  /-- a path that no file can have, for its length or for the links it goes through -/
  | unreachable
  /-- a value nested deeper than can be followed -/
  | tooDeep
  /-- an expression nested deeper than can be read -/
  | tooComplex
  /-- an operation between two kinds of values that do not go together -/
  | operands (operator left right : String)
deriving DecidableEq

def Misfit.message : Misfit → String
  | .operands operator left right =>
    "unsupported operand type(s) for " ++ operator ++ ": '" ++ left ++ "' and '" ++ right ++ "'"
  | .tooLarge => "int too large to convert to float"
  | .brokenGroup => "The span of capturing group is wrong, please report a bug for the re module."
  | _ => ""

/-! ## Computations in steps -/

variable {ε α β : Type}

variable {x : Except ε α}

theorem bind_eq_ok {f : α → Except ε β} {b : β} : (x >>= f) = .ok b ↔ ∃ a, x = .ok a ∧ f a = .ok b := by
  cases x with
  | error m => simp [bind, Except.bind]
  | ok a => simp [bind, Except.bind]

theorem bind_eq_error {f : α → Except ε β} {e : ε} :
    (x >>= f) = .error e ↔ x = .error e ∨ ∃ a, x = .ok a ∧ f a = .error e := by
  cases x with
  | error m => simp [bind, Except.bind]
  | ok a => simp [bind, Except.bind]

theorem bind_ok {f : α → Except ε β} {a : α} (h : x = .ok a) : (x >>= f) = f a := by
  rw [h]
  rfl

theorem eq_ok_of_toOption {a : α} (h : x.toOption = some a) : x = .ok a := by
  cases x with
  | error m => cases h
  | ok b =>
    cases h
    rfl

def failure? : Except ε α → Option ε
  | .error m => some m
  | .ok _ => none

theorem eq_error_of_failure? {m : ε} (h : failure? x = some m) : x = .error m := by
  cases x with
  | error n =>
    cases h
    rfl
  | ok a => cases h

end ShapeSearch
