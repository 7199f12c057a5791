import ShapeSearch.Command.Files

/-!
# Starting a program

A program is started with a name, arguments and an input, among files and with an environment.
-/

namespace ShapeSearch.Command

structure Request where
  /-- the name it is called by, which its messages start with -/
  name : Bytes
  args : List Bytes
  input : Bytes
  world : World
  env : List (Bytes × Bytes) := []

structure OptionSpec where
  letter : Char
  long : String
  takesArgument : Bool := false

structure Arguments where
  /-- options with their arguments, first first -/
  options : List (Char × Bytes) := []
  operands : List Bytes := []

namespace Arguments

def has (a : Arguments) (c : Char) : Bool := a.options.any (·.1 == c)

/-- The argument of an option, the last one given. -/
def get? (a : Arguments) (c : Char) : Option Bytes :=
  (a.options.reverse.find? (·.1 == c)).map (·.2)

end Arguments

namespace Request

def message (r : Request) (text : Bytes) : Bytes := r.name ++ ": ".toList ++ text

def fail (r : Request) (text : Bytes) (status : Nat := 1) : Reply :=
  .failed status (r.message text)

def failWithHint (r : Request) (text : Bytes) (status : Nat := 1) : Reply :=
  .failed status (r.message text ++ "\nTry '".toList ++ r.name ++
    " --help' for more information.".toList)

def longMatches (specs : List OptionSpec) (word : Bytes) : List OptionSpec :=
  match specs.filter fun s => s.long.toList == word with
  | s :: _ => [s]
  | [] => specs.filter fun s => s.long != "" && word.isPrefixOf s.long.toList

/-- Letters of options in one word; the rest of the word or the next word is the argument of the last. -/
def shortOptions (specs : List OptionSpec) (os : Bytes) (next : List Bytes)
    (out : List (Char × Bytes)) : Except Bytes (List (Char × Bytes) × List Bytes) :=
  match os with
  | [] => .ok (out, next)
  | c :: r =>
    match specs.find? (·.letter == c) with
    | none => .error ("invalid option -- '".toList ++ [c, '\''])
    | some s =>
      if s.takesArgument then
        if r.isEmpty then
          match next with
          | a :: next => .ok ((c, a) :: out, next)
          | [] => .error ("option requires an argument -- '".toList ++ [c, '\''])
        else .ok ((c, r) :: out, next)
      else shortOptions specs r next ((c, []) :: out)

/-- Options and operands in any order; `fuel` is at least their number. -/
def argumentsFrom (specs : List OptionSpec) (mixed : Bool) :
    Nat → List Bytes → List (Char × Bytes) → List Bytes → Except Bytes Arguments
  | 0, ws, options, operands => .ok ⟨options.reverse, operands.reverse ++ ws⟩
  | _, [], options, operands => .ok ⟨options.reverse, operands.reverse⟩
  | fuel + 1, w :: ws, options, operands =>
    match w with
    | ['-', '-'] => .ok ⟨options.reverse, operands.reverse ++ ws⟩
    | '-' :: '-' :: long =>
      let name := long.takeWhile (· != '=')
      let given := match long.dropWhile (· != '=') with
        | _ :: v => some v
        | [] => none
      match longMatches specs name with
      | [s] =>
        match s.takesArgument, given with
        | true, some v => argumentsFrom specs mixed fuel ws ((s.letter, v) :: options) operands
        | true, none =>
          match ws with
          | v :: ws => argumentsFrom specs mixed fuel ws ((s.letter, v) :: options) operands
          | [] => .error ("option '--".toList ++ s.long.toList ++ "' requires an argument".toList)
        | false, some _ =>
          .error ("option '--".toList ++ s.long.toList ++ "' doesn't allow an argument".toList)
        | false, none => argumentsFrom specs mixed fuel ws ((s.letter, []) :: options) operands
      | [] => .error ("unrecognized option '".toList ++ w ++ ['\''])
      | many => .error ("option '".toList ++ w ++ "' is ambiguous; possibilities:".toList ++
          many.flatMap fun s => " '--".toList ++ s.long.toList ++ ['\''])
    | '-' :: o :: os =>
      match shortOptions specs (o :: os) ws options with
      | .ok (options, ws) => argumentsFrom specs mixed fuel ws options operands
      | .error e => .error e
    | w =>
      if mixed then argumentsFrom specs mixed fuel ws options (w :: operands)
      else .ok ⟨options.reverse, operands.reverse ++ w :: ws⟩

def arguments (r : Request) (specs : List OptionSpec) (mixed : Bool := true) : Except Bytes Arguments :=
  argumentsFrom specs mixed r.args.length r.args [] []

end Request

end ShapeSearch.Command
