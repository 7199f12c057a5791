import ShapeSearch.Command.Shell.Condition
import ShapeSearch.Command.Tool.Figures
import ShapeSearch.Command.Tool.Grep
import ShapeSearch.Command.Tool.Paths
import ShapeSearch.Command.Tool.Sed
import ShapeSearch.Command.Tool.Translate

/-!
# The programs that can be started
-/

namespace ShapeSearch.Command

/-- How the program that tests conditions words a mistake in one of a number of words. -/
def Tool.conditionMessage (count : Nat) : Shell.ConditionError → Bytes
  | .illegalNumber text => "invalid integer ".toList ++ Tool.shownWord text
  | .unexpected _ next =>
    (if count == 2 then "missing argument after " else "extra argument ").toList ++ Tool.shownWord next
  | .argumentExpected op => "missing argument after ".toList ++ Tool.shownWord op
  | .parenExpected => Tool.shownWord [')'] ++ " expected".toList

def Tool.test (r : Request) (words : List Bytes) : Reply :=
  match Shell.decideCondition r.world words with
  | .ok true => { rest := r.input }
  | .ok false => { status := 1, rest := r.input }
  | .error e => { r.fail (Tool.conditionMessage words.length e) 2 with rest := r.input }

def tools : List (String × (Request → Reply)) := [
  ("[", fun r => match r.args.getLast? with
    | some [']'] => Tool.test r r.args.dropLast
    | _ => { r.fail ("missing ".toList ++ Tool.shownWord [']']) 2 with rest := r.input }),
  ("basename", Tool.basename),
  ("cat", Tool.cat),
  ("cut", Tool.cut),
  ("dirname", Tool.dirname),
  ("echo", fun r => { Reply.ofOutput (programEcho r.args) with rest := r.input }),
  ("egrep", Tool.grep true false),
  ("false", fun r => { status := 1, rest := r.input }),
  ("fgrep", Tool.grep false true),
  ("grep", Tool.grep false false),
  ("head", Tool.head),
  ("ls", Tool.ls),
  ("printenv", Tool.printenv),
  ("printf", Tool.printf),
  ("pwd", fun r =>
    let warning := if r.args.isEmpty then [] else r.message "ignoring non-option arguments\n".toList
    { printed := [(.errors, warning), (.output, Bytes.encode r.world.cwd ++ ['\n'])], rest := r.input }),
  ("sed", Tool.sed),
  ("seq", Tool.seq),
  ("sleep", Tool.sleep),
  ("tail", Tool.tail),
  ("tee", Tool.tee),
  ("test", fun r => Tool.test r r.args),
  ("tr", Tool.tr),
  ("true", fun r => { rest := r.input }),
  ("uname", fun r => match r.args with
    | [] => { Reply.ofOutput "Linux\n".toList with rest := r.input }
    | a :: _ => { r.failWithHint ("extra operand ".toList ++ Tool.shownWord a) with rest := r.input }),
  ("wc", Tool.wc)]

def tool? (name : Bytes) : Option (Request → Reply) :=
  (tools.find? fun t => t.1.toList == name).map (·.2)

end ShapeSearch.Command
