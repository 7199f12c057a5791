import ShapeSearch.Command.Bytes

/-!
# Shell scripts

A script is a list of commands.  A simple command has assignments, words and redirections; a word is made
of parts, some of which are replaced when the command runs: parameters, the output of commands, and the
value of arithmetic.
-/

namespace ShapeSearch.Command.Shell

inductive Form where
  | value
  | length
  /-- its value, or a word if it is not set; `orNull` says that an empty value counts as none -/
  | orElse (orNull : Bool)
  /-- the same, and the word becomes its value -/
  | orAssign (orNull : Bool)
  | ifSet (orNull : Bool)
  | orFail (orNull : Bool)
  /-- its value without what a pattern matches at its start -/
  | trimStart (longest : Bool)
  /-- its value without what a pattern matches at its end -/
  | trimEnd (longest : Bool)
  /-- something that cannot be taken -/
  | malformed
deriving DecidableEq

inductive RedirectKind where
  | read
  | write
  /-- also where files are protected -/
  | overwrite
  | append
  | readWrite
  | copyInput
  | copyOutput
  /-- a text from the script itself; `document` says which -/
  | here (document : Nat)
deriving DecidableEq

mutual

inductive Part where
  | plain (text : Bytes)
  | quoted (text : Bytes)
  | parameter (inQuotes : Bool) (name : Bytes) (form : Form) (word : List Part)
  | output (inQuotes : Bool) (body : Statement)
  | arithmetic (inQuotes : Bool) (expression : List Part)

/-- Where a command reads from or writes to. -/
inductive Redirect where
  | to (kind : RedirectKind) (fd : Nat) (target : List Part)

inductive Statement where
  | nothing
  | simple (line : Nat) (assignments : List (Bytes × List Part)) (words : List (List Part))
    (redirects : List Redirect)
  | pipeline (commands : List Statement)
  | negate (command : Statement)
  | both (first second : Statement)
  | either (first second : Statement)
  | seq (first second : Statement)
  | background (command : Statement)
  | redirected (line : Nat) (command : Statement) (redirects : List Redirect)
  | subshell (line : Nat) (body : Statement) (redirects : List Redirect)
  | choose (condition yes no : Statement)
  | loop (untilOk : Bool) (condition body : Statement)
  | each (line : Nat) (name : Bytes) (words : List (List Part)) (body : Statement)
  | select (line : Nat) (word : List Part) (arms : List (List (List Part) × Statement))
  | define (name : Bytes) (body : Statement)

end

instance : Inhabited Statement := ⟨.nothing⟩

abbrev Word := List Part

/-- A text that stands in a script after the command that reads it. -/
structure Document where
  id : Nat
  delimiter : Bytes
  /-- nothing in it is replaced -/
  literal : Bool
  /-- tabs at the start of its lines do not count -/
  stripTabs : Bool

def isNameStart (c : Char) : Bool := c.isAlpha || c == '_'

def isNameChar (c : Char) : Bool := c.isAlphanum || c == '_'

def isName : Bytes → Bool
  | [] => false
  | c :: r => isNameStart c && r.all isNameChar

/-- Parameters whose name is a sign. -/
def isSpecial (c : Char) : Bool := "@*#?-$!0".toList.contains c

/-- The name that an assignment sets and where its value starts, if the text is one. -/
def splitAssignment? (s : Bytes) : Option (Bytes × Bytes) :=
  match s.takeWhile isNameChar, s.dropWhile isNameChar with
  | name@(c :: _), '=' :: r => if isNameStart c then some (name, r) else none
  | _, _ => none

end ShapeSearch.Command.Shell
