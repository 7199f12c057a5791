import ShapeSearch.Misfit
import ShapeSearch.Pattern.Node
import ShapeSearch.Text.CharName
import ShapeSearch.Text.Letter
import ShapeSearch.Text.Numeral

/-!
# Reading text patterns

`Pattern.compile` reads the written form of a pattern.  A backslash and the character after it are one
token, and the token after the one that is read is looked at, too.  Modes switched at the start hold for the
whole pattern, so the modes are worked in only when all of it has been read.
-/

namespace ShapeSearch.Pattern

inductive PatternError where
  | malformed
  | misfit (m : Misfit)

inductive Token where
  | plain (c : Char)
  | escaped (c : Char)
  /-- a backslash at the end -/
  | dangling
deriving DecidableEq

def tokenize : List Char → List Token
  | [] => []
  | '\\' :: c :: r => .escaped c :: tokenize r
  | ['\\'] => [.dangling]
  | c :: r => .plain c :: tokenize r

structure ReadState where
  rest : List Token
  flags : Flags
  groupNames : List (String × Nat) := []
  /-- length bounds of the groups, absent while a group is open; index 0 is unused -/
  groupWidths : List (Option (Nat × Nat)) := [none]
  /-- number of groups when the outermost look behind was entered -/
  behindGroups : Option Nat := none
  /-- group numbers that conditions ask for -/
  conditions : List Nat := []
  /-- how deep the groups around this place are nested -/
  depth : Nat := 0

abbrev Read (α : Type) := ReadState → Except PatternError (α × ReadState)

namespace Read

@[inline] def give {α : Type} (a : α) : Read α := fun s => .ok (a, s)

@[inline] def andThen {α β : Type} (x : Read α) (f : α → Read β) : Read β := fun s =>
  match x s with
  | .ok (a, s) => f a s
  | .error e => .error e

instance : Monad Read where
  pure := Read.give
  bind := Read.andThen

def fail {α : Type} (e : PatternError) : Read α := fun _ => .error e

def malformed {α : Type} : Read α := fail .malformed

def peek : Read (Option Token) := fun s => .ok (s.rest.head?, s)

/-- Go on with the tokens that are left; a backslash at the end is refused as soon as it comes next. -/
def goOn {α : Type} (a : α) (rest : List Token) : Read α := fun s =>
  if rest.head? = some .dangling then .error .malformed else .ok (a, { s with rest })

def next : Read (Option Token) := fun s =>
  match s.rest with
  | [] => .ok (none, s)
  | t :: r => goOn (some t) r s

def take (c : Char) : Read Bool := fun s =>
  match s.rest with
  | t :: r => if t = .plain c then goOn true r s else .ok (false, s)
  | [] => .ok (false, s)

def require (c : Char) : Read Unit := do
  if ← take c then pure () else malformed

/-- At most `n` plain characters of a class. -/
def takeSome (p : Char → Bool) : Nat → Read (List Char)
  | 0 => pure []
  | n + 1 => do
    match ← peek with
    | some (.plain c) =>
      if p c then
        let _ ← next
        let r ← takeSome p n
        pure (c :: r)
      else pure []
    | _ => pure []

/-- How deep groups can be nested, a condition counted once and any other group twice. -/
def depthLimit : Nat := 984

/-- Read something nested `weight` deeper than what is around it. -/
def within {α : Type} (weight : Nat) (x : Read α) : Read α := fun s =>
  if depthLimit < s.depth + weight then .error (.misfit .tooDeep)
  else
    match x { s with depth := s.depth + weight } with
    | .ok (a, s') => .ok (a, { s' with depth := s.depth })
    | .error e => .error e

/-- The tokens left, as a bound on what can still be read. -/
def remaining : Read Nat := fun s => .ok (s.rest.length, s)

def takeAll (p : Char → Bool) : Read (List Char) := do
  takeSome p (← remaining)

def nameUntil (close : Char) : Nat → List Char → Read String
  | 0, _ => malformed
  | fuel + 1, out => do
    match ← next with
    | none => malformed
    | some (.plain c) =>
      if c == close then
        if out.isEmpty then malformed else pure (String.ofList out.reverse)
      else nameUntil close fuel (c :: out)
    | some (.escaped c) => nameUntil close fuel (c :: '\\' :: out)
    | some .dangling => malformed

def name (close : Char) : Read String := do
  nameUntil close ((← remaining) + 1) []

end Read

open Read

def isIdentifier (s : String) : Bool :=
  match s.toList with
  | [] => false
  | c :: r => Text.isIdStart c && r.all Text.isIdContinue

def digitValue (c : Char) : Nat :=
  if c.isDigit then c.toNat - 48 else if c.isLower then c.toNat - 87 else c.toNat - 55

def isHex (c : Char) : Bool :=
  c.isDigit || ('a' ≤ c && c ≤ 'f') || ('A' ≤ c && c ≤ 'F')

def isOctal (c : Char) : Bool :=
  '0' ≤ c && c ≤ '7'

def valueIn (base : Nat) (ds : List Char) : Nat :=
  ds.foldl (fun n c => n * base + digitValue c) 0

def hexCode (n : Nat) : Read Nat := do
  let ds ← takeSome isHex n
  if ds.length = n then pure (valueIn 16 ds) else malformed

/-- Letters after a backslash that stand for one control character. -/
def controlEscape? : Char → Option Nat
  | 'a' => some 7
  | 'f' => some 12
  | 'n' => some 10
  | 'r' => some 13
  | 't' => some 9
  | 'v' => some 11
  | '\\' => some 92
  | _ => none

def classEscape? : Char → Option Member
  | 'd' => some (.category .digit false)
  | 'D' => some (.category .digit true)
  | 's' => some (.category .space false)
  | 'S' => some (.category .space true)
  | 'w' => some (.category .word false)
  | 'W' => some (.category .word true)
  | _ => none

def namedCode : Read Nat := do
  require '{'
  match Text.charNamed? (← Read.name '}') with
  | some c => pure c.toNat
  | none => malformed

/-- The code point of an escape that spells it out: by hexadecimal digits, or by name. -/
def codeEscape? (c : Char) : Option (Read Nat) :=
  match c with
  | 'N' => some namedCode
  | 'x' => some (hexCode 2)
  | 'u' => some (hexCode 4)
  | 'U' => some do
    let n ← hexCode 8
    if n < 0x110000 then pure n else malformed
  | _ => none

def setEscape (c : Char) : Read Member :=
  match controlEscape? c, classEscape? c, codeEscape? c with
  | some n, _, _ => pure (.single n)
  | _, some m, _ => pure m
  | _, _, some code => do pure (.single (← code))
  | none, none, none => do
    if c == 'b' then pure (.single 8)
    else if isOctal c then
      let ds ← takeSome isOctal 2
      let n := valueIn 8 (c :: ds)
      if n ≤ 0o377 then pure (.single n) else malformed
    else if c.isDigit || c.isAlpha then malformed
    else pure (.single c.toNat)

def groupClosed (n : Nat) : Read Bool := fun s =>
  .ok ((s.groupWidths.getD n none).isSome, s)

/-- Inside a look behind only groups closed before it may be asked for. -/
def checkBehind (n : Nat) : Read Unit := fun s =>
  match s.behindGroups with
  | none => .ok ((), s)
  | some limit =>
    if (s.groupWidths.getD n none).isSome && n < limit then .ok ((), s) else .error .malformed

def groupReference (n : Nat) : Read Raw := do
  if ← groupClosed n then
    checkBehind n
    pure (.backref n)
  else malformed

/-- A number after a backslash: three octal digits are a code point, anything else a group. -/
def numberEscape (c : Char) : Read Raw := do
  match ← peek with
  | some (.plain d) =>
    if d.isDigit then
      let _ ← next
      match ← peek with
      | some (.plain e) =>
        if isOctal c && isOctal d && isOctal e then
          let _ ← next
          let n := valueIn 8 [c, d, e]
          if n ≤ 0o377 then pure (.literal n false) else malformed
        else groupReference (valueIn 10 [c, d])
      | _ => groupReference (valueIn 10 [c, d])
    else groupReference (valueIn 10 [c])
  | _ => groupReference (valueIn 10 [c])

def escape (c : Char) : Read Raw :=
  match c with
  | 'A' => pure .textStart
  | 'Z' => pure .textEnd
  | 'b' => pure (.boundary false)
  | 'B' => pure (.boundary true)
  | _ =>
    match classEscape? c, controlEscape? c, codeEscape? c with
    | some m, _, _ => pure (.set false [m])
    | _, some n, _ => pure (.literal n false)
    | _, _, some code => do pure (.literal (← code) false)
    | none, none, none => do
      if c == '0' then
        let ds ← takeSome isOctal 2
        pure (.literal (valueIn 8 ds) false)
      else if c.isDigit then numberEscape c
      else if c.isAlpha then malformed
      else pure (.literal c.toNat false)

def setItem : Token → Read Member
  | .plain c => pure (.single c.toNat)
  | .escaped c => setEscape c
  | .dangling => malformed

/-- The members of a character set up to its closing bracket, last read first. -/
def setMembers : Nat → List Member → Read (List Member)
  | 0, _ => malformed
  | fuel + 1, out => do
    match ← next with
    | none => malformed
    | some t =>
      if t = .plain ']' && !out.isEmpty then pure out.reverse
      else
        let lo ← setItem t
        if ← take '-' then
          match ← next with
          | none => malformed
          | some (.plain ']') => pure (Member.single 45 :: lo :: out).reverse
          | some u =>
            let hi ← setItem u
            match lo, hi with
            | .single a, .single b =>
              if b < a then malformed else setMembers fuel (.range a b :: out)
            | _, _ => malformed
        else setMembers fuel (lo :: out)

def characterSet : Read Raw := do
  let negated ← take '^'
  let members ← setMembers ((← remaining) + 1) []
  match members.eraseDups with
  | [.single n] => pure (.literal n negated)
  | ms => pure (.set negated ms)

def roundNumber (ds : List Char) : Except PatternError Nat :=
  if Text.digitLimit < ds.length then .error (.misfit .badValue)
  else if Raw.roundLimit ≤ valueIn 10 ds then .error (.misfit .tooLarge)
  else .ok (valueIn 10 ds)

/-- A repetition count written in braces, after the opening one; nothing is taken if the braces do
not hold a count. -/
def countedRepeat : Read (Option (Nat × Option Nat)) := fun s =>
  let read : Read (Option (List Char × List Char)) := do
    if (← peek) = some (.plain '}') then pure none
    else
      let lo ← takeAll Char.isDigit
      let hi ← if ← take ',' then takeAll Char.isDigit else pure lo
      if ← take '}' then pure (some (lo, hi)) else pure none
  match read s with
  | .error e => .error e
  | .ok (none, _) => .ok (none, s)
  | .ok (some (lo, hi), s') => do
    let min ← roundNumber lo
    let max ← roundNumber hi
    if hi.isEmpty then .ok (some (min, none), s')
    else if max < min then .error .malformed
    else .ok (some (min, some max), s')

def flagOf? : Char → Option Flags
  | 'i' => some { ignoreCase := true }
  | 'm' => some { multiline := true }
  | 's' => some { dotAll := true }
  | 'x' => some { verbose := true }
  | 'a' => some { ascii := true }
  | 'u' => some { unicode := true }
  | 't' => some { template := true }
  | _ => none

/-- The modes switched on in a group's head, from their first letter, with the character that ends
them. -/
def flagsOn : Nat → Char → Flags → Read (Flags × Char)
  | 0, _, _ => malformed
  | fuel + 1, c, on => do
    match flagOf? c with
    | none => malformed
    | some f =>
      let on := on.union f
      if on.ascii && on.unicode then malformed
      else
        match ← next with
        | some (.plain d) =>
          if d == ')' || d == '-' || d == ':' then pure (on, d) else flagsOn fuel d on
        | _ => malformed

def flagsOff : Nat → Flags → Read Flags
  | 0, _ => malformed
  | fuel + 1, off => do
    match ← next with
    | some (.plain c) =>
      match flagOf? c with
      | none => malformed
      | some f =>
        if f.ascii || f.unicode then malformed
        else
          let off := off.union f
          if ← take ':' then pure off else flagsOff fuel off
    | _ => malformed

/-- The modes of a group's head: for the whole pattern, or on and off inside the group. -/
inductive FlagHead where
  | whole
  | scoped (on off : Flags)

/-- The head of a group that switches modes, from its first letter. -/
def flagHead (c : Char) : Read FlagHead := do
  let fuel := (← remaining) + 1
  let (on, last) ← if c == '-' then pure ({}, '-') else flagsOn fuel c {}
  if last == ')' then
    (fun s => .ok (FlagHead.whole, { s with flags := s.flags.union on }) : Read FlagHead)
  else if on.template then malformed
  else
    let off ← if last == '-' then flagsOff fuel {} else pure {}
    if off.template || on.meets off then malformed else pure (.scoped on off)

def openGroup (name : Option String) : Read Nat := fun s =>
  let index := s.groupWidths.length
  let s := { s with groupWidths := s.groupWidths ++ [none] }
  match name with
  | none => .ok (index, s)
  | some n =>
    if (s.groupNames.lookup n).isSome then .error .malformed
    else .ok (index, { s with groupNames := s.groupNames ++ [(n, index)] })

def closeGroup (index : Nat) (body : Raw) : Read Unit := fun s =>
  .ok ((), { s with groupWidths := s.groupWidths.set index (some (body.width s.groupWidths)) })

def knownGroup (name : String) : Read Nat := fun s =>
  match s.groupNames.lookup name with
  | some n => .ok (n, s)
  | none => .error .malformed

/-- The group a condition asks for: a known name, or a number that some group must have in the
end. -/
def conditionGroup (name : String) : Read Nat := do
  if isIdentifier name then knownGroup name
  else
    match Text.readInt? name with
    | some (.ofNat (n + 1)) =>
      (fun s => .ok (n + 1, { s with conditions := s.conditions ++ [n + 1] }) : Read Nat)
    | _ => malformed

def isSkipped (t : Token) : Bool :=
  match t with
  | .plain c => Text.isAsciiBlank c
  | _ => false

def skipLine : Nat → Read Unit
  | 0 => pure ()
  | fuel + 1 => do
    match ← next with
    | none => pure ()
    | some (.plain '\n') => pure ()
    | some _ => skipLine fuel

def skipComment : Nat → Read Unit
  | 0 => malformed
  | fuel + 1 => do
    match ← next with
    | none => malformed
    | some (.plain ')') => pure ()
    | some _ => skipComment fuel

/-- Remember that a look behind is entered; gives what was remembered before. -/
def enterBehind : Read (Option Nat) := fun s =>
  .ok (s.behindGroups,
    if s.behindGroups.isNone then { s with behindGroups := some s.groupWidths.length } else s)

def leaveBehind (before : Option Nat) : Read Unit := fun s =>
  .ok ((), { s with behindGroups := before })

def wholeVerbose : Read Bool := fun s => .ok (s.flags.verbose, s)

def repeatLast (min : Nat) (max : Option Nat) : List Raw → Read (List Raw)
  | [] => malformed
  | item :: before => do
    if item.isPlace || item.isLoop then malformed
    else
      let body := item.plainBody?.getD item
      if ← take '?' then pure (.loop .reluctant min max body :: before)
      else if ← take '+' then pure (.loop .possessive min max body :: before)
      else pure (.loop .greedy min max body :: before)

mutual
/-- Choices separated by bars; `nested` is false for the whole pattern. -/
def choices : Nat → Bool → Bool → Read Raw
  | 0, _, _ => malformed
  | fuel + 1, verbose, nested => do
    let first ← sequence fuel verbose (!nested) []
    let others ← moreChoices fuel verbose nested
    pure (Raw.ofChoices (first :: others))

def moreChoices : Nat → Bool → Bool → Read (List (List Raw))
  | 0, _, _ => malformed
  | fuel + 1, verbose, nested => do
    if ← take '|' then
      let verbose ← if nested then pure verbose else wholeVerbose
      let item ← sequence fuel verbose false []
      let others ← moreChoices fuel verbose nested
      pure (item :: others)
    else pure []

/-- Items one after the other, up to a bar or a closing parenthesis; `first` says that modes for the
whole pattern may still be switched, `out` holds the items read, last first. -/
def sequence : Nat → Bool → Bool → List Raw → Read (List Raw)
  | 0, _, _, _ => malformed
  | fuel + 1, verbose, first, out => do
    match ← peek with
    | none => pure (out.reverse.flatMap Raw.unwrap)
    | some (.plain '|') => pure (out.reverse.flatMap Raw.unwrap)
    | some (.plain ')') => pure (out.reverse.flatMap Raw.unwrap)
    | some t =>
      let _ ← next
      if verbose && isSkipped t then sequence fuel verbose first out
      else if verbose && t = .plain '#' then
        skipLine ((← remaining) + 1)
        sequence fuel verbose first out
      else
        match t with
        | .escaped c =>
          let item ← escape c
          sequence fuel verbose first (item :: out)
        | .plain '[' =>
          let item ← characterSet
          sequence fuel verbose first (item :: out)
        | .plain '.' => sequence fuel verbose first (.any :: out)
        | .plain '^' => sequence fuel verbose first (.start :: out)
        | .plain '$' => sequence fuel verbose first (.finish :: out)
        | .plain '?' => do
          let out ← repeatLast 0 (some 1) out
          sequence fuel verbose first out
        | .plain '*' => do
          let out ← repeatLast 0 none out
          sequence fuel verbose first out
        | .plain '+' => do
          let out ← repeatLast 1 none out
          sequence fuel verbose first out
        | .plain '{' =>
          match ← countedRepeat with
          | none => sequence fuel verbose first (.literal 123 false :: out)
          | some (min, max) =>
            let out ← repeatLast min max out
            sequence fuel verbose first out
        | .plain '(' =>
          if ← take '?' then
            match ← next with
            | some (.plain c) =>
              match ← extension fuel verbose (first && out.isEmpty) c with
              | (some item, verbose) => sequence fuel verbose first (item :: out)
              | (none, verbose) => sequence fuel verbose first out
            | _ => malformed
          else
            let item ← capture fuel verbose none
            sequence fuel verbose first (item :: out)
        | .plain c => sequence fuel verbose first (.literal c.toNat false :: out)
        | .dangling => malformed

def capture : Nat → Bool → Option String → Read Raw
  | 0, _, _ => malformed
  | fuel + 1, verbose, name => do
    let index ← openGroup name
    let body ← within 2 (choices fuel verbose true)
    require ')'
    closeGroup index body
    pure (.group (some index) {} {} body)

/-- A group after `(?` and one more character; gives the item, if any, and the verbose mode from
here on. -/
def extension : Nat → Bool → Bool → Char → Read (Option Raw × Bool)
  | 0, _, _, _ => malformed
  | fuel + 1, verbose, first, c => do
    match c with
    | 'P' =>
      if ← take '<' then
        let n ← Read.name '>'
        if isIdentifier n then
          let item ← capture fuel verbose (some n)
          pure (some item, verbose)
        else malformed
      else if ← take '=' then
        let n ← Read.name ')'
        if isIdentifier n then
          let item ← groupReference (← knownGroup n)
          pure (some item, verbose)
        else malformed
      else malformed
    | ':' =>
      let body ← within 2 (choices fuel verbose true)
      require ')'
      pure (some (.group none {} {} body), verbose)
    | '#' =>
      skipComment ((← remaining) + 1)
      pure (none, verbose)
    | '=' =>
      let body ← within 2 (choices fuel verbose true)
      require ')'
      pure (some (.look false false body), verbose)
    | '!' =>
      let body ← within 2 (choices fuel verbose true)
      require ')'
      pure (some (.look false true body), verbose)
    | '<' =>
      let sign ← next
      if sign = some (.plain '=') || sign = some (.plain '!') then
        let before ← enterBehind
        let body ← within 2 (choices fuel verbose true)
        leaveBehind before
        require ')'
        pure (some (.look true (sign = some (.plain '!')) body), verbose)
      else malformed
    | '(' =>
      let n ← conditionGroup (← Read.name ')')
      checkBehind n
      let yes ← within 1 (sequence fuel verbose false [])
      let no ← if ← take '|' then
          let item ← within 1 (sequence fuel verbose false [])
          if (← peek) = some (.plain '|') then malformed else pure (some (Raw.ofItems item))
        else pure none
      require ')'
      pure (some (.cond n (Raw.ofItems yes) no), verbose)
    | '>' =>
      let body ← within 2 (choices fuel verbose true)
      require ')'
      pure (some (.atomic body), verbose)
    | _ =>
      if (flagOf? c).isSome || c == '-' then
        match ← flagHead c with
        | .whole => if first then pure (none, ← wholeVerbose) else malformed
        | .scoped on off =>
          let body ← within 2 (choices fuel ((verbose || on.verbose) && !off.verbose) true)
          require ')'
          pure (some (.group none on off body), verbose)
      else malformed
end

/-- A pattern as read: its written form, the modes of the whole, and the node to match, with the least
length of a match and whether the next character alone tells where one can start. -/
structure Compiled where
  source : String
  flags : Flags
  groupNames : List (String × Nat)
  node : Node
  least : Nat := 0
  opensPlainly : Bool := false

/-- No look behind goes so far. -/
def reachLimit : Nat := 2147483648

/-- What a source spells.  Of the modes given from outside only the verbose mode has a say in this. -/
def readSource (source : List Char) (verbose : Bool) : Except PatternError (Raw × ReadState) :=
  let tokens := tokenize source
  goOn () tokens { rest := [], flags := { verbose } } >>= fun s =>
    choices (8 * tokens.length + 8) verbose false s.2

/-- The pattern that a source spells, given with its characters. -/
def compileFrom (source : String) (chars : List Char) (flags : Flags) : Except PatternError Compiled := do
  let (raw, s) ← readSource chars flags.verbose
  let flags := s.flags.union flags
  if flags.ascii && flags.unicode then .error (.misfit .badValue)
  else if !s.rest.isEmpty then .error .malformed
  else if s.conditions.any (s.groupWidths.length ≤ ·) then .error .malformed
  else
    let flags := { flags with unicode := !flags.ascii }
    match raw.compile? s.groupWidths flags .other with
    | some node =>
      if reachLimit ≤ node.reachBack then .error (.misfit .tooWide)
      else
        let least := (raw.width s.groupWidths).1
        .ok ⟨source, flags, s.groupNames, node, least, least != 0 && raw.opensPlainly flags⟩
    | none => .error .malformed

def compile (source : String) (flags : Flags) : Except PatternError Compiled :=
  compileFrom source source.toList flags

end ShapeSearch.Pattern
