import ShapeSearch.Text.CharName
import ShapeSearch.Text.Letter

/-!
# The text between quotes

`unescape?` reads the escapes of a text literal and `bytesOk` judges those of a byte literal.  An
unknown escape stands for itself; an incomplete one is refused.
-/

namespace ShapeSearch.Source

def hexNumber? : Nat → Nat → List Char → Option (Nat × List Char)
  | 0, v, s => some (v, s)
  | n + 1, v, c :: r => (Text.hexValue? c).bind fun d => hexNumber? n (v * 16 + d) r
  | _ + 1, _, [] => none

def octalNumber : Nat → Nat → List Char → Nat × List Char
  | 0, v, s => (v, s)
  | n + 1, v, c :: r =>
    if '0' ≤ c && c < '8' then octalNumber n (v * 8 + (c.toNat - 48)) r else (v, c :: r)
  | _ + 1, v, [] => (v, [])

/-- The character of a code point; one that no text can hold becomes the replacement character. -/
def charOf (n : Nat) : Char :=
  if n.isValidChar then Char.ofNat n else '�'

def simpleEscape? : Char → Option Char
  | '\\' => some '\\'
  | '\'' => some '\''
  | '"' => some '"'
  | 'a' => some '\x07'
  | 'b' => some '\x08'
  | 'f' => some '\x0c'
  | 'n' => some '\n'
  | 'r' => some '\r'
  | 't' => some '\t'
  | 'v' => some '\x0b'
  | _ => none

/-- The text that an escaped text spells; `out` holds what was read, last character first. -/
def unescapeFrom : Nat → List Char → List Char → Option (List Char)
  | 0, _, out => some out.reverse
  | _ + 1, [], out => some out.reverse
  | fuel + 1, '\\' :: c :: r, out =>
    match simpleEscape? c with
    | some x => unescapeFrom fuel r (x :: out)
    | none =>
      if c == '\n' then unescapeFrom fuel r out
      else if c == 'x' then
        (hexNumber? 2 0 r).bind fun (n, r) => unescapeFrom fuel r (charOf n :: out)
      else if c == 'u' then
        (hexNumber? 4 0 r).bind fun (n, r) => unescapeFrom fuel r (charOf n :: out)
      else if c == 'U' then
        (hexNumber? 8 0 r).bind fun (n, r) =>
          if n < 0x110000 then unescapeFrom fuel r (charOf n :: out) else none
      else if c == 'N' then
        match r with
        | '{' :: r =>
          match r.dropWhile (· ≠ '}') with
          | _ :: rest =>
            (Text.charNamed? (String.ofList (r.takeWhile (· ≠ '}')))).bind fun x =>
              unescapeFrom fuel rest (x :: out)
          | [] => none
        | _ => none
      else if '0' ≤ c && c < '8' then
        let (n, r) := octalNumber 2 (c.toNat - 48) r
        unescapeFrom fuel r (charOf n :: out)
      else unescapeFrom fuel r (c :: '\\' :: out)
  | fuel + 1, c :: r, out => unescapeFrom fuel r (c :: out)

def unescape? (s : List Char) : Option (List Char) :=
  unescapeFrom (s.length + 1) s []

/-- Whether every hexadecimal escape of a byte literal is complete. -/
def byteEscapesOk : List Char → Bool
  | '\\' :: 'x' :: a :: b :: r => (Text.hexValue? a).isSome && (Text.hexValue? b).isSome && byteEscapesOk r
  | '\\' :: 'x' :: _ => false
  | '\\' :: _ :: r => byteEscapesOk r
  | _ :: r => byteEscapesOk r
  | [] => true

/-- Whether a byte literal is well formed: ASCII only, with complete escapes unless it is raw. -/
def bytesOk (raw : Bool) (s : List Char) : Bool :=
  s.all (·.toNat < 128) && (raw || byteEscapesOk s)

def opener (c : Char) : Char :=
  if c == ')' then '(' else if c == ']' then '[' else '{'

/-- The expression at the start of a replacement field: its text, and the rest from the character that
ends it on.  `quote` is an open quote with its length, `brackets` the open brackets, and `out` the text so
far, last character first.  Every step takes a character, so the text itself, as the first argument, bounds
their number. -/
def fieldExpr? : List Char → Option (Char × Nat) → List Char → List Char → List Char →
    Option (List Char × List Char)
  | [], _, _, _, _ => none
  | _ :: _, _, _, _, [] => none
  | _ :: fuel, quote, brackets, out, c :: r =>
    if c == '\\' then none
    else
      match quote with
      | some (q, 3) =>
        match c :: r with
        | a :: b :: d :: r' =>
          if a == q && b == q && d == q then fieldExpr? fuel none brackets (d :: b :: a :: out) r'
          else fieldExpr? fuel quote brackets (c :: out) r
        | _ => fieldExpr? fuel quote brackets (c :: out) r
      | some (q, _) =>
        fieldExpr? fuel (if c == q then none else quote) brackets (c :: out) r
      | none =>
        if c == '"' || c == '\'' then
          match r with
          | b :: d :: r' =>
            if b == c && d == c then fieldExpr? fuel (some (c, 3)) brackets (d :: b :: c :: out) r'
            else fieldExpr? fuel (some (c, 1)) brackets (c :: out) r
          | _ => fieldExpr? fuel (some (c, 1)) brackets (c :: out) r
        else if c == '[' || c == '{' || c == '(' then
          if 200 ≤ brackets.length then none
          else fieldExpr? fuel none (c :: brackets) (c :: out) r
        else if c == '#' then none
        else if brackets.isEmpty &&
            (c == '!' || c == ':' || c == '}' || c == '=' || c == '>' || c == '<') then
          match r with
          | '=' :: r' =>
            if c == '!' || c == '=' || c == '<' || c == '>' then
              fieldExpr? fuel none brackets ('=' :: c :: out) r'
            else some (out.reverse, c :: r)
          | _ =>
            if c == '>' || c == '<' then fieldExpr? fuel none brackets (c :: out) r
            else some (out.reverse, c :: r)
        else if c == ']' || c == '}' || c == ')' then
          match brackets with
          | b :: bs => if b == opener c then fieldExpr? fuel none bs (c :: out) r else none
          | [] => none
        else fieldExpr? fuel none brackets (c :: out) r

/-- The literal part of a formatted text up to the next single brace, last character first; doubled
braces stand for one brace outside of format specifications.  The first argument bounds the number of
steps as in `fieldExpr?`. -/
def formatLiteral? (raw nested : Bool) : List Char → List Char → List Char →
    Option (List Char × List Char)
  | _, [], out => some (out, [])
  | [], _ :: _, _ => none
  | _ :: fuel, c :: r, out =>
    if !raw && c == '\\' && !r.isEmpty then
      match r with
      | 'N' :: '{' :: r' =>
        let name := r'.takeWhile (· ≠ '}')
        match r'.dropWhile (· ≠ '}') with
        | _ :: rest => formatLiteral? raw nested fuel rest ('}' :: name.reverse ++ '{' :: 'N' :: '\\' :: out)
        | [] => formatLiteral? raw nested fuel [] (name.reverse ++ '{' :: 'N' :: '\\' :: out)
      | 'N' :: d :: r' => formatLiteral? raw nested fuel r' (d :: 'N' :: '\\' :: out)
      | d :: r' =>
        if d == '{' || d == '}' then
          -- the backslash stays, the brace counts
          brace fuel d r' ('\\' :: out)
        else formatLiteral? raw nested fuel r' (d :: '\\' :: out)
      | [] => none
    else if c == '{' || c == '}' then brace fuel c r out
    else formatLiteral? raw nested fuel r (c :: out)
where
  /-- A brace in literal text. -/
  brace (fuel : List Char) (c : Char) (r out : List Char) : Option (List Char × List Char) :=
    if nested then some (out, c :: r)
    else
      match r with
      | d :: r' =>
        if d == c then formatLiteral? raw nested fuel r' (c :: out)
        else if c == '}' then none
        else some (out, c :: r)
      | [] => if c == '}' then none else some (out, c :: r)

end ShapeSearch.Source
