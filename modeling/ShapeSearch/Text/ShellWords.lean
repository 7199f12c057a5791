import ShapeSearch.Text.Blank

/-!
# Words of a command line

Words are separated by blanks.  Single quotes keep everything between them, double quotes everything but
a backslash before a backslash or a double quote, and a backslash outside quotes keeps the next character.
An open quote, or a backslash at the end, is no command line.
-/

namespace ShapeSearch.Text

def isWordSpace (c : Char) : Bool :=
  c == ' ' || c == '\t' || c == '\r' || c == '\n'

inductive OpenQuote where
  | outside
  | single
  | double

/-- The words of the rest of a line.  `token` holds the word so far, last character first, and nothing
if no word has begun. -/
def shellWordsFrom : OpenQuote → Option (List Char) → List Char → Option (List String)
  | .outside, token, [] => some (token.map (fun t => String.ofList t.reverse)).toList
  | _, _, [] => none
  | .single, token, c :: r =>
    if c == '\'' then shellWordsFrom .outside token r
    else shellWordsFrom .single (some (c :: token.getD [])) r
  | .double, token, c :: r =>
    if c == '"' then shellWordsFrom .outside token r
    else if c == '\\' then
      match r with
      | [] => none
      | d :: r' =>
        if d == '\\' || d == '"' then shellWordsFrom .double (some (d :: token.getD [])) r'
        else shellWordsFrom .double (some (d :: '\\' :: token.getD [])) r'
    else shellWordsFrom .double (some (c :: token.getD [])) r
  | .outside, token, c :: r =>
    if isWordSpace c then
      match token with
      | none => shellWordsFrom .outside none r
      | some t => (shellWordsFrom .outside none r).map (String.ofList t.reverse :: ·)
    else if c == '\'' then shellWordsFrom .single (some (token.getD [])) r
    else if c == '"' then shellWordsFrom .double (some (token.getD [])) r
    else if c == '\\' then
      match r with
      | [] => none
      | d :: r' => shellWordsFrom .outside (some (d :: token.getD [])) r'
    else shellWordsFrom .outside (some (c :: token.getD [])) r

def shellWords? (s : String) : Option (List String) :=
  shellWordsFrom .outside none s.toList

end ShapeSearch.Text
