import ShapeSearch.Text.Blank

/-!
# Paths as texts

Names and extensions are cut from the last component of a path.  `join` puts a path under another unless
it is absolute; `clean` drops empty and single-dot components, as does every path that is resolved.
-/

namespace ShapeSearch.Path

def baseChars (s : List Char) : List Char :=
  (s.reverse.takeWhile (· ≠ '/')).reverse

def headChars (s : List Char) : List Char :=
  (s.reverse.dropWhile (· ≠ '/')).reverse

def baseName (s : String) : String :=
  String.ofList (baseChars s.toList)

/-- A path without its last component: what precedes the last slash, or the top. -/
def headText (s : String) : String :=
  match (headChars s.toList).dropLast with
  | [] => "/"
  | cs => String.ofList cs

/-- A name split before its last dot, unless only dots precede it. -/
def splitName (name : List Char) : List Char × List Char :=
  let ext := (name.reverse.takeWhile (· ≠ '.')).reverse
  match name.reverse.dropWhile (· ≠ '.') with
  | [] => (name, [])
  | _ :: before =>
    if before.all (· == '.') then (name, []) else (before.reverse, '.' :: ext)

/-- A path split into what precedes its extension, and the extension with its dot. -/
def splitExtension (s : String) : String × String :=
  let cs := s.toList
  let (stem, ext) := splitName (baseChars cs)
  (String.ofList (headChars cs ++ stem), String.ofList ext)

def extension (s : String) : String := (splitExtension s).2

def stem (s : String) : String := (splitExtension s).1

def isAbsolute (s : String) : Bool := s.toList.head? == some '/'

/-- A path under another, or the path itself if it is absolute. -/
def join (a b : String) : String :=
  if isAbsolute b then b
  else if a = "" || a.toList.getLast? == some '/' then a ++ b
  else a ++ "/" ++ b

/-- The components of a path that are neither empty nor a single dot. -/
def components (s : String) : List String :=
  ((Text.splitOnChar '/' s.toList).filter fun p => !p.isEmpty && p != ['.']).map String.ofList

/-- What an absolute path starts with: one slash, or two if there are exactly two. -/
def anchor (s : String) : String :=
  match s.toList with
  | '/' :: '/' :: '/' :: _ => "/"
  | '/' :: '/' :: _ => "//"
  | '/' :: _ => "/"
  | _ => ""

/-- A path without empty and single-dot components; nothing left is a dot. -/
def clean (s : String) : String :=
  let t := anchor s ++ "/".intercalate (components s)
  if t = "" then "." else t

end ShapeSearch.Path
