/-!
# Packed tables

Large tables are written as texts: entries are separated by semicolons, or numbers are written with 89 digits.
-/

namespace ShapeSearch.Text.Packed

/-- The entries of a table; `entry` holds the one being read, last character first. -/
def entriesFrom (entry : List Char) : List Char → List (List Char)
  | [] => if entry.isEmpty then [] else [entry.reverse]
  | c :: r => if c == ';' then entry.reverse :: entriesFrom [] r else entriesFrom (c :: entry) r

def entries (table : List Char) : List (List Char) :=
  entriesFrom [] table

def digitValue (c : Char) : Nat :=
  if c.isDigit then c.toNat - 48 else if 'A' ≤ c && c ≤ 'F' then c.toNat - 55 else 0

def number (ds : List Char) : Nat :=
  ds.foldl (fun n c => n * 16 + digitValue c) 0

/-- Code points that are passed over in the row of 89 digits. -/
def noDigits : List Nat := [34, 45, 92, 123, 125]

def digit89 (c : Char) : Nat :=
  c.toNat - 33 - (noDigits.filter (· < c.toNat)).length

/-- The numbers in a table; blanks and line ends in it do not count.  A number ends with a digit below 72, and those
before it are numerals of their own. -/
def numbers (table : String) : Array Nat :=
  ((table.toList.filter fun c => c != ' ' && c != '\n').foldl
    (fun (high, ns) c =>
      let d := digit89 c
      if d < 72 then (0, ns.push (high * 72 + d)) else (high * 13 + (d - 72), ns)) (0, #[])).2

/-- The running sums of the numbers in a table. -/
def sums (table : String) : Array Nat :=
  ((numbers table).foldl (fun (acc : Nat × Array Nat) n => (acc.1 + n, acc.2.push (acc.1 + n))) (0, #[])).2

def splitAt (mark : Char) (s : List Char) : List Char × List Char :=
  (s.takeWhile (· != mark), (s.dropWhile (· != mark)).drop 1)

end ShapeSearch.Text.Packed
