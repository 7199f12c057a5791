import ShapeSearch.Command.Bytes
import ShapeSearch.Text.Letter

/-!
# Backslash sequences in what is printed

The printing commands of the shell and the programs of the same names read backslash sequences, not all in
the same way: `Dialect` says which sequences there are.
-/

namespace ShapeSearch.Command

/-- Which backslash sequences are read. -/
structure Dialect where
  /-- two hexadecimal digits after `x` -/
  hexadecimal : Bool
  /-- characters by number after `u` and `U` -/
  unicode : Bool
  /-- a quote stands for itself -/
  quote : Bool
  /-- nothing is printed after `c` -/
  stop : Bool
  /-- a zero may stand before three octal digits -/
  leadingZero : Bool

namespace Dialect

def shellFormat : Dialect := ⟨false, false, false, false, false⟩

def shellText : Dialect := ⟨false, false, false, true, true⟩

def programFormat : Dialect := ⟨true, true, true, true, false⟩

def programText : Dialect := ⟨true, true, true, true, true⟩

def programEcho : Dialect := ⟨true, false, false, true, true⟩

end Dialect

def letterEscape? : Char → Option Char
  | 'a' => some '\x07'
  | 'b' => some '\x08'
  | 'e' => some '\x1b'
  | 'f' => some '\x0c'
  | 'n' => some '\n'
  | 'r' => some '\r'
  | 't' => some '\t'
  | 'v' => some '\x0b'
  | '\\' => some '\\'
  | _ => none

def isOctal (c : Char) : Bool := '0' ≤ c && c ≤ '7'

/-- At most `n` octal digits, their value, and what follows. -/
def takeOctal : Nat → Bytes → Nat → Nat × Bytes
  | 0, s, v => (v, s)
  | _, [], v => (v, [])
  | n + 1, c :: r, v => if isOctal c then takeOctal n r (8 * v + (c.toNat - 48)) else (v, c :: r)

def takeHex : Nat → Bytes → Nat → Nat × Bytes
  | 0, s, v => (v, s)
  | _, [], v => (v, [])
  | n + 1, c :: r, v =>
    match Text.hexValue? c with
    | some d => takeHex n r (16 * v + d)
    | none => (v, c :: r)

/-- What a backslash sequence prints and what follows it; nothing if it ends everything. -/
def escape? (d : Dialect) : Bytes → Option (Bytes × Bytes)
  | [] => some (['\\'], [])
  | c :: r =>
    if c == 'c' && d.stop then none
    else if c == '"' && d.quote then some (['"'], r)
    else if c == '0' && d.leadingZero then
      let (v, r) := takeOctal 3 r 0
      some ([Bytes.ofNumber v], r)
    else if isOctal c then
      let (v, r) := takeOctal 3 (c :: r) 0
      some ([Bytes.ofNumber v], r)
    else if c == 'x' && d.hexadecimal && (r.head?.bind Text.hexValue?).isSome then
      let (v, r) := takeHex 2 r 0
      some ([Bytes.ofNumber v], r)
    else if c == 'u' && d.unicode && 4 ≤ (r.takeWhile fun x => (Text.hexValue? x).isSome).length then
      let (v, r) := takeHex 4 r 0
      some (Bytes.encode (String.singleton (Char.ofNat v)), r)
    else if c == 'U' && d.unicode && 8 ≤ (r.takeWhile fun x => (Text.hexValue? x).isSome).length then
      let (v, r) := takeHex 8 r 0
      some (Bytes.encode (String.singleton (Char.ofNat v)), r)
    else
      match letterEscape? c with
      | some e => some ([e], r)
      | none => some (['\\', c], r)

/-- A text with its backslash sequences read, last first; `false` says that nothing is printed after it. -/
def unescapeFrom (d : Dialect) : Nat → Bytes → Bytes → Bytes × Bool
  | 0, _, out => (out, true)
  | _, [], out => (out, true)
  | fuel + 1, '\\' :: r, out =>
    match escape? d r with
    | none => (out, false)
    | some (bs, r) => unescapeFrom d fuel r (bs.reverse ++ out)
  | fuel + 1, c :: r, out => unescapeFrom d fuel r (c :: out)

def unescape (d : Dialect) (s : Bytes) : Bytes × Bool :=
  let (out, more) := unescapeFrom d s.length s []
  (out.reverse, more)

end ShapeSearch.Command
