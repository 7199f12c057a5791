import Mathlib.Data.List.Basic
import ShapeSearch.Outline.Braces

/-!
# Two readings of a block

`matchingBrace` knows quoted text and `topLevel` does not.  `marked` says of each character of a text whether it
stands outside quotes, and what follows the closing brace and what stays at the top level can both be said by that:
`closing` is the place of the brace that closes a block, and `surface` keeps what lies outside inner blocks, which
become empty ones.  The body of a block that ends is `Closed`, and there `topLevel` is `surface`, as long as the
braces in quotes do not hide where inner blocks start and end (`InStep`):

    InStep (marked none body) → topLevel body = surface 0 (marked none body)              (topLevel_eq_surface)
-/

namespace ShapeSearch.Outline

/-- A character, and whether it stands outside quotes. -/
abbrev Mark := Char × Bool

/-- The characters of a text with their marks; `quote` is the quote that is open.  In quotes a backslash hides the
character behind it. -/
def marked : Option Char → List Char → List Mark
  | _, [] => []
  | none, c :: r => if isQuote c then (c, false) :: marked (some c) r else (c, true) :: marked none r
  | some q, c :: r =>
    if c == '\\' then
      match r with
      | [] => [(c, false)]
      | d :: r' => (c, false) :: (d, false) :: marked (some q) r'
    else (c, false) :: marked (if c == q then none else some q) r

theorem map_marked (q : Option Char) (s : List Char) : (marked q s).map Prod.fst = s := by
  fun_induction marked q s <;> simp_all

theorem length_marked (q : Option Char) (s : List Char) : (marked q s).length = s.length := by
  rw [← List.length_map Prod.fst, map_marked]

theorem marked_quoted {q c : Char} (h : ¬ (c == '\\') = true) (r : List Char) :
    marked (some q) (c :: r) = (c, false) :: marked (if c == q then none else some q) r := by
  rw [marked.eq_def]
  simp only [if_neg h]

theorem marked_take (q : Option Char) (s : List Char) (k : Nat) : marked q (s.take k) = (marked q s).take k := by
  fun_induction marked q s generalizing k with
  | case1 => simp [marked]
  | case2 c r h ih => cases k <;> simp [marked, h, ih]
  | case3 c r h ih => cases k <;> simp [marked, h, ih]
  | case4 q c h => cases k <;> simp [marked, h]
  | case5 q c h d r ih =>
    rcases k with _ | _ | k
    · simp [marked]
    · simp [marked, h]
    · simp [marked, h, ih]
  | case6 q c r h ih =>
    cases k with
    | zero => simp [marked]
    | succ k => rw [List.take_succ_cons, marked_quoted h, ih, List.take_succ_cons]

/-- The depth behind a character. -/
def deepen (d : Nat) (m : Mark) : Nat :=
  if m = ('{', true) then d + 1 else if m = ('}', true) then d - 1 else d

@[simp] theorem deepen_open (d : Nat) : deepen d ('{', true) = d + 1 := by
  simp [deepen]

@[simp] theorem deepen_close (d : Nat) : deepen d ('}', true) = d - 1 := by
  simp [deepen]

@[simp] theorem deepen_quoted (d : Nat) (c : Char) : deepen d (c, false) = d := by
  simp [deepen]

theorem deepen_other {c : Char} (hopen : c ≠ '{') (hclose : c ≠ '}') (d : Nat) (b : Bool) :
    deepen d (c, b) = d := by
  simp [deepen, hopen, hclose]

/-- The place of the brace that closes the outermost of `d` blocks, or the end. -/
def closing : Nat → List Mark → Nat
  | _, [] => 0
  | d, m :: r => if m = ('}', true) ∧ d = 1 then 0 else closing (deepen d m) r + 1

theorem closing_quoted (d : Nat) (c : Char) (r : List Mark) : closing d ((c, false) :: r) = closing d r + 1 := by
  simp [closing, deepen_quoted]

theorem closeFrom_eq (pos : Nat) {d : Nat} (hd : d ≠ 0) (q : Option Char) (s : List Char) :
    closeFrom pos d q s = pos + closing d (marked q s) := by
  fun_induction marked q s generalizing pos d with
  | case1 => simp [closeFrom, closing]
  | case2 c r h ih =>
    rw [closeFrom, if_pos h, ih _ hd, closing_quoted]
    omega
  | case3 c r h ih =>
    rw [closeFrom, if_neg h, closing, deepen]
    by_cases hopen : c = '{'
    · subst hopen
      have := ih (pos + 1) (d := d + 1) (by omega)
      push_cast at this
      simp [this]
      omega
    · by_cases hclose : c = '}'
      · subst hclose
        by_cases hone : d = 1
        · simp [hone]
        · have hdepth : (d : Int) - 1 = (d - 1 : Nat) := by omega
          have hpos : d - 1 ≠ 0 := by omega
          simp [hone, hdepth, hpos, ih (pos + 1) (d := d - 1) (by omega)]
          omega
      · simp [hopen, hclose, ih (pos + 1) hd]
        omega
  | case4 q c h => simp [closeFrom, h, closing]
  | case5 q c h d' r ih =>
    rw [closeFrom, if_pos h, ih _ hd, closing_quoted, closing_quoted]
    omega
  | case6 q c r h ih =>
    rw [closeFrom.eq_def]
    simp only [if_neg h]
    rw [ih _ hd, closing_quoted]
    omega

/-- A piece that closes every block it opens, those `d` that are open before it, and no other. -/
def Closed : Nat → List Mark → Prop
  | d, [] => d = 0
  | d, m :: r => (m = ('}', true) → d ≠ 0) ∧ Closed (deepen d m) r

theorem closed_take_closing (d : Nat) (l : List Mark) (h : closing (d + 1) l < l.length) :
    Closed d (l.take (closing (d + 1) l)) := by
  induction l generalizing d with
  | nil => simp at h
  | cons m r ih =>
    rw [closing] at h ⊢
    split at h
    · next hlast =>
      rw [if_pos hlast]
      exact Nat.succ.inj hlast.2
    · next hlast =>
      have hdeepen : deepen (d + 1) m = deepen d m + 1 := by
        unfold deepen
        split
        · rfl
        · split
          · next hm =>
            have hd : d ≠ 0 := fun hd => hlast ⟨hm, by omega⟩
            omega
          · rfl
      rw [hdeepen, List.length_cons] at h
      rw [if_neg hlast, hdeepen, List.take_succ_cons]
      exact ⟨fun hm hd => hlast ⟨hm, by omega⟩, ih _ (by omega)⟩

/-- What lies outside inner blocks, which become empty ones; `d` blocks are open. -/
def surface : Nat → List Mark → List Char
  | _, [] => []
  | d, m :: r =>
    (if d ≠ 0 then [] else if m = ('{', true) then ['{', '}'] else [m.1]) ++ surface (deepen d m) r

/-- Counting all braces, one is inside a block exactly where one is without those in quotes; `d` and `e` blocks are
open. -/
def InStep (d e : Nat) (l : List Mark) : Prop :=
  ∀ k ≤ l.length, (l.take k).foldl deepen d = 0 ↔ ((l.take k).map fun m => (m.1, true)).foldl deepen e = 0

theorem InStep.tail {d e : Nat} {m : Mark} {r : List Mark} (h : InStep d e (m :: r)) :
    InStep (deepen d m) (deepen e (m.1, true)) r :=
  fun k hk => h (k + 1) (by simpa using hk)

/-- A block that is open is closed later, and its closing brace is kept then and not before. -/
theorem topLevelFrom_eq {d e : Nat} {l : List Mark} (hclosed : Closed d l) (hstep : InStep d e l) (out : List Char) :
    topLevelFrom e (l.map Prod.fst) out = out.reverse ++ (if d = 0 then [] else ['}']) ++ surface d l := by
  have hzero : d = 0 ↔ e = 0 := hstep 0 (by simp)
  induction l generalizing d e out with
  | nil =>
    cases hclosed
    simp [topLevelFrom, surface]
  | cons m r ih =>
    obtain ⟨hclose, hclosed⟩ := hclosed
    have hnext : deepen d m = 0 ↔ deepen e (m.1, true) = 0 := hstep.tail 0 (by simp)
    have ih := fun out => ih hclosed hstep.tail out hnext
    obtain ⟨c, outside⟩ := m
    rw [List.map_cons, topLevelFrom, surface]
    by_cases hopen : c = '{'
    · subst hopen
      -- a quoted one is inside a block, since all braces count for the other depth
      have hinner : outside = false → d ≠ 0 := by
        rintro rfl
        simpa using hnext
      rw [deepen_open] at ih
      by_cases hd : d = 0 <;> cases outside <;> simp_all
    · by_cases hclosing : c = '}'
      · subst hclosing
        rw [deepen_close] at ih hnext
        by_cases hd : d = 0 <;> cases outside <;> simp_all
        split <;> simp
      · rw [deepen_other hopen hclosing] at ih
        by_cases hd : d = 0 <;> simp_all [deepen_other hopen hclosing]

/-- What stands between the brace at a place and the one that closes it. -/
def blockBody (text : List Char) (i : Nat) : List Char :=
  (text.take (matchingBrace text i)).drop (i + 1)

variable {text : List Char} {i : Nat}

theorem drop_of_open (hopen : text[i]? = some '{') :
    text.drop i = '{' :: text.drop (i + 1) := by
  obtain ⟨hi, hc⟩ := List.getElem?_eq_some_iff.mp hopen
  rw [List.drop_eq_getElem_cons hi, hc]

theorem matchingBrace_eq (hopen : text[i]? = some '{') :
    matchingBrace text i = i + 1 + closing 1 (marked none (text.drop (i + 1))) := by
  rw [matchingBrace, drop_of_open hopen, ← closeFrom_eq (i + 1) Nat.one_ne_zero]
  rfl

theorem blockBody_eq (hopen : text[i]? = some '{') :
    blockBody text i = (text.drop (i + 1)).take (closing 1 (marked none (text.drop (i + 1)))) := by
  rw [blockBody, matchingBrace_eq hopen, List.drop_take]
  congr 1
  omega

theorem marked_blockBody (hopen : text[i]? = some '{') (hends : matchingBrace text i < text.length) :
    Closed 0 (marked none (blockBody text i)) := by
  rw [matchingBrace_eq hopen] at hends
  rw [blockBody_eq hopen, marked_take]
  refine closed_take_closing 0 _ (?_ : closing 1 _ < _)
  rw [length_marked, List.length_drop]
  omega

/-- Of a block that ends, the two readings keep the same, as long as braces in quotes do not hide where inner blocks
start and end. -/
theorem topLevel_eq_surface {text : List Char} {i : Nat} (hopen : text[i]? = some '{')
    (hends : matchingBrace text i < text.length) (hstep : InStep 0 0 (marked none (blockBody text i))) :
    topLevel (blockBody text i) = surface 0 (marked none (blockBody text i)) := by
  have h := topLevelFrom_eq (marked_blockBody hopen hends) hstep []
  rwa [map_marked] at h

/-- A block with a hidden quote, and with braces in the quotes of an inner block. -/
def quotedBlock : List Char := "\x7bs='\\'';f()\x7b\x60$\x7bx\x7d\x60\x7d\x7d".toList

theorem topLevel_quotedBlock : quotedBlock[0]? = some '{' ∧ matchingBrace quotedBlock 0 < quotedBlock.length ∧
    InStep 0 0 (marked none (blockBody quotedBlock 0)) ∧
    topLevel (blockBody quotedBlock 0) = "s='\\'';f()\x7b\x7d".toList := by
  have hopen : quotedBlock[0]? = some '{' := by decide +kernel
  have hends : matchingBrace quotedBlock 0 < quotedBlock.length := by decide +kernel
  have hstep : InStep 0 0 (marked none (blockBody quotedBlock 0)) := by
    unfold InStep
    decide +kernel
  exact ⟨hopen, hends, hstep, (topLevel_eq_surface hopen hends hstep).trans (by decide +kernel)⟩

/-- A block with a brace in quotes, before another member. -/
def hidingBlock : List Char := "\x7ba='\x7b';f()\x7b\x7d\x7d".toList

/-- What follows the quoted brace is lost. -/
theorem topLevel_hidingBlock : hidingBlock[0]? = some '{' ∧ matchingBrace hidingBlock 0 < hidingBlock.length ∧
    topLevel (blockBody hidingBlock 0) = "a='\x7b".toList ∧
    surface 0 (marked none (blockBody hidingBlock 0)) = "a='\x7b';f()\x7b\x7d".toList := by
  decide +kernel

end ShapeSearch.Outline
