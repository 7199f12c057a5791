import ShapeSearch.Outline.Script
import ShapeSearch.Proofs.Outline.Braces
import ShapeSearch.Proofs.Pattern.Places
import ShapeSearch.Proofs.Pattern.Scan

/-!
# The brace that closes a block

`Closes text i j` says by counting that the brace at `j` ends the block that is opened at `i`.  `matchingBrace` finds
the first such place, and where an outline asks for it, there is a brace (`matchingBrace_closes`).
-/

namespace ShapeSearch.Outline

open Pattern

/-- A closing brace outside quotes up to which, with `d` that are open before, as many blocks are closed as opened. -/
def ClosesAt (d : Nat) (l : List Mark) (k : Nat) : Prop :=
  l[k]? = some ('}', true) ∧ d + (l.take (k + 1)).count ('{', true) = (l.take (k + 1)).count ('}', true)

/-- From `i` to the closing brace at `j`, as many blocks are closed as opened. -/
def Closes (text : List Char) (i j : Nat) : Prop :=
  i < j ∧ ClosesAt 0 (marked none (text.drop i)) (j - i)

theorem closesAt_zero {d : Nat} {m : Mark} {r : List Mark} :
    ClosesAt d (m :: r) 0 ↔ m = ('}', true) ∧ d = 1 := by
  unfold ClosesAt
  constructor
  · rintro ⟨hm, hcount⟩
    cases hm
    simpa using hcount
  · rintro ⟨rfl, rfl⟩
    simp

theorem closesAt_succ {d : Nat} {m : Mark} (h : m = ('}', true) → d ≠ 0) (r : List Mark) (k : Nat) :
    ClosesAt d (m :: r) (k + 1) ↔ ClosesAt (deepen d m) r k := by
  unfold ClosesAt
  rw [List.getElem?_cons_succ, List.take_succ_cons, List.count_cons, List.count_cons]
  refine and_congr_right fun _ => ?_
  by_cases hopen : m = ('{', true)
  · simp [hopen]
    omega
  · by_cases hclose : m = ('}', true)
    · have := h hclose
      simp [hclose]
      omega
    · simp [deepen, hopen, hclose]

/-- The place that is found is the first that closes, or the end if there is none. -/
theorem closing_spec {d : Nat} (hd : d ≠ 0) (l : List Mark) :
    (∀ k < closing d l, ¬ ClosesAt d l k) ∧ (closing d l = l.length ∨ ClosesAt d l (closing d l)) := by
  induction l generalizing d with
  | nil => simp [closing]
  | cons m r ih =>
    rw [closing]
    split
    · next hlast => exact ⟨by simp, .inr (closesAt_zero.mpr hlast)⟩
    · next hlast =>
      have hdeep : deepen d m ≠ 0 := by
        unfold deepen
        split
        · omega
        · split
          · next hm =>
            have : d ≠ 1 := fun hone => hlast ⟨hm, hone⟩
            omega
          · exact hd
      obtain ⟨hbefore, hat⟩ := ih hdeep
      refine ⟨fun k hk => ?_, ?_⟩
      · cases k with
        | zero => rwa [closesAt_zero]
        | succ k =>
          rw [closesAt_succ fun _ => hd]
          exact hbefore k (by omega)
      · rw [List.length_cons, closesAt_succ fun _ => hd]
        exact hat.imp_left (congrArg (· + 1))

variable {text source : List Char} {i : Nat}

theorem closes_iff (hopen : text[i]? = some '{') (k : Nat) :
    Closes text i (i + 1 + k) ↔ ClosesAt 1 (marked none (text.drop (i + 1))) k := by
  have hmarked : marked none (text.drop i) = ('{', true) :: marked none (text.drop (i + 1)) := by
    rw [drop_of_open hopen]
    rfl
  rw [Closes, hmarked, show i + 1 + k - i = k + 1 by omega, closesAt_succ (by simp), deepen_open]
  exact and_iff_right (by omega)

/-- What is found is the least place that closes the block, or the end of the text if there is none. -/
theorem matchingBrace_least (hopen : text[i]? = some '{') :
    (∀ j < matchingBrace text i, ¬ Closes text i j) ∧ (Closes text i (matchingBrace text i) ∨
      matchingBrace text i = text.length ∧ ∀ j, ¬ Closes text i j) := by
  obtain ⟨hbefore, hat⟩ := closing_spec Nat.one_ne_zero (marked none (text.drop (i + 1)))
  obtain ⟨hi, -⟩ := List.getElem?_eq_some_iff.mp hopen
  have hfirst : ∀ j < matchingBrace text i, ¬ Closes text i j := by
    intro j hj hcloses
    obtain ⟨k, rfl⟩ : ∃ k, j = i + 1 + k := ⟨j - (i + 1), by have := hcloses.1; omega⟩
    rw [matchingBrace_eq hopen] at hj
    exact hbefore k (by omega) ((closes_iff hopen k).mp hcloses)
  refine ⟨hfirst, ?_⟩
  rcases hat with hend | hat
  · have hlength : matchingBrace text i = text.length := by
      rw [matchingBrace_eq hopen, hend, length_marked, List.length_drop]
      omega
    refine .inr ⟨hlength, fun j hcloses => ?_⟩
    rcases Nat.lt_or_ge j text.length with hj | hj
    · exact hfirst j (hlength ▸ hj) hcloses
    · have hnone : (marked none (text.drop i))[j - i]? = none := by
        rw [List.getElem?_eq_none_iff, length_marked, List.length_drop]
        omega
      cases hnone.symm.trans hcloses.2.1
  · rw [matchingBrace_eq hopen]
    exact .inl ((closes_iff hopen _).mpr hat)

/-! ## Where outlines look for it -/

theorem bracedBody_drop (hopen : source[i]? = some '{') : bracedBody (source.drop i) = blockBody source i := by
  have hhead : (source.drop i)[0]? = some '{' := by rwa [List.getElem?_drop]
  rw [blockBody_eq hopen, ← List.drop_drop, ← blockBody_eq hhead]
  rfl

/-- A block is opened at a place of a text, and a text that starts there has its body. -/
def OpensAt (source : List Char) (i : Nat) (opened : List Char) : Prop :=
  source[i]? = some '{' ∧ bracedBody opened = blockBody source i

variable {m : Match}

theorem opensAt_fromLast (hm : m.Within source) (hpos : m.startPos < m.endPos)
    (hopen : source[m.endPos - 1]? = some '{') : OpensAt source (m.endPos - 1) m.fromLast := by
  have hplace : m.startPos + (m.endPos - m.startPos - 1) = m.endPos - 1 := by omega
  have hlast : m.fromLast = source.drop (m.endPos - 1) := by
    rw [Match.fromLast, hm.start.after_eq, List.drop_drop, ← hplace]
    rfl
  exact ⟨hopen, hlast ▸ bracedBody_drop hopen⟩

theorem node_class : classPattern.node.isPlain = true ∧
    classPattern.node.last = .unit ⟨.one, false, .exact, true, [.single 123]⟩ := by
  have hread : classPattern = fixedFrom _ _ {} := fixed_append_append rfl rfl rfl {}
  rw [hread]
  decide +kernel

theorem node_moduleExports : moduleExportsPattern.node.isPlain = true ∧
    moduleExportsPattern.node.last.isGroup 1 = true ∧ moduleExportsPattern.groupNames.lookup "value" = some 1 := by
  have hread : moduleExportsPattern = fixedFrom _ _ {} := fixed_literal rfl {}
  rw [hread]
  decide +kernel

theorem node_variable : variablePattern.node.isPlain = true ∧ variablePattern.node.last.isGroup 3 = true := by
  have hread : variablePattern = fixedFrom _ _ {} := fixed_append rfl rfl {}
  rw [hread]
  decide +kernel

theorem opensAt_class (hm : m ∈ classPattern.findAll source) : OpensAt source (m.endPos - 1) m.fromLast := by
  obtain ⟨hplain, hlast⟩ := node_class
  obtain ⟨hwithin, hpos, x, hx, hopen⟩ := Compiled.mem_findAll_unit hplain hlast hm
  have hcode : x.toNat = 123 := by simpa [CharTest.accepts, Fold.apply, Member.covers] using hx
  obtain rfl : x = '{' := Char.toNat_inj.mp hcode
  exact opensAt_fromLast hwithin hpos hopen

theorem opensAt_exports (hm : m ∈ moduleExportsPattern.findAll source) (hvalue : m.named? "value" = some "\x7b") :
    OpensAt source (m.endPos - 1) m.fromLast := by
  obtain ⟨hplain, hgroup, hname⟩ := node_moduleExports
  obtain ⟨hwithin, hnames, hend⟩ := Compiled.mem_findAll_group hplain hgroup hm
  obtain ⟨piece, hpiece, htext⟩ := Option.map_eq_some_iff.mp hvalue
  have hspan : m.registers.group? 1 = some piece := by
    rw [Match.namedSpan?, hnames, hname] at hpiece
    exact hpiece
  obtain ⟨hstart, e, he, hlength⟩ := Registers.group?_eq_some hspan
  cases he.symm.trans hend
  have hstart := hwithin.registers.marks _ hstart
  have hchars : piece.start.after.take piece.length = ['{'] := by
    simpa [Span.text, Span.chars] using congrArg String.toList htext
  rw [hstart.after_eq] at hchars
  have hone : piece.length = 1 := by
    have hcount := congrArg List.length hchars
    have hle := hwithin.registers.place.pos_le
    rw [List.length_take, List.length_drop, List.length_singleton] at hcount
    change piece.start.pos + piece.length = m.registers.place.pos at hlength
    omega
  rw [hone] at hchars hlength
  have hplace : m.endPos - 1 = piece.start.pos := Nat.sub_eq_of_eq_add hlength.symm
  have hopen : source[m.endPos - 1]? = some '{' := by
    rw [hplace, ← List.head?_drop]
    simpa [List.head?_take] using congrArg List.head? hchars
  refine opensAt_fromLast hwithin ?_ hopen
  exact Nat.lt_of_le_of_lt hstart.le (Nat.le_of_eq hlength)

theorem mem_of_head?_trimChars {x : Char} {s : List Char} (h : (Text.trimChars s).head? = some x) : x ∈ s := by
  have hmem := List.mem_of_mem_head? h
  rw [Text.trimChars, List.mem_reverse] at hmem
  exact (List.dropWhile_sublist _).subset (List.mem_reverse.mp ((List.dropWhile_sublist _).subset hmem))

theorem opensAt_value (hm : m ∈ variablePattern.findAll source) {value : Span}
    (hvalue : m.namedSpan? "value" = some value) (hbrace : (Text.trimChars value.chars).head? = some '{') :
    value.start.after = source.drop value.start.pos ∧ OpensAt source
      (value.start.pos + value.start.after.idxOf '{') (value.start.after.dropWhile (· ≠ '{')) := by
  obtain ⟨hplain, hgroup⟩ := node_variable
  obtain ⟨hwithin, -, -⟩ := Compiled.mem_findAll_group hplain hgroup hm
  obtain ⟨n, -, hspan⟩ := Option.bind_eq_some_iff.mp hvalue
  have hafter := (hwithin.registers.marks _ (Registers.group?_eq_some hspan).1).after_eq
  have hmem : '{' ∈ value.start.after := List.mem_of_mem_take (mem_of_head?_trimChars hbrace)
  have hopen : source[value.start.pos + value.start.after.idxOf '{']? = some '{' := by
    rw [← List.getElem?_drop, ← hafter]
    exact List.getElem?_idxOf hmem
  have hdrop : value.start.after.dropWhile (· ≠ '{') = value.start.after.drop (value.start.after.idxOf '{') := by
    rw [List.dropWhile_eq_drop_findIdx_not, List.idxOf]
    have htest : (fun x : Char => !decide (x ≠ '{')) = (· == '{') := by
      funext x
      simp [beq_eq_decide]
    rw [htest]
  refine ⟨hafter, hopen, ?_⟩
  rw [hdrop, ← bracedBody_drop hopen, ← List.drop_drop, ← hafter]

/-- The brace that is found for an open one is the first outside quotes up to which as many blocks are closed as
opened, or the end if there is none, and every place that an outline looks from has an open brace. -/
theorem matchingBrace_closes (text : List Char) (i : Nat) (hopen : text[i]? = some '{') (source : List Char) :
    ((∀ j < matchingBrace text i, ¬ Closes text i j) ∧ (Closes text i (matchingBrace text i) ∨
      matchingBrace text i = text.length ∧ ∀ j, ¬ Closes text i j)) ∧
    (∀ m ∈ classPattern.findAll source, OpensAt source (m.endPos - 1) m.fromLast) ∧
    (∀ m ∈ moduleExportsPattern.findAll source, m.named? "value" = some "\x7b" →
      OpensAt source (m.endPos - 1) m.fromLast) ∧
    ∀ m ∈ variablePattern.findAll source, ∀ value, m.namedSpan? "value" = some value →
      (Text.trimChars value.chars).head? = some '{' → value.start.after = source.drop value.start.pos ∧
        OpensAt source (value.start.pos + value.start.after.idxOf '{') (value.start.after.dropWhile (· ≠ '{')) :=
  ⟨matchingBrace_least hopen, fun _ => opensAt_class, fun _ => opensAt_exports, fun _ hm _ => opensAt_value hm⟩

/-- A closing brace behind a hidden quote, and a block that does not end. -/
def hiddenBrace : List Char := "class A\x7bs='\\'\x7d'\x7d\nmodule.exports=\x7b".toList

theorem matchingBrace_closes_hidden : matchingBrace hiddenBrace 7 = 15 ∧ Closes hiddenBrace 7 15 ∧
    (classPattern.findAll hiddenBrace).map Match.endPos = [8] ∧
    (∀ m ∈ classPattern.findAll hiddenBrace, OpensAt hiddenBrace (m.endPos - 1) m.fromLast) ∧
    ∃ m ∈ moduleExportsPattern.findAll hiddenBrace, OpensAt hiddenBrace (m.endPos - 1) m.fromLast := by
  have hplace : matchingBrace hiddenBrace 7 = 15 := by decide +kernel
  have hends : (classPattern.findAll hiddenBrace).map Match.endPos = [8] := by
    have hread : classPattern = fixedFrom _ _ {} := fixed_append_append rfl rfl rfl {}
    rw [hread]
    decide +kernel
  have hvalue : (moduleExportsPattern.findAll hiddenBrace).map (·.named? "value") = [some "\x7b"] := by decide +kernel
  obtain ⟨⟨-, hcloses⟩, hclass, hexports, -⟩ := matchingBrace_closes hiddenBrace 7
    (by decide +kernel) hiddenBrace
  obtain ⟨m, hm, hname⟩ := List.mem_map.mp (hvalue ▸ List.mem_singleton_self (some "\x7b"))
  refine ⟨hplace, ?_, hends, hclass, m, hm, hexports m hm hname⟩
  rcases hcloses with hcloses | ⟨hend, -⟩
  · exact hplace ▸ hcloses
  · exact absurd (hplace.symm.trans hend) (by decide +kernel)

end ShapeSearch.Outline
