import Mathlib.Data.List.Basic
import ShapeSearch.Pattern.Search

/-!
# Patterns that follow a rule

The matches of many patterns are told by the text that follows alone: a rule says how many characters a match
takes there, none at all if there is no match (`Follows`).  A search then stops at the first place where the rule
takes something (`Follows.next?_eq`), all matches together are a walk from one such place to the next
(`Follows.walk_findAll`), and so replacing (`Walk.replaceFrom_eq`) and splitting (`Walk.piecesBetween_induction`)
are recursions over the text.
-/

namespace ShapeSearch.Pattern

def Cursor.forward (c : Cursor) (n : Nat) : Cursor :=
  ⟨(c.after.take n).reverse ++ c.before, c.after.drop n, c.pos + n⟩

@[simp] theorem Cursor.forward_after (c : Cursor) (n : Nat) : (c.forward n).after = c.after.drop n := rfl

@[simp] theorem Cursor.forward_pos (c : Cursor) (n : Nat) : (c.forward n).pos = c.pos + n := rfl

theorem Cursor.forward_succ (b r : List Char) (x : Char) (pos n : Nat) :
    (⟨b, x :: r, pos⟩ : Cursor).forward (n + 1) = (⟨x :: b, r, pos + 1⟩ : Cursor).forward n := by
  simp [forward, Nat.add_assoc, Nat.add_comm 1]

theorem Cursor.forward_forward (c : Cursor) (m n : Nat) : (c.forward m).forward n = c.forward (m + n) := by
  simp [forward, List.take_add, Nat.add_assoc]

theorem Cursor.next?_forward {c : Cursor} {n : Nat} {x : Char} {r : List Char} (h : c.after.drop n = x :: r) :
    (c.forward n).next? = some (x, c.forward (n + 1)) := by
  simp [next?, forward, h, List.take_add_one, ← List.head?_drop, ← List.tail_drop, Nat.add_assoc]

theorem Cursor.back_forward {c : Cursor} {n : Nat} (h : n < c.after.length) :
    (c.forward (n + 1)).back = c.forward n := by
  rw [forward, back, List.take_add_one, List.getElem?_eq_getElem h]
  simp only [Option.toList_some, List.reverse_append, List.reverse_singleton, List.cons_append]
  rw [← List.drop_eq_getElem_cons h]
  rfl

theorem hasAtLeast_iff {n : Nat} {s : List Char} : hasAtLeast n s = true ↔ n ≤ s.length := by
  induction n generalizing s with
  | zero => simp [hasAtLeast]
  | succ n ih => cases s <;> simp [hasAtLeast, ih]

/-! ## Patterns from their characters -/

section Characters

-- the kernel decodes a literal in quadratic time, but takes it for a list of characters at once
variable {s t u : String} {k l m : List Char} (hs : s = String.ofList k) (ht : t = String.ofList l)
  (hu : u = String.ofList m) (flags : Flags)

include hs

theorem fixed_literal : fixed s flags = fixedFrom s k flags := by
  rw [fixed, hs, String.toList_ofList]

include ht

theorem fixed_append : fixed (s ++ t) flags = fixedFrom (s ++ t) (k ++ l) flags := by
  rw [fixed, hs, ht, String.toList_append, String.toList_ofList, String.toList_ofList]

include hu

theorem fixed_append_append : fixed (s ++ t ++ u) flags = fixedFrom (s ++ t ++ u) (k ++ l ++ m) flags := by
  rw [fixed, hs, ht, hu, String.toList_append, String.toList_append, String.toList_ofList, String.toList_ofList,
    String.toList_ofList]

end Characters

/-! ## Repetitions and choices -/

section Parts

variable {t : CharTest} {lead : Option CharTest} {a rest : Node} {k : Step} {c : Cursor} {r g : Registers}

theorem eat_eq (t : CharTest) (b s : List Char) (pos n : Nat) :
    eat t none b s pos n = (n + (s.takeWhile t.accepts).length,
      (⟨b, s, pos⟩ : Cursor).forward (s.takeWhile t.accepts).length) := by
  induction s generalizing b pos n with
  | nil => rfl
  | cons x r ih =>
    rw [eat]
    by_cases hx : t.accepts x = true
    · simp only [Option.all_none, hx, Bool.and_self, if_true, ih, List.takeWhile_cons, List.length_cons,
        Cursor.forward_succ, Nat.add_assoc, Nat.add_comm 1]
    · simp [hx, Cursor.forward]

theorem run_many_lost (k : Step) (r : Registers) (h : (c.after.takeWhile t.accepts).length = 0) :
    ∃ r', (Node.many .greedy 1 none t none).run false k c r = .lost r' := by
  simp only [Node.run, reduceCtorEq, if_false, eat_eq, h]
  split <;> exact ⟨_, rfl⟩

/-- A repetition takes all that it can, and gives it back as long as what follows fails. -/
theorem run_many (ht : t.isFoldedSet = false) (k : Step) (r : Registers)
    (h : 0 < (c.after.takeWhile t.accepts).length) :
    (Node.many .greedy 1 none t none).run false k c r =
      giveBack false none k ((c.after.takeWhile t.accepts).length - 1)
        (c.forward (c.after.takeWhile t.accepts).length) (r.note c) := by
  have hlong : hasAtLeast 1 c.after = true :=
    hasAtLeast_iff.mpr (Nat.le_trans h (List.takeWhile_sublist _).length_le)
  simp only [Node.run, reduceCtorEq, if_false, eat_eq, hlong, if_true, ht, Bool.false_eq_true, Nat.zero_add]
  rw [if_neg (by omega)]

/-- A repetition fails if what follows it fails wherever it is tried, given what the attempts keep. -/
theorem giveBack_lost {I : Registers → Prop} {n : Nat} (hn : n ≤ c.after.length)
    (h : ∀ j ≤ n, ∀ r, I r → ∃ r', I r' ∧ attempt false none k (c.forward j) r = .lost r') (hr : I r) :
    ∃ r', giveBack false none k n (c.forward n) r = .lost r' := by
  induction n generalizing r with
  | zero =>
    obtain ⟨r', -, hlost⟩ := h 0 (Nat.le_refl 0) r hr
    exact ⟨r', hlost⟩
  | succ n ih =>
    obtain ⟨r', hr', hlost⟩ := h (n + 1) (Nat.le_refl _) r hr
    simp only [giveBack, hlost, Cursor.back_forward hn]
    exact ih (Nat.le_of_succ_le hn) (fun j hj => h j (Nat.le_succ_of_le hj)) hr'

theorem run_alt_found (h : attempt false lead (a.run false k) c r = .found g) :
    (Node.alt lead a rest).run false k c r = .found g := by
  rw [Node.run, h]

theorem run_alt_lost (h : attempt false lead (a.run false k) c r = .lost g) :
    (Node.alt lead a rest).run false k c r = rest.run false k c g := by
  rw [Node.run, h]

end Parts

namespace Compiled

theorem matchAt_of_found {p : Compiled} {c : Cursor} {r : Registers}
    (h : p.node.run false Pattern.stop c ⟨c, []⟩ = .found r) :
    p.matchAt false c = some ⟨c, r, p.groupNames⟩ := by
  simp [matchAt, h]

theorem matchAt_of_lost {p : Compiled} {c : Cursor} {r : Registers}
    (h : p.node.run false Pattern.stop c ⟨c, []⟩ = .lost r) : p.matchAt false c = none := by
  simp [matchAt, h]

/-- Matches take as many characters as a rule says, and there is none where it says zero. -/
structure Follows (p : Compiled) (rule : List Char → Nat) : Prop where
  fits : ∀ s, rule s ≤ s.length
  least : ∀ s, 0 < rule s → p.least ≤ s.length
  none : ∀ c, rule c.after = 0 → p.matchAt false c = none
  found : ∀ c, 0 < rule c.after →
    ∃ m, p.matchAt false c = some m ∧ m.start = c ∧ m.stop = c.forward (rule c.after)

/-- How many characters precede the first place where a rule takes something. -/
def gap (rule : List Char → Nat) : List Char → Nat
  | [] => 0
  | x :: r => if rule (x :: r) = 0 then gap rule r + 1 else 0

variable {s : List Char} {m : Match}

theorem drop_gap {rule : List Char → Nat} (h : rule (s.drop (gap rule s)) = 0) : s.drop (gap rule s) = [] := by
  induction s with
  | nil => rfl
  | cons x r ih =>
    rw [gap] at h ⊢
    split at h
    · next hzero => rw [if_pos hzero]; exact ih h
    · next hpos => exact absurd h hpos

variable {p : Compiled} {rule : List Char → Nat} (h : p.Follows rule)

include h

theorem Follows.searchOn_short (hs : s.length < p.least) (b : List Char) (pos : Nat) :
    p.searchOn b s pos = Option.none := by
  induction s generalizing b pos with
  | nil => rw [searchOn, h.none ⟨b, [], pos⟩ (Nat.le_zero.mp (h.fits []))]; rfl
  | cons x r ih =>
    have hzero : rule (x :: r) = 0 := by
      by_contra hne
      exact absurd (h.least _ (Nat.pos_of_ne_zero hne)) (by omega)
    rw [searchOn, h.none ⟨b, x :: r, pos⟩ hzero]
    exact ih (by simp at hs; omega) _ _

theorem Follows.searchOn_eq (b s : List Char) (pos : Nat) : p.searchOn b s pos = p.next? false ⟨b, s, pos⟩ := by
  by_cases hs : p.least ≤ s.length
  · rw [next?, if_pos (hasAtLeast_iff.mpr hs)]
    cases s with
    | nil => rw [searchOn, Bool.false_and, h.none ⟨b, [], pos⟩ (Nat.le_zero.mp (h.fits []))]; rfl
    | cons x r =>
      rw [searchOn, Bool.false_and]
      cases hm : p.matchAt false ⟨b, x :: r, pos⟩ with
      | none => rfl
      | some m =>
        have hpos : 0 < rule (x :: r) := by
          by_contra hzero
          rw [h.none ⟨b, x :: r, pos⟩ (Nat.eq_zero_of_not_pos hzero)] at hm
          cases hm
        obtain ⟨m', hm', hstart, -⟩ := h.found ⟨b, x :: r, pos⟩ hpos
        cases hm.symm.trans hm'
        have hreach : p.reaches m.start = true := by
          rw [hstart, reaches, hasAtLeast_iff.mpr (Nat.le_trans (Nat.sub_le ..) hs), Bool.or_true]
        simp [hreach]
  · rw [h.searchOn_short (by omega), next?, if_neg (by simpa [hasAtLeast_iff] using hs)]

/-- A search ends at the first place where the rule takes something. -/
theorem Follows.next?_eq (c : Cursor) :
    p.next? false c = p.matchAt false (c.forward (gap rule c.after)) := by
  obtain ⟨b, s, pos⟩ := c
  induction s generalizing b pos with
  | nil =>
    have hnone := h.none ⟨b, [], pos⟩ (Nat.le_zero.mp (h.fits []))
    rw [← h.searchOn_eq, searchOn, hnone]
    exact hnone.symm
  | cons x r ih =>
    rw [gap]
    split
    · next hzero =>
      rw [← h.searchOn_eq, searchOn, h.none ⟨b, x :: r, pos⟩ hzero, Cursor.forward_succ]
      exact (h.searchOn_eq ..).trans (ih ..)
    · next hpos =>
      obtain ⟨m, hm, -, -⟩ := h.found ⟨b, x :: r, pos⟩ (Nat.pos_of_ne_zero hpos)
      rw [next?, if_pos (hasAtLeast_iff.mpr (h.least _ (Nat.pos_of_ne_zero hpos))), Bool.false_and, hm]
      exact hm.symm

/-- Some matches are all that a walk over a text meets. -/
inductive Walk (p : Compiled) (rule : List Char → Nat) : Cursor → List Match → Prop
  | done {c : Cursor} : c.after.drop (gap rule c.after) = [] → Walk p rule c []
  | meet {c : Cursor} {m : Match} {ms : List Match} : 0 < rule (c.after.drop (gap rule c.after)) →
      p.matchAt false (c.forward (gap rule c.after)) = some m → m.start = c.forward (gap rule c.after) →
      m.stop = m.start.forward (rule m.start.after) → Walk p rule m.stop ms → Walk p rule c (m :: ms)

theorem Follows.walk_collect {fuel : Nat} {c : Cursor} (hfuel : c.after.length < fuel) (out : List Match) :
    ∃ ms, p.collect fuel false c out = out.reverse ++ ms ∧ Walk p rule c ms := by
  induction fuel generalizing c out with
  | zero => omega
  | succ fuel ih =>
    rw [collect, h.next?_eq]
    by_cases hzero : rule (c.after.drop (gap rule c.after)) = 0
    · rw [h.none (c.forward _) hzero]
      exact ⟨[], by simp, .done (drop_gap hzero)⟩
    · have hpos := Nat.pos_of_ne_zero hzero
      obtain ⟨m, hm, hstart, hstop⟩ := h.found (c.forward (gap rule c.after)) hpos
      rw [← hstart] at hstop
      have hne : m.isEmpty = false := by
        rw [Match.isEmpty, hstop, hstart]
        simpa using hzero
      have hlt : m.stop.after.length < fuel := by
        have hfits := h.fits (c.after.drop (gap rule c.after))
        rw [List.length_drop] at hfits
        rw [hstop, hstart]
        simp only [Cursor.forward_after, List.length_drop]
        omega
      obtain ⟨ms, hms, hwalk⟩ := ih hlt (m :: out)
      rw [hm]
      exact ⟨m :: ms, by simp [hne, hms], .meet hpos hm hstart hstop hwalk⟩

theorem Follows.walk_findAll (s : List Char) : Walk p rule (.start s) (p.findAll s) := by
  have hfuel : (Cursor.start s).after.length < matchLimit s.length := by simp [Cursor.start, matchLimit]; omega
  obtain ⟨ms, hms, hwalk⟩ := h.walk_collect hfuel []
  rw [findAll, hms]
  exact hwalk

omit h

theorem places {c : Cursor} {k n : Nat} (hstart : m.start = c.forward k) (hstop : m.stop = m.start.forward n) :
    m.startPos - c.pos = k ∧ c.after.drop (k + m.span.length) = m.stop.after := by
  simp [Match.startPos, Match.span, hstop, hstart]

theorem replaceFrom_append (f : Match → List Char) (ms : List Match) (s : List Char) (pos : Nat)
    (out : List Char) : replaceFrom f ms s pos out = out.reverse ++ replaceFrom f ms s pos [] := by
  induction ms generalizing s pos out with
  | nil => simp [replaceFrom]
  | cons m ms ih =>
    rw [replaceFrom, replaceFrom, ih, ih _ _ (_ ++ (_ ++ []))]
    simp

/-- Replacing matches is a recursion that copies what the rule passes over. -/
theorem Walk.replaceFrom_eq {f : Match → List Char} {g : List Char → List Char} (hnil : g [] = [])
    (hpass : ∀ x r, rule (x :: r) = 0 → g (x :: r) = x :: g r)
    (hmeet : ∀ c m, 0 < rule c.after → p.matchAt false c = some m →
      g c.after = f m ++ g (c.after.drop (rule c.after)))
    {c : Cursor} {ms : List Match} (hw : Walk p rule c ms) :
    replaceFrom f ms c.after c.pos [] = g c.after := by
  have hgap : ∀ s, g s = s.take (gap rule s) ++ g (s.drop (gap rule s)) := by
    intro s
    induction s with
    | nil => rfl
    | cons x r ih =>
      rw [gap]
      split
      · next hzero => rw [hpass x r hzero, List.take_succ_cons, List.drop_succ_cons, List.cons_append, ← ih]
      · rfl
  induction hw with
  | @done c hend =>
    have hall := List.take_append_drop (gap rule c.after) c.after
    rw [hend, List.append_nil] at hall
    rw [hgap, hend, hnil, hall, replaceFrom]
    simp
  | @meet c m ms hpos hm hstart hstop _ ih =>
    obtain ⟨hbegin, hrest⟩ := places hstart hstop
    rw [replaceFrom]
    simp only [hbegin, hrest]
    rw [replaceFrom_append, Match.endPos, ih, hgap c.after, ← Cursor.forward_after, hmeet _ _ hpos hm, hstop, hstart]
    simp

/-- Pieces between matches, by recursion: what precedes the first match, and then the pieces of the rest. -/
theorem Walk.piecesBetween_induction {motive : List Char → List (List Char) → Prop}
    (hend : ∀ s : List Char, s.drop (gap rule s) = [] → motive s [s])
    (hmeet : ∀ (s : List Char) (ps : List (List Char)), 0 < rule (s.drop (gap rule s)) →
      motive ((s.drop (gap rule s)).drop (rule (s.drop (gap rule s)))) ps → motive s (s.take (gap rule s) :: ps))
    {c : Cursor} {ms : List Match} (hw : Walk p rule c ms) : motive c.after (piecesBetween ms c.after c.pos) := by
  induction hw with
  | @done c h => exact hend _ h
  | @meet c m ms hpos hm hstart hstop _ ih =>
    obtain ⟨hbegin, hrest⟩ := places hstart hstop
    rw [piecesBetween, hbegin, hrest, Match.endPos]
    refine hmeet _ _ hpos ?_
    rw [hstop, hstart] at ih ⊢
    exact ih

/-! ## Texts that stay as they are -/

/-- From a place on, every match is replaced by itself. -/
inductive Steady (p : Compiled) (f : Match → List Char) : Cursor → Prop
  | done {b : List Char} {pos : Nat} : p.matchAt false ⟨b, [], pos⟩ = none → Steady p f ⟨b, [], pos⟩
  | pass {b r : List Char} {x : Char} {pos : Nat} : p.matchAt false ⟨b, x :: r, pos⟩ = none →
      Steady p f ⟨x :: b, r, pos + 1⟩ → Steady p f ⟨b, x :: r, pos⟩
  | keep {c : Cursor} {m : Match} {n : Nat} : 0 < n → p.matchAt false c = some m → m.start = c →
      m.stop = c.forward n → f m = c.after.take n → Steady p f (c.forward n) → Steady p f c

/-- A match that is found from a place on and replaced by itself, as are those behind it. -/
def Stays (p : Compiled) (f : Match → List Char) (c : Cursor) (m : Match) : Prop :=
  ∃ k n, m.start = c.forward k ∧ m.stop = m.start.forward n ∧ 0 < n ∧
    f m = m.start.after.take n ∧ Steady p f m.stop

variable {f : Match → List Char} {c : Cursor}

theorem Stays.cons {b r : List Char} {x : Char} {pos : Nat} (h : Stays p f ⟨x :: b, r, pos + 1⟩ m) :
    Stays p f ⟨b, x :: r, pos⟩ m := by
  obtain ⟨k, n, hstart, hrest⟩ := h
  exact ⟨k + 1, n, hstart.trans (Cursor.forward_succ ..).symm, hrest⟩

theorem stays_of_keep {n : Nat} (hn : 0 < n) (hstart : m.start = c) (hstop : m.stop = c.forward n)
    (hf : f m = c.after.take n) (h : Steady p f (c.forward n)) : Stays p f c m :=
  ⟨0, n, by simp [hstart, Cursor.forward], by rw [hstart, hstop], hn, by rw [hstart, hf], hstop ▸ h⟩

theorem Steady.searchOn (h : Steady p f c) :
    ∀ m ∈ p.searchOn c.before c.after c.pos, Stays p f c m := by
  induction h with
  | done hnone => simp [Compiled.searchOn, hnone]
  | pass hnone _ ih =>
    intro m hm
    rw [Compiled.searchOn, hnone] at hm
    exact (ih m hm).cons
  | @keep c m n hn hm hstart hstop hf hrest _ =>
    intro m' hm'
    obtain rfl : m = m' := by
      obtain ⟨b, s, pos⟩ := c
      cases s <;> simp_all [Compiled.searchOn, Option.filter]
    exact stays_of_keep hn hstart hstop hf hrest

theorem Steady.next? (h : Steady p f c) : ∀ m ∈ p.next? false c, Stays p f c m := by
  intro m hm
  rw [Compiled.next?, Bool.false_and] at hm
  split at hm
  · cases h with
    | done hnone => simp [hnone, Cursor.next?] at hm
    | pass hnone hrest =>
      rw [hnone] at hm
      exact (hrest.searchOn m hm).cons
    | keep hn hfound hstart hstop hf hrest =>
      rw [hfound] at hm
      cases hm
      exact stays_of_keep hn hstart hstop hf hrest
  · cases hm

theorem Steady.collect (h : Steady p f c) (fuel : Nat) (out : List Match) :
    ∃ ms, p.collect fuel false c out = out.reverse ++ ms ∧ replaceFrom f ms c.after c.pos [] = c.after := by
  induction fuel generalizing c out with
  | zero => exact ⟨[], by simp [Compiled.collect], rfl⟩
  | succ fuel ih =>
    rw [Compiled.collect]
    cases hm : p.next? false c with
    | none => exact ⟨[], by simp, rfl⟩
    | some m =>
      obtain ⟨k, n, hstart, hstop, hn, hf, hrest⟩ := h.next? m hm
      have hne : m.isEmpty = false := by
        rw [Match.isEmpty, hstop]
        simp
        omega
      obtain ⟨ms, hms, hsame⟩ := ih hrest (m :: out)
      obtain ⟨hbegin, hafter⟩ := places hstart hstop
      refine ⟨m :: ms, by simp [hne, hms], ?_⟩
      rw [replaceFrom]
      simp only [hbegin, hafter]
      rw [replaceFrom_append, Match.endPos, hsame, hf, hstop, hstart]
      simp [-List.drop_drop]

theorem Steady.replaceAll (h : Steady p f (.start s)) : p.replaceAll f s = s := by
  obtain ⟨ms, hms, hsame⟩ := h.collect (matchLimit s.length) []
  rw [Compiled.replaceAll, findAll, hms]
  exact hsame

end Compiled

end ShapeSearch.Pattern
