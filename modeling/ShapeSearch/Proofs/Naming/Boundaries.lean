import Mathlib.Data.List.TakeWhile
import ShapeSearch.Naming
import ShapeSearch.Proofs.Pattern.Scan

/-!
# Where names are cut

A name has a boundary after a small letter or digit before a capital, and between two capitals before a small
letter (`isBoundary`).  One pass puts blanks to boundaries from the left, and the characters that a match takes
are not looked at again: a boundary is cut only if it is still free (`cutFree`).  What is left between other
characters are the words.

    caseBoundary.replaceAll spaced s = cutFree 0 s                (replaceAll_caseBoundary)
    tokenize name = lowerWords (cutFree 0 name.toList)            (tokenize_eq)
-/

namespace ShapeSearch.Naming

open Pattern

variable {b u l x : Char} {us : List Char}

/-- Whether a name is cut between two characters, given what follows them: after a small letter or digit before a
capital, and before a capital that follows a capital and precedes a small letter. -/
def isBoundary (a b : Char) (r : List Char) : Bool :=
  (a.isLower || a.isDigit) && b.isUpper || a.isUpper && b.isUpper && r.head?.any Char.isLower

/-- A text with a blank at every boundary. -/
def cutEvery : List Char → List Char
  | a :: b :: r => if isBoundary a b r then a :: ' ' :: cutEvery (b :: r) else a :: cutEvery (b :: r)
  | s => s

/-- A text with a blank at the boundaries that are still free.  The first `taken` characters are not: a cut takes
the characters up to the capital after it and, between two capitals, the small letter too. -/
def cutFree : Nat → List Char → List Char
  | taken, a :: b :: r =>
    if taken = 0 && isBoundary a b r then a :: ' ' :: cutFree (if a.isUpper then 2 else 1) (b :: r)
    else a :: cutFree (taken - 1) (b :: r)
  | _, s => s

/-- The words of a text: its longest pieces of ASCII letters and digits. -/
def wordsOf (s : List Char) : List (List Char) :=
  (s.splitOnP (!·.isAlphanum)).filter (!·.isEmpty)

def lowerWords (s : List Char) : List String :=
  (wordsOf s).map fun w => Text.lower (String.ofList w)

/-! ## What the patterns match -/

/-- The test for characters in one of some ranges. -/
def among (negated : Bool) (ranges : List (Nat × Nat)) : CharTest :=
  ⟨.set, negated, .exact, true, ranges.map fun r => .range r.1 r.2⟩

def lowCapital : Pattern.Node :=
  .seq (.group 1 (.unit (among false [(97, 122), (48, 57)]))) (.group 2 (.unit (among false [(65, 90)])))

def capitalSmall : Pattern.Node :=
  .group 4 (.seq (.unit (among false [(65, 90)])) (.unit (among false [(97, 122)])))

/-- Capitals, and what has to follow them. -/
def capitalRun : Pattern.Node :=
  .seq (.group 3 (.many .greedy 1 none (among false [(65, 90)]) none)) capitalSmall

theorem node_caseBoundary : caseBoundary.node = .alt none lowCapital (.alt none capitalRun .never) := by
  decide +kernel

theorem node_separators : separators.node =
    .many .greedy 1 none (among true [(65, 90), (97, 122), (48, 57)]) none := by
  decide +kernel

theorem isUpper_eq (c : Char) : c.isUpper = (decide (65 ≤ c.toNat) && decide (c.toNat ≤ 90)) :=
  Bool.decide_and (65 ≤ c.toNat) (c.toNat ≤ 90)

theorem isLower_eq (c : Char) : c.isLower = (decide (97 ≤ c.toNat) && decide (c.toNat ≤ 122)) := rfl

theorem isDigit_eq (c : Char) : c.isDigit = (decide (48 ≤ c.toNat) && decide (c.toNat ≤ 57)) := rfl

theorem isAlphanum_eq (c : Char) : c.isAlphanum = (c.isUpper || c.isLower || c.isDigit) := rfl

theorem accepts_capital (c : Char) : (among false [(65, 90)]).accepts c = c.isUpper := by
  simp [among, CharTest.accepts, Fold.apply, Member.covers, isUpper_eq]

theorem accepts_small (c : Char) : (among false [(97, 122)]).accepts c = c.isLower := by
  simp [among, CharTest.accepts, Fold.apply, Member.covers, isLower_eq]

theorem accepts_low (c : Char) : (among false [(97, 122), (48, 57)]).accepts c = (c.isLower || c.isDigit) := by
  simp [among, CharTest.accepts, Fold.apply, Member.covers, isLower_eq, isDigit_eq]

theorem accepts_other (c : Char) :
    (among true [(65, 90), (97, 122), (48, 57)]).accepts c = !c.isAlphanum := by
  simp [among, CharTest.accepts, Fold.apply, Member.covers, isAlphanum_eq, isUpper_eq, isLower_eq, isDigit_eq,
    Bool.or_assoc]

variable {c : Cursor} {a : Char} {r : List Char} {g : Registers}

theorem follows_separators : separators.Follows fun s => (s.takeWhile (!·.isAlphanum)).length := by
  have haccepts : (among true [(65, 90), (97, 122), (48, 57)]).accepts = (!·.isAlphanum) := funext accepts_other
  have hleast : separators.least = 1 := by decide +kernel
  rw [← haccepts]
  refine ⟨fun s => (List.takeWhile_sublist _).length_le, fun s hs => ?_, fun c hc => ?_, fun c hc => ?_⟩
  · rw [hleast]
    exact Nat.le_trans hs (List.takeWhile_sublist _).length_le
  · obtain ⟨r', hlost⟩ := run_many_lost stop ⟨c, []⟩ hc
    simp [Compiled.matchAt, node_separators, hlost]
  · have hrun := run_many rfl stop ⟨c, []⟩ hc
    have hback : ∀ n c' r, giveBack false none stop n c' r = .found (r.note c') := fun n c' r => by cases n <;> rfl
    rw [hback] at hrun
    refine ⟨⟨c, ⟨c.forward _, []⟩, separators.groupNames⟩, ?_, rfl, rfl⟩
    simp [Compiled.matchAt, node_separators, hrun, Registers.note]

/-! ## Boundaries -/

/-- How many characters a boundary takes that opens a text: two, or capitals and the small letter after them. -/
def boundaryRule (s : List Char) : Nat :=
  let n := (s.takeWhile Char.isUpper).length
  if s.head?.any (fun a => a.isLower || a.isDigit) && s.tail.head?.any Char.isUpper then 2
  else if 2 ≤ n && (s.dropWhile Char.isUpper).head?.any Char.isLower then n + 1
  else 0

theorem apart_of_isUpper {c : Char} (h : c.isUpper) : c.isLower = false ∧ c.isDigit = false := by
  simp only [isUpper_eq, isLower_eq, isDigit_eq, Bool.and_eq_true, Bool.and_eq_false_iff, decide_eq_true_eq,
    decide_eq_false_iff_not] at *
  omega

theorem isUpper_of_low {c : Char} (h : c.isLower || c.isDigit) : c.isUpper = false := by
  cases hup : c.isUpper with
  | false => rfl
  | true => simp [apart_of_isUpper hup] at h

theorem isUpper_of_isLower {c : Char} (h : c.isLower) : c.isUpper = false :=
  isUpper_of_low (by rw [h, Bool.true_or])

theorem boundaryRule_cases {s : List Char} (h : 0 < boundaryRule s) :
    (∃ a b r, s = a :: b :: r ∧ (a.isLower || a.isDigit) = true ∧ b.isUpper = true ∧ boundaryRule s = 2) ∨
    ∃ us u l r, s = us ++ u :: l :: r ∧ us ≠ [] ∧ (∀ x ∈ us, x.isUpper = true) ∧ u.isUpper = true ∧
      l.isLower = true ∧ boundaryRule s = us.length + 2 := by
  unfold boundaryRule at h ⊢
  simp only at h ⊢
  split at h
  · next hlow =>
    rcases s with _ | ⟨a, _ | ⟨b, r⟩⟩
    · simp at hlow
    · simp at hlow
    · simp only [List.head?_cons, List.tail_cons, Option.any_some, Bool.and_eq_true] at hlow
      exact .inl ⟨a, b, r, rfl, hlow.1, hlow.2, by simp [hlow]⟩
  · next hlow =>
    split at h
    · next hrun =>
      rw [if_neg hlow, if_pos hrun]
      simp only [Bool.and_eq_true, decide_eq_true_eq] at hrun
      have happend := List.takeWhile_append_dropWhile (p := Char.isUpper) (l := s)
      have hall : ∀ x ∈ s.takeWhile Char.isUpper, x.isUpper = true := fun x hx => List.mem_takeWhile_imp hx
      generalize s.takeWhile Char.isUpper = run at *
      obtain ⟨us, u, rfl⟩ := List.eq_nil_or_concat run |>.resolve_left (by rintro rfl; simp at hrun)
      cases hl : s.dropWhile Char.isUpper with
      | nil => simp [hl] at hrun
      | cons l r =>
        rw [hl] at hrun happend
        refine .inr ⟨us, u, l, r, by simpa using happend.symm, ?_, fun x hx => hall x (by simp [hx]),
          hall u (by simp), by simpa using hrun.2, by simp⟩
        rintro rfl
        simp at hrun
    · omega

theorem matchAt_low (ha : a.isLower || a.isDigit) (hb : b.isUpper) (hc : c.after = a :: b :: r) :
    caseBoundary.matchAt false c = some ⟨c, ⟨c.forward 2, [some c, some (c.forward 1), some (c.forward 1),
      some (c.forward 2)]⟩, caseBoundary.groupNames⟩ := by
  refine Compiled.matchAt_of_found ?_
  obtain ⟨before, s, pos⟩ := c
  cases hc
  rw [node_caseBoundary]
  refine run_alt_found ?_
  simp [lowCapital, Pattern.Node.run, attempt, Cursor.next?, Cursor.forward, accepts_low, accepts_capital, ha, hb,
    Registers.mark, Registers.note, stop]

/-- What has to follow capitals. -/
def tail : Step := fun c r => capitalSmall.run false stop c (r.mark 5 c)

theorem tail_found (hu : u.isUpper) (hl : l.isLower) (hc : c.after = u :: l :: r)
    (hg : g.marks.length = 5) : attempt false none tail c g =
      .found ⟨c.forward 2, g.marks ++ [some c, some c, some (c.forward 2)]⟩ := by
  obtain ⟨before, s, pos⟩ := c
  cases hc
  simp [attempt, tail, capitalSmall, Pattern.Node.run, Cursor.next?, Cursor.forward, accepts_capital, accepts_small, hu,
    hl, Registers.mark, Registers.note, stop, hg]

theorem tail_lost (hg : g.marks.length = 5)
    (h : ∀ u l r, c.after = u :: l :: r → u.isUpper = true → l.isLower = false) :
    attempt false none tail c g = .lost ⟨c, g.marks⟩ := by
  obtain ⟨before, s, pos⟩ := c
  rcases s with _ | ⟨u, _ | ⟨l, r⟩⟩
  · simp [attempt, tail, capitalSmall, Pattern.Node.run, Cursor.next?, Registers.mark, Registers.note,
      Registers.retake, hg]
  · cases hu : u.isUpper <;>
      simp [attempt, tail, capitalSmall, Pattern.Node.run, Cursor.next?, Registers.mark, Registers.note,
        Registers.retake, hg, accepts_capital, hu]
  · cases hu : u.isUpper with
    | false =>
      simp [attempt, tail, capitalSmall, Pattern.Node.run, Cursor.next?, Registers.mark, Registers.note,
        Registers.retake, hg, accepts_capital, hu]
    | true =>
      simp [attempt, tail, capitalSmall, Pattern.Node.run, Cursor.next?, Registers.mark, Registers.note,
        Registers.retake, hg, accepts_capital, accepts_small, hu, h u l r rfl hu]

/-- Behind the first of some capitals, no other one is followed by a small letter unless the last of them is. -/
theorem isLower_after_capitals {run rest : List Char} {n : Nat} (hall : ∀ x ∈ run, x.isUpper = true)
    (hend : ∀ x ∈ rest.head?, x.isUpper = false ∧ (2 ≤ run.length → x.isLower = false)) (hpos : 0 < n)
    (hn : n ≤ run.length) (hdrop : (run ++ rest).drop n = u :: l :: r) (hu : u.isUpper) : l.isLower = false := by
  rw [List.drop_append_of_le_length hn] at hdrop
  rcases Nat.eq_or_lt_of_le hn with rfl | hlt
  · rw [List.drop_length, List.nil_append] at hdrop
    rw [(hend u (by simp [hdrop])).1] at hu
    cases hu
  · rw [List.drop_eq_getElem_cons hlt, List.cons_append, List.cons.injEq] at hdrop
    cases hmore : run.drop (n + 1) with
    | nil =>
      rw [hmore, List.nil_append] at hdrop
      exact (hend l (by simp [hdrop.2])).2 (by omega)
    | cons v vs =>
      rw [hmore, List.cons_append, List.cons.injEq] at hdrop
      have hv : v ∈ run := List.mem_of_mem_drop (hmore ▸ List.mem_cons_self)
      rw [← hdrop.2.1]
      exact (apart_of_isUpper (hall v hv)).1

theorem lowCapital_lost
    (h : (c.after.head?.any (fun a => a.isLower || a.isDigit) && c.after.tail.head?.any Char.isUpper) = false) :
    attempt false none (lowCapital.run false stop) c ⟨c, []⟩ = .lost ⟨c, []⟩ := by
  obtain ⟨before, s, pos⟩ := c
  rcases s with _ | ⟨a, _ | ⟨b, r⟩⟩
  · rfl
  · cases ha : (a.isLower || a.isDigit) <;>
      simp [attempt, lowCapital, Pattern.Node.run, Cursor.next?, Registers.mark, Registers.note, Registers.retake,
        accepts_low, ha]
  · cases ha : (a.isLower || a.isDigit) <;>
      simp_all [attempt, lowCapital, Pattern.Node.run, Cursor.next?, Registers.mark, Registers.note, Registers.retake,
        accepts_low, accepts_capital]

theorem run_capitalRun (c : Cursor) : capitalRun.run false stop c ⟨c, []⟩ =
    (Pattern.Node.many .greedy 1 none (among false [(65, 90)]) none).run false tail c
      ⟨c, [none, none, none, none, some c]⟩ :=
  rfl

/-- Behind capitals only the last of them is given back. -/
theorem giveBack_found (hne : us ≠ []) (hu : u.isUpper) (hl : l.isLower)
    (hc : c.after = us ++ u :: l :: r) (hg : g.marks.length = 5) :
    giveBack false none tail us.length (c.forward (us.length + 1)) g =
      .found ⟨c.forward (us.length + 2), g.marks ++
        [some (c.forward us.length), some (c.forward us.length), some (c.forward (us.length + 2))]⟩ := by
  have hend : (c.forward (us.length + 1)).after = l :: r := by simp [hc, List.drop_append]
  have hback : (c.forward (us.length + 1)).back = c.forward us.length := Cursor.back_forward (by simp [hc])
  have hfound := tail_found hu hl (c := c.forward us.length) (r := r) (by simp [hc])
    (g := ⟨c.forward (us.length + 1), g.marks⟩) hg
  obtain ⟨n, hn⟩ := Nat.exists_eq_succ_of_ne_zero (mt List.length_eq_zero_iff.mp hne)
  rw [Cursor.forward_forward] at hfound
  have hlost : attempt false none tail (c.forward (us.length + 1)) g =
      .lost ⟨c.forward (us.length + 1), g.marks⟩ := by
    refine tail_lost hg fun v w s heq hv => ?_
    rw [hend, List.cons.injEq] at heq
    rw [← heq.1, isUpper_of_isLower hl] at hv
    cases hv
  generalize c.forward (us.length + 1) = d at *
  rw [hn, giveBack, hlost, ← hn]
  simp only [hback]
  cases n <;> rw [giveBack, hfound]

theorem matchAt_run (hne : us ≠ []) (hus : ∀ x ∈ us, x.isUpper = true) (hu : u.isUpper) (hl : l.isLower)
    (hc : c.after = us ++ u :: l :: r) :
    caseBoundary.matchAt false c = some ⟨c, ⟨c.forward (us.length + 2), [none, none, none, none, some c,
      some (c.forward us.length), some (c.forward us.length), some (c.forward (us.length + 2))]⟩,
        caseBoundary.groupNames⟩ := by
  have hrun : (c.after.takeWhile (among false [(65, 90)]).accepts).length = us.length + 1 := by
    rw [funext accepts_capital, hc, List.takeWhile_append_of_pos hus]
    simp [hu, isUpper_of_isLower hl]
  have hfirst : (c.after.head?.any (fun a => a.isLower || a.isDigit) &&
      c.after.tail.head?.any Char.isUpper) = false := by
    obtain ⟨a, us, rfl⟩ := List.exists_cons_of_ne_nil hne
    simp [hc, apart_of_isUpper (hus a (by simp))]
  have hmany := run_many (t := among false [(65, 90)]) rfl tail (c := c)
    ⟨c, [none, none, none, none, some c]⟩ (by omega)
  rw [hrun, Nat.add_sub_cancel, Registers.note, giveBack_found hne hu hl hc rfl] at hmany
  refine Compiled.matchAt_of_found ?_
  rw [node_caseBoundary, run_alt_lost (lowCapital_lost hfirst)]
  refine run_alt_found ?_
  rw [attempt, Option.all_none, if_pos rfl, Registers.note, run_capitalRun, hmany]
  rfl

theorem capitalRun_lost
    (h : (2 ≤ (c.after.takeWhile Char.isUpper).length &&
      (c.after.dropWhile Char.isUpper).head?.any Char.isLower) = false) :
    ∃ r, attempt false none (capitalRun.run false stop) c ⟨c, []⟩ = .lost r := by
  suffices hmany : ∃ r, (Pattern.Node.many .greedy 1 none (among false [(65, 90)]) none).run false tail c
      ⟨c, [none, none, none, none, some c]⟩ = .lost r by
    obtain ⟨r, hmany⟩ := hmany
    rw [attempt, Option.all_none, if_pos rfl, Registers.note, run_capitalRun, hmany]
    exact ⟨_, rfl⟩
  have hrun : (c.after.takeWhile (among false [(65, 90)]).accepts) = c.after.takeWhile Char.isUpper := by
    rw [funext accepts_capital]
  rcases Nat.eq_zero_or_pos (c.after.takeWhile Char.isUpper).length with hzero | hpos
  · exact run_many_lost tail _ (hrun ▸ hzero)
  rw [run_many rfl tail _ (hrun ▸ hpos), hrun]
  have happend := List.takeWhile_append_dropWhile (p := Char.isUpper) (l := c.after)
  have hall : ∀ x ∈ c.after.takeWhile Char.isUpper, x.isUpper = true := fun x hx => List.mem_takeWhile_imp hx
  have hend : ∀ x ∈ (c.after.dropWhile Char.isUpper).head?, x.isUpper = false := fun x hx => by
    simpa [Option.mem_def.mp hx] using List.head?_dropWhile_not Char.isUpper c.after
  generalize c.after.takeWhile Char.isUpper = run at *
  generalize c.after.dropWhile Char.isUpper = rest at *
  have hlast : ∀ x ∈ rest.head?, x.isUpper = false ∧ (2 ≤ run.length → x.isLower = false) := fun x hx =>
    ⟨hend x hx, fun hlong => by simpa [hlong, Option.mem_def.mp hx] using h⟩
  have hfits : run.length - 1 ≤ (c.forward 1).after.length := by simp [← happend]; omega
  have hlen : c.forward run.length = (c.forward 1).forward (run.length - 1) := by
    rw [Cursor.forward_forward, Nat.add_sub_of_le hpos]
  rw [hlen]
  refine giveBack_lost (I := fun g => g.marks.length = 5) hfits (fun j hj g hg => ?_) rfl
  refine ⟨⟨(c.forward 1).forward j, g.marks⟩, hg, tail_lost hg fun u l r hafter hu => ?_⟩
  rw [Cursor.forward_forward, Cursor.forward_after, ← happend] at hafter
  exact isLower_after_capitals hall hlast (by omega) (by omega) hafter hu

theorem follows_caseBoundary : caseBoundary.Follows boundaryRule := by
  have hleast : caseBoundary.least = 2 := by decide +kernel
  refine ⟨fun s => ?_, fun s hs => ?_, fun c hc => ?_, fun c hc => ?_⟩
  · by_cases hs : 0 < boundaryRule s
    · rcases boundaryRule_cases hs with ⟨a, b, r, rfl, -, -, hrule⟩ | ⟨us, u, l, r, rfl, -, -, -, -, hrule⟩ <;>
        simp [hrule]
    · omega
  · rw [hleast]
    rcases boundaryRule_cases hs with ⟨a, b, r, rfl, -⟩ | ⟨us, u, l, r, rfl, -⟩ <;> simp
    omega
  · unfold boundaryRule at hc
    simp only at hc
    split at hc
    · cases hc
    split at hc
    · cases hc
    next hfirst hrun =>
    obtain ⟨r, hlost⟩ := capitalRun_lost (eq_false_of_ne_true hrun)
    refine Compiled.matchAt_of_lost (r := r) ?_
    rw [node_caseBoundary, run_alt_lost (lowCapital_lost (eq_false_of_ne_true hfirst)), run_alt_lost hlost]
    rfl
  · rcases boundaryRule_cases hc with ⟨a, b, r, hs, ha, hb, hrule⟩ | ⟨us, u, l, r, hs, hne, hus, hu, hl, hrule⟩
    · rw [hrule]
      exact ⟨_, matchAt_low ha hb hs, rfl, rfl⟩
    · rw [hrule]
      exact ⟨_, matchAt_run hne hus hu hl hs, rfl, rfl⟩

/-! ## Cuts -/

theorem cutFree_succ (n : Nat) (x : Char) (r : List Char) : cutFree (n + 1) (x :: r) = x :: cutFree n r := by
  cases r <;> simp [cutFree]

theorem cutFree_low (ha : a.isLower || a.isDigit) (hb : b.isUpper) (r : List Char) :
    cutFree 0 (a :: b :: r) = a :: ' ' :: b :: cutFree 0 r := by
  simp [cutFree, isBoundary, ha, hb, isUpper_of_low ha, cutFree_succ]

theorem cutFree_run (hne : us ≠ []) (hus : ∀ x ∈ us, x.isUpper = true) (hu : u.isUpper) (hl : l.isLower) :
    cutFree 0 (us ++ u :: l :: r) = us ++ ' ' :: u :: l :: cutFree 0 r := by
  induction us with
  | nil => exact absurd rfl hne
  | cons a us ih =>
    have ha := hus a (by simp)
    cases us with
    | nil => simp [cutFree, isBoundary, ha, hu, hl, cutFree_succ]
    | cons b us =>
      have hnext : (us ++ u :: l :: r).head?.any Char.isLower = false := by
        cases us with
        | nil => simp [apart_of_isUpper hu]
        | cons c us => simp [apart_of_isUpper (hus c (by simp))]
      have hnot : isBoundary a b (us ++ u :: l :: r) = false := by
        rw [isBoundary, hnext]
        simp [apart_of_isUpper ha]
      rw [List.cons_append, List.cons_append, cutFree, hnot]
      simpa using ih (by simp) fun x hx => hus x (by simp [hx])

theorem cutFree_pass (h : boundaryRule (x :: r) = 0) : cutFree 0 (x :: r) = x :: cutFree 0 r := by
  rcases r with _ | ⟨b, r⟩
  · rfl
  · have hnot : isBoundary x b r = false := by
      refine eq_false_of_ne_true fun hcut => ?_
      simp only [isBoundary, Bool.or_eq_true, Bool.and_eq_true (_ && _)] at hcut
      rcases hcut with hlow | ⟨hup, hnext⟩
      · simp [boundaryRule, hlow] at h
      · rcases r with _ | ⟨c, r⟩
        · simp at hnext
        · simp only [Bool.and_eq_true, List.head?_cons, Option.any_some] at hup hnext
          simp [boundaryRule, hup, hnext, isUpper_of_isLower, apart_of_isUpper hup.1] at h
    rw [cutFree, hnot]
    simp

theorem spaced_low (hc : c.after = a :: b :: r) (names : Fields Nat) :
    spaced ⟨c, ⟨c.forward 2, [some c, some (c.forward 1), some (c.forward 1), some (c.forward 2)]⟩, names⟩ =
      [a, ' ', b] := by
  simp [spaced, Match.span?, Registers.group?, Registers.bounds?, Span.chars, hc]

theorem spaced_run (hc : c.after = us ++ u :: l :: r) (names : Fields Nat) :
    spaced ⟨c, ⟨c.forward (us.length + 2), [none, none, none, none, some c, some (c.forward us.length),
      some (c.forward us.length), some (c.forward (us.length + 2))]⟩, names⟩ = us ++ [' ', u, l] := by
  have htwo : c.pos + (us.length + 2) - (c.pos + us.length) = 2 := by omega
  simp [spaced, Match.span?, Registers.group?, Registers.bounds?, Span.chars, hc, htwo]

/-- Blanks go to the boundaries that are still free. -/
theorem replaceAll_caseBoundary (s : List Char) : caseBoundary.replaceAll spaced s = cutFree 0 s := by
  refine (follows_caseBoundary.walk_findAll s).replaceFrom_eq rfl (fun x r => cutFree_pass) fun c m hc hm => ?_
  rcases boundaryRule_cases hc with ⟨a, b, r, hs, ha, hb, hrule⟩ | ⟨us, u, l, r, hs, hne, hus, hu, hl, hrule⟩
  · cases (matchAt_low ha hb hs).symm.trans hm
    rw [hrule, spaced_low hs, hs, cutFree_low ha hb]
    rfl
  · cases (matchAt_run hne hus hu hl hs).symm.trans hm
    rw [hrule, spaced_run hs, hs, cutFree_run hne hus hu hl]
    simp

/-! ## Words -/

theorem wordsOf_cons_of_not (hx : x.isAlphanum = false) (s : List Char) : wordsOf (x :: s) = wordsOf s := by
  simp [wordsOf, List.splitOnP_cons_eq_if_modifyHead, hx]

theorem wordsOf_append_of_all {sep : List Char} (h : ∀ x ∈ sep, x.isAlphanum = false) (s : List Char) :
    wordsOf (sep ++ s) = wordsOf s := by
  induction sep with
  | nil => rfl
  | cons x sep ih =>
    rw [List.cons_append, wordsOf_cons_of_not (h x (by simp)), ih fun y hy => h y (by simp [hy])]

theorem wordsOf_append {w : List Char} (hw : ∀ x ∈ w, x.isAlphanum = true)
    (hx : x.isAlphanum = false) (s : List Char) :
    wordsOf (w ++ x :: s) = [w].filter (!·.isEmpty) ++ wordsOf s := by
  rw [wordsOf, List.splitOnP_append_cons_of_forall_mem (by simpa using hw) x (by simp [hx]), ← List.singleton_append,
    List.filter_append, wordsOf]

theorem gap_takeWhile (q : Char → Bool) (s : List Char) :
    Compiled.gap (fun s => (s.takeWhile (!q ·)).length) s = (s.takeWhile q).length := by
  induction s with
  | nil => rfl
  | cons x r ih => by_cases hx : q x = true <;> simp [Compiled.gap, hx, ih]

theorem drop_takeWhile (q : Char → Bool) (s : List Char) : s.drop (s.takeWhile q).length = s.dropWhile q := by
  induction s with
  | nil => rfl
  | cons x r ih => by_cases hx : q x = true <;> simp [hx, ih]

theorem filter_splitAll (s : List Char) : (separators.splitAll s).filter (!·.isEmpty) = wordsOf s := by
  refine (follows_separators.walk_findAll s).piecesBetween_induction
    (motive := fun s ps => ps.filter (!·.isEmpty) = wordsOf s) (fun s hend => ?_) fun s ps hpos ih => ?_
  · rw [gap_takeWhile, drop_takeWhile, List.dropWhile_eq_nil_iff] at hend
    rw [wordsOf, List.splitOnP_eq_singleton (by simpa using hend)]
  · rw [gap_takeWhile, drop_takeWhile] at hpos ih
    rw [drop_takeWhile] at ih
    have hw : ∀ x ∈ s.takeWhile Char.isAlphanum, x.isAlphanum = true := fun x hx => List.mem_takeWhile_imp hx
    have hend := List.head?_dropWhile_not Char.isAlphanum s
    have hs := List.takeWhile_append_dropWhile (p := Char.isAlphanum) (l := s)
    have hsep : ∀ x ∈ (s.dropWhile Char.isAlphanum).takeWhile (!·.isAlphanum),
        x.isAlphanum = false := fun x hx => by
      simpa using List.mem_takeWhile_imp hx
    have hrest := wordsOf_append_of_all hsep ((s.dropWhile Char.isAlphanum).dropWhile (!·.isAlphanum))
    rw [List.takeWhile_append_dropWhile, ← ih] at hrest
    rw [gap_takeWhile, ← List.prefix_iff_eq_take.mp (List.takeWhile_prefix _)]
    cases hd : s.dropWhile Char.isAlphanum with
    | nil => simp [hd] at hpos
    | cons x r =>
      rw [hd] at hs hend hrest
      conv => rhs; rw [← hs, wordsOf_append hw hend, ← wordsOf_cons_of_not hend, hrest]
      rw [← List.singleton_append, List.filter_append]

/-- A name is cut at the boundaries that are still free, and then into words. -/
theorem tokenize_eq (name : String) : tokenize name = lowerWords (cutFree 0 name.toList) := by
  rw [tokenize, filter_splitAll, replaceAll_caseBoundary, lowerWords]

end ShapeSearch.Naming
