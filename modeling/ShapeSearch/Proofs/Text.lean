import Mathlib.Data.List.Basic
import ShapeSearch.Text.Blank
import ShapeSearch.Text.Case

/-!
# Trimming and lower case

Both leave alone what they have made (`trim_trim`, `lower_lower`), and the lower-case form of a trimmed text
is trimmed (`trim_lower`).

For lower case this rests on the table of case runs: no run leads to a character that has a lower-case form of
its own, or to a blank (`settled_of_lower?`).  The two characters whose form depends on more than the table,
capital sigma and the dotted capital I, never come out.
-/

namespace ShapeSearch.Text

variable {s before out : List Char} {c : Char}

/-! ## Trimming -/

/-- No blank stands at either end. -/
def IsTrimmed (s : List Char) : Prop :=
  (∀ c ∈ s.head?, isBlank c = false) ∧ ∀ c ∈ s.getLast?, isBlank c = false

theorem dropWhile_of_head (h : ∀ c ∈ s.head?, isBlank c = false) : s.dropWhile isBlank = s := by
  cases s with
  | nil => rfl
  | cons c r => rw [List.dropWhile_cons_of_neg (by simp [h c rfl])]

theorem head_dropWhile (s : List Char) : ∀ c ∈ (s.dropWhile isBlank).head?, isBlank c = false := by
  intro c hc
  have h := List.head?_dropWhile_not isBlank s
  rw [hc] at h
  exact h

theorem trimChars_of_isTrimmed (h : IsTrimmed s) : trimChars s = s := by
  have hlast : ∀ c ∈ s.reverse.head?, isBlank c = false := by
    rw [List.head?_reverse]
    exact h.2
  rw [trimChars, dropWhile_of_head h.1, dropWhile_of_head hlast, List.reverse_reverse]

theorem isTrimmed_trimChars (s : List Char) : IsTrimmed (trimChars s) := by
  constructor
  · intro c hc
    -- what is left of the text opens as the text without its first blanks does
    have hprefix : trimChars s <+: s.dropWhile isBlank := by
      rw [trimChars, ← List.reverse_suffix, List.reverse_reverse]
      exact List.dropWhile_suffix _
    obtain ⟨rest, hrest⟩ := hprefix
    refine head_dropWhile s c ?_
    rw [← hrest, List.head?_append, hc]
    rfl
  · rw [trimChars, List.getLast?_reverse]
    exact head_dropWhile _

theorem trim_eq_self_iff {s : String} : trim s = s ↔ IsTrimmed s.toList := by
  rw [trim, ← String.toList_inj, String.toList_ofList]
  constructor
  · intro h
    rw [← h]
    exact isTrimmed_trimChars _
  · exact trimChars_of_isTrimmed

@[simp] theorem trim_trim (s : String) : trim (trim s) = trim s := by
  rw [trim_eq_self_iff, trim, String.toList_ofList]
  exact isTrimmed_trimChars _

/-! ## Case runs -/

namespace CaseRun

def bottom (r : CaseRun) : Nat := ((r.first : Int) + r.shift).toNat

def top (r : CaseRun) : Nat := ((r.last : Int) + r.shift).toNat

/-- A simple reason why no lower-case form of a run is a member of another one: all are smaller, all are
larger, or they lie between the members. -/
def misses (r q : CaseRun) : Bool :=
  Nat.blt r.top q.first || Nat.blt q.last r.bottom ||
    (r.step == 2 || r.first == r.last) && q.step == 2 && (r.bottom + q.first) % 2 == 1

theorem lower?_eq_some {r : CaseRun} {n m : Nat} (h : r.lower? n = some m) :
    r.first ≤ n ∧ n ≤ r.last ∧ (n - r.first) % r.step = 0 ∧ m = ((n : Int) + r.shift).toNat := by
  unfold lower? at h
  split at h
  · next hc =>
    simp only [Bool.and_eq_true, decide_eq_true_eq, beq_iff_eq] at hc
    cases h
    exact ⟨hc.1.1, hc.1.2, hc.2, rfl⟩
  · cases h

theorem lower?_of_misses {r q : CaseRun} {n m : Nat} (hbottom : 0 < r.bottom) (h : r.misses q)
    (hm : r.lower? n = some m) : q.lower? m = none := by
  obtain ⟨hfirst, hlast, hstep, rfl⟩ := lower?_eq_some hm
  rw [Option.eq_none_iff_forall_ne_some]
  intro k hk
  obtain ⟨hqfirst, hqlast, hqstep, -⟩ := lower?_eq_some hk
  simp only [misses, bottom, top, Bool.or_eq_true, Bool.and_eq_true, Nat.blt_eq, beq_iff_eq] at h hbottom
  rcases h with (h | h) | ⟨⟨h, hq⟩, hodd⟩
  · omega
  · omega
  · rw [hq] at hqstep
    rcases h with h | h
    · rw [h] at hstep
      omega
    · omega

end CaseRun

/-- The runs, those among the ASCII characters first. -/
def allRuns : List CaseRun :=
  ⟨65, 90, 1, 32⟩ :: lowerRuns.toList

/-- The blanks, written as runs. -/
def blankRuns : List CaseRun :=
  [⟨9, 13, 1, 0⟩, ⟨28, 32, 1, 0⟩, ⟨0x85, 0x85, 1, 0⟩, ⟨0xa0, 0xa0, 1, 0⟩, ⟨0x1680, 0x1680, 1, 0⟩,
    ⟨0x2000, 0x200a, 1, 0⟩, ⟨0x2028, 0x2029, 1, 0⟩, ⟨0x202f, 0x202f, 1, 0⟩, ⟨0x205f, 0x205f, 1, 0⟩,
    ⟨0x3000, 0x3000, 1, 0⟩]

/-- No run leads to a member of a run, or to a blank. -/
theorem misses_runs : ∀ r ∈ allRuns, 0 < r.bottom ∧ (allRuns ++ blankRuns).all r.misses = true := by
  decide +kernel

theorem lowerRun_mem {i : Nat} (hi : i < lowerRuns.size) : lowerRun i ∈ allRuns := by
  rw [lowerRun, Array.getD_eq_getD_getElem?, Array.getElem?_eq_getElem hi]
  exact List.mem_cons_of_mem _ (Array.getElem_mem_toList hi)

theorem lower?_beyond {i n : Nat} (hi : lowerRuns.size ≤ i) (hn : 0 < n) : (lowerRun i).lower? n = none := by
  rw [lowerRun, Array.getD_eq_getD_getElem?, Array.getElem?_eq_none hi]
  rw [CaseRun.lower?, if_neg]
  simp only [Option.getD_none, Bool.and_eq_true, decide_eq_true_eq, not_and]
  omega

theorem blankRuns_of_isBlank (h : isBlank c) : ∃ q ∈ blankRuns, q.lower? c.toNat ≠ none := by
  simp only [isBlank, Bool.or_eq_true, Bool.and_eq_true, decide_eq_true_eq, beq_iff_eq] at h
  simp only [blankRuns, List.mem_cons, List.not_mem_nil, or_false, exists_eq_or_imp, exists_eq_left,
    CaseRun.lower?, Nat.mod_one, beq_self_eq_true, and_true, Bool.and_eq_true, decide_eq_true_eq,
    ne_eq, ite_eq_right_iff, reduceCtorEq, imp_false, not_not]
  omega

/-! ## Lower case -/

/-- A character that lower case leaves alone, wherever it stands. -/
def IsSettled (c : Char) : Prop :=
  lowerChar c = c ∧ c.toNat ≠ 0x3a3 ∧ c.toNat ≠ 0x130

instance (c : Char) : Decidable (IsSettled c) := inferInstanceAs (Decidable (_ ∧ _))

theorem toLower_ascii : ∀ n < 128, (Char.ofNat n).toLower = Char.ofNat n ∨
    (65 ≤ n ∧ n ≤ 90 ∧ (Char.ofNat n).toLower = Char.ofNat (n + 32)) := by
  decide

theorem lowerChar_cases (c : Char) :
    lowerChar c = c ∨ ∃ r ∈ allRuns, ∃ n, r.lower? c.toNat = some n ∧ lowerChar c = Char.ofNat n := by
  unfold lowerChar
  split
  · next hc =>
    have hascii := toLower_ascii c.toNat hc
    rw [Char.ofNat_toNat] at hascii
    rcases hascii with h | ⟨hlo, hhi, h⟩
    · exact .inl h
    · refine .inr ⟨⟨65, 90, 1, 32⟩, List.mem_cons_self, c.toNat + 32, ?_, h⟩
      rw [CaseRun.lower?, if_pos (by simp [hlo, hhi, Nat.mod_one])]
      rfl
  · next hc =>
    simp only
    split
    · exact .inl rfl
    · next hk =>
      split
      · next n hn =>
        have hi : ¬ lowerRuns.size ≤ countRuns c.toNat (lowerRuns.size.log2 + 2) 0 lowerRuns.size - 1 := by
          intro hi
          rw [lower?_beyond hi (by omega)] at hn
          cases hn
        exact .inr ⟨_, lowerRun_mem (Nat.lt_of_not_le hi), n, hn, rfl⟩
      · exact .inl rfl

theorem lowerChar_of_not_member (h : ∀ r ∈ allRuns, r.lower? c.toNat = none) : lowerChar c = c := by
  rcases lowerChar_cases c with hc | ⟨r, hr, n, hn, -⟩
  · exact hc
  · rw [h r hr] at hn
    cases hn

/-- The two characters with rules of their own are members of runs. -/
theorem special_members : ∀ n ∈ [0x3a3, 0x130], allRuns.any (fun r => (r.lower? n).isSome) = true := by
  decide +kernel

/-- What a run leads to is settled, and no blank. -/
theorem settled_of_lower? {r : CaseRun} (hr : r ∈ allRuns) {n m : Nat} (h : r.lower? n = some m) :
    IsSettled (Char.ofNat m) ∧ isBlank (Char.ofNat m) = false := by
  by_cases hvalid : m.isValidChar
  · obtain ⟨hbottom, hmisses⟩ := misses_runs r hr
    rw [List.all_eq_true] at hmisses
    have htoNat : (Char.ofNat m).toNat = m := by
      rw [Char.ofNat, dif_pos hvalid]
      rfl
    have hfree : ∀ q ∈ allRuns ++ blankRuns, q.lower? m = none := fun q hq =>
      CaseRun.lower?_of_misses hbottom (hmisses q hq) h
    have hruns : ∀ q ∈ allRuns, q.lower? m = none := fun q hq => hfree q (List.mem_append_left _ hq)
    have hspecial : ∀ k ∈ [0x3a3, 0x130], m ≠ k := by
      rintro k hk rfl
      obtain ⟨q, hq, hsome⟩ := List.any_eq_true.mp (special_members m hk)
      rw [hruns q hq] at hsome
      cases hsome
    refine ⟨⟨lowerChar_of_not_member (by rwa [htoNat]), ?_, ?_⟩, ?_⟩
    · rw [htoNat]
      exact hspecial _ (by simp)
    · rw [htoNat]
      exact hspecial _ (by simp)
    · rw [Bool.eq_false_iff]
      intro hblank
      obtain ⟨q, hq, hne⟩ := blankRuns_of_isBlank hblank
      rw [htoNat] at hne
      exact hne (hfree q (List.mem_append_right _ hq))
  · have hzero : Char.ofNat m = Char.ofNat 0 := by
      rw [Char.ofNat, dif_neg hvalid]
      rfl
    rw [hzero]
    decide

theorem isSettled_lowerChar (hsigma : c.toNat ≠ 0x3a3) (hdotted : c.toNat ≠ 0x130) : IsSettled (lowerChar c) := by
  rcases lowerChar_cases c with h | ⟨r, hr, n, hn, h⟩
  · rw [h]
    exact ⟨h, hsigma, hdotted⟩
  · rw [h]
    exact (settled_of_lower? hr hn).1

theorem isBlank_lowerChar (hc : isBlank c = false) : isBlank (lowerChar c) = false := by
  rcases lowerChar_cases c with h | ⟨r, hr, n, hn, h⟩
  · rw [h, hc]
  · rw [h]
    exact (settled_of_lower? hr hn).2

/-- Lower case puts only settled characters out. -/
theorem isSettled_lowerFrom (h : ∀ d ∈ out, IsSettled d) : ∀ d ∈ lowerFrom before s out, IsSettled d := by
  induction s generalizing before out with
  | nil =>
    rw [lowerFrom]
    simpa using h
  | cons c r ih =>
    have hsigma : ∀ b : Bool, IsSettled (if b then Char.ofNat 0x3c2 else Char.ofNat 0x3c3) := by
      decide +kernel
    have hdots : IsSettled (Char.ofNat 0x307) ∧ IsSettled 'i' := by decide +kernel
    rw [lowerFrom]
    split
    · exact ih (List.forall_mem_cons.mpr ⟨hsigma _, h⟩)
    · next hs =>
      split
      · exact ih (List.forall_mem_cons.mpr ⟨hdots.1, List.forall_mem_cons.mpr ⟨hdots.2, h⟩⟩)
      · next hd =>
        rw [beq_iff_eq] at hs hd
        exact ih (List.forall_mem_cons.mpr ⟨isSettled_lowerChar hs hd, h⟩)

theorem lowerFrom_of_settled (h : ∀ c ∈ s, IsSettled c) : lowerFrom before s out = out.reverse ++ s := by
  induction s generalizing before out with
  | nil => rw [lowerFrom, List.append_nil]
  | cons c r ih =>
    obtain ⟨⟨hlow, hsigma, hdotted⟩, hr⟩ := List.forall_mem_cons.mp h
    rw [lowerFrom, if_neg (by simpa using hsigma), if_neg (by simpa using hdotted), ih hr, hlow]
    simp

theorem lower_lower (s : String) : lower (lower s) = lower s := by
  have hsettled : ∀ d ∈ lowerFrom [] s.toList [], IsSettled d := isSettled_lowerFrom (by simp)
  rw [lower, lower, String.toList_ofList, lowerFrom_of_settled hsettled]
  rfl

theorem head_lowerFrom {d : Char} (h : out.getLast? = some d) : (lowerFrom before s out).head? = some d := by
  induction s generalizing before out with
  | nil => rw [lowerFrom, List.head?_reverse, h]
  | cons c r ih =>
    rw [lowerFrom]
    split
    · exact ih (by rw [List.getLast?_cons, h]; rfl)
    · split
      · exact ih (by rw [List.getLast?_cons, List.getLast?_cons, h]; rfl)
      · exact ih (by rw [List.getLast?_cons, h]; rfl)

theorem isBlank_sigma (b : Bool) : isBlank (if b then Char.ofNat 0x3c2 else Char.ofNat 0x3c3) = false := by
  cases b <;> decide

theorem head_lower (c : Char) (r : List Char) :
    ∃ d, (lowerFrom [] (c :: r) []).head? = some d ∧ (isBlank c = false → isBlank d = false) := by
  rw [lowerFrom]
  split
  · exact ⟨_, head_lowerFrom rfl, fun _ => isBlank_sigma _⟩
  · split
    · exact ⟨_, head_lowerFrom rfl, fun _ => by decide⟩
    · exact ⟨_, head_lowerFrom rfl, isBlank_lowerChar⟩

/-- A text that ends without a blank does so in lower case. -/
theorem last_lowerFrom (hs : ∀ c ∈ s.getLast?, isBlank c = false)
    (hout : s = [] → ∀ d ∈ out.head?, isBlank d = false) :
    ∀ d ∈ (lowerFrom before s out).getLast?, isBlank d = false := by
  induction s generalizing before out with
  | nil =>
    rw [lowerFrom, List.getLast?_reverse]
    exact hout rfl
  | cons c r ih =>
    have hr : ∀ d ∈ r.getLast?, isBlank d = false := by
      intro d hd
      refine hs d ?_
      rw [List.getLast?_cons, hd]
      rfl
    have hc : r = [] → isBlank c = false := by
      rintro rfl
      exact hs c rfl
    have hdots : isBlank (Char.ofNat 0x307) = false := by decide
    rw [lowerFrom]
    split
    · refine ih hr fun _ d hd => ?_
      cases hd
      exact isBlank_sigma _
    · split
      · refine ih hr fun _ d hd => ?_
        cases hd
        exact hdots
      · refine ih hr fun hnil d hd => ?_
        cases hd
        exact isBlank_lowerChar (hc hnil)

theorem trim_lower {s : String} (h : trim s = s) : trim (lower s) = lower s := by
  rw [trim_eq_self_iff] at h ⊢
  rw [lower, String.toList_ofList]
  refine ⟨?_, last_lowerFrom h.2 (by simp)⟩
  cases hs : s.toList with
  | nil => simp [lowerFrom]
  | cons c r =>
    obtain ⟨d, hd, hblank⟩ := head_lower c r
    rw [hd]
    rintro x ⟨⟩
    exact hblank (h.1 c (by rw [hs]; rfl))

theorem lower_ne_empty {s : String} (h : s ≠ "") : lower s ≠ "" := by
  intro hlower
  have hnil : lowerFrom [] s.toList [] = [] := by
    simpa [lower] using congrArg String.toList hlower
  cases hs : s.toList with
  | nil => exact h (String.toList_inj.mp hs)
  | cons c r =>
    obtain ⟨d, hd, -⟩ := head_lower c r
    rw [← hs, hnil] at hd
    cases hd

end ShapeSearch.Text
