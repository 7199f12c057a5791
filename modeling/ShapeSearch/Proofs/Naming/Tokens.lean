import ShapeSearch.Proofs.Naming.Boundaries

/-!
# Boundaries that are cut

Two boundaries compete if one of them is inside what a cut at the other takes: in `aBCd` and in `ABcD`
(`Crowded`).  Of such boundaries one is lost, so the text becomes shorter than one that is cut everywhere; if no
two compete, every boundary is cut (`cutFree_cases`).  Each blank makes one word more (`Cut.length_wordsOf`), so a
name is cut into its words exactly if no two of its boundaries compete (`tokenize_eq_iff`).
-/

namespace ShapeSearch.Naming

variable {a b : Char} {r s : List Char}

/-- One text is another with blanks between some of its letters and digits. -/
inductive Cut : List Char → List Char → Prop
  | nil : Cut [] []
  | keep (a : Char) {s t : List Char} : Cut s t → Cut (a :: s) (a :: t)
  | blank {a b : Char} {s t : List Char} : a.isAlphanum = true → b.isAlphanum = true → Cut (b :: s) t →
      Cut (a :: b :: s) (a :: ' ' :: t)

theorem isAlphanum_of_isBoundary (h : isBoundary a b r) : a.isAlphanum = true ∧ b.isAlphanum = true := by
  simp only [isBoundary, Bool.or_eq_true, Bool.and_eq_true] at h
  grind [isAlphanum_eq]

theorem Cut.refl (s : List Char) : Cut s s := by
  induction s with
  | nil => exact .nil
  | cons a s ih => exact .keep a ih

theorem cut_cutEvery (s : List Char) : Cut s (cutEvery s) := by
  fun_induction cutEvery s with
  | case1 a b r h ih => exact .blank (isAlphanum_of_isBoundary h).1 (isAlphanum_of_isBoundary h).2 ih
  | case2 a b r h ih => exact .keep a ih
  | case3 s => exact .refl s

theorem cut_cutFree (n : Nat) (s : List Char) : Cut s (cutFree n s) := by
  fun_induction cutFree n s with
  | case1 n a b r h ih =>
    have hcut := isAlphanum_of_isBoundary (Bool.and_eq_true_iff.mp h).2
    exact .blank hcut.1 hcut.2 ih
  | case2 n a b r h ih => exact .keep a ih
  | case3 n s => exact .refl s

theorem Cut.head? {t : List Char} (h : Cut s t) : t.head? = s.head? := by
  cases h <;> rfl

/-- A letter or digit adds a word if it ends one. -/
theorem length_wordsOf_cons (a : Char) (s : List Char) : (wordsOf (a :: s)).length =
    (wordsOf s).length + if a.isAlphanum && !s.head?.any Char.isAlphanum then 1 else 0 := by
  by_cases ha : a.isAlphanum = true
  · cases s with
    | nil => simp [wordsOf, List.splitOnP_cons_eq_if_modifyHead, ha]
    | cons b s =>
      obtain ⟨w, ws, hw⟩ := List.exists_cons_of_ne_nil (List.splitOnP_ne_nil (!·.isAlphanum) s)
      by_cases hb : b.isAlphanum = true <;> simp [wordsOf, List.splitOnP_cons_eq_if_modifyHead, ha, hb, hw]
  · simp [wordsOf_cons_of_not, ha]

theorem Cut.length_wordsOf {t : List Char} (h : Cut s t) :
    (wordsOf t).length + s.length = (wordsOf s).length + t.length := by
  induction h with
  | nil => rfl
  | keep a h ih =>
    rw [length_wordsOf_cons, length_wordsOf_cons, h.head?, List.length_cons, List.length_cons]
    omega
  | blank ha hb h ih =>
    rw [length_wordsOf_cons, wordsOf_cons_of_not (by decide), length_wordsOf_cons _ (_ :: _)]
    simp only [List.head?_cons, Option.any_some, ha, hb, List.length_cons] at ih ⊢
    simp
    omega

/-! ## Boundaries that compete -/

/-- Four characters with two boundaries of which a cut leaves one. -/
def crowds (a b c d : Char) : Bool :=
  (a.isLower || a.isDigit) && b.isUpper && c.isUpper && d.isLower ||
    a.isUpper && b.isUpper && c.isLower && d.isUpper

/-- A text has two boundaries so close that one cut takes a character of the other. -/
def Crowded (s : List Char) : Prop :=
  ∃ a b c d, [a, b, c, d] <:+: s ∧ crowds a b c d = true

theorem crowded_cons {x : Char} : Crowded (x :: s) ↔
    (∃ b c d r, s = b :: c :: d :: r ∧ crowds x b c d = true) ∨ Crowded s := by
  simp only [Crowded, List.infix_cons_iff, or_and_right, exists_or]
  refine or_congr ⟨?_, ?_⟩ Iff.rfl
  · rintro ⟨a, b, c, d, ⟨r, hr⟩, h⟩
    obtain ⟨rfl, rfl⟩ := List.cons.inj hr
    exact ⟨b, c, d, r, rfl, h⟩
  · rintro ⟨b, c, d, r, rfl, h⟩
    exact ⟨x, b, c, d, ⟨r, rfl⟩, h⟩

/-- Whether a text opens with a boundary. -/
def opensCut : List Char → Bool
  | a :: b :: r => isBoundary a b r
  | _ => false

theorem opensCut_of_short (h : s.length ≤ 1) : opensCut s = false := by
  rcases s with _ | ⟨a, _ | ⟨b, r⟩⟩
  · rfl
  · rfl
  · simp at h

/-- Of the first few boundaries of a text one is there, or two others compete. -/
def Blocked (taken : Nat) (s : List Char) : Prop :=
  (∃ i < taken, opensCut (s.drop i) = true) ∨ Crowded s

/-- Behind a cut, the characters it takes hold another boundary if the two compete. -/
theorem opensCut_after_cut (h : isBoundary a b r) :
    (∃ i < if a.isUpper then 2 else 1, opensCut ((b :: r).drop i) = true) ↔
      ∃ c d s, r = c :: d :: s ∧ crowds a b c d = true := by
  have hb : b.isUpper = true := by grind [isBoundary]
  cases ha : a.isUpper with
  | true =>
    obtain ⟨c, s, rfl, hc⟩ : ∃ c s, r = c :: s ∧ c.isLower = true := by
      cases r <;> simp_all [isBoundary, apart_of_isUpper]
    have hup := isUpper_of_isLower hc
    rw [if_pos rfl, Nat.exists_lt_succ_right, Nat.exists_lt_succ_right]
    cases s <;> simp [opensCut, isBoundary, crowds, apart_of_isUpper ha, ha, hb, hc, hup]
  | false =>
    have hlow : (a.isLower || a.isDigit) = true := by simpa [isBoundary, ha, hb] using h
    rcases r with _ | ⟨c, _ | ⟨d, s⟩⟩ <;> simp [opensCut, isBoundary, crowds, apart_of_isUpper hb, ha, hb, hlow]

theorem blocked_cut (h : isBoundary a b r) :
    Blocked 0 (a :: b :: r) ↔ Blocked (if a.isUpper then 2 else 1) (b :: r) := by
  rw [Blocked, Blocked, opensCut_after_cut h, crowded_cons]
  simp

theorem blocked_keep {n : Nat} (h : isBoundary a b r = false) :
    Blocked n (a :: b :: r) ↔ Blocked (n - 1) (b :: r) := by
  have hfront : ¬ ∃ b' c d s, b :: r = b' :: c :: d :: s ∧ crowds a b' c d = true := by
    rintro ⟨_, c, d, s, hs, hcrowd⟩
    cases hs
    simp [isBoundary] at h
    grind [crowds]
  rw [Blocked, Blocked, crowded_cons, or_iff_right hfront]
  refine or_congr ⟨?_, ?_⟩ Iff.rfl
  · rintro ⟨i, hi, hcut⟩
    cases i with
    | zero => rw [List.drop_zero, opensCut, h] at hcut; cases hcut
    | succ i => exact ⟨i, by omega, hcut⟩
  · rintro ⟨i, hi, hcut⟩
    exact ⟨i + 1, by omega, hcut⟩

theorem length_cutEvery (a b : Char) (r : List Char) :
    (cutEvery (a :: b :: r)).length = (cutEvery (b :: r)).length + if isBoundary a b r then 2 else 1 := by
  rw [cutEvery]
  split <;> rfl

theorem length_cutFree_le (n : Nat) (s : List Char) : (cutFree n s).length ≤ (cutEvery s).length := by
  fun_induction cutFree n s with
  | case1 n a b r h ih =>
    rw [length_cutEvery, if_pos (Bool.and_eq_true_iff.mp h).2]
    simpa using ih
  | case2 n a b r h ih =>
    rw [length_cutEvery, List.length_cons]
    split <;> omega
  | case3 n s h =>
    rw [cutEvery.eq_2 s h]

/-- The free boundaries are all of them, unless one is taken or two compete. -/
theorem cutFree_cases (n : Nat) (s : List Char) :
    (Blocked n s → (cutFree n s).length < (cutEvery s).length) ∧ (¬ Blocked n s → cutFree n s = cutEvery s) := by
  fun_induction cutFree n s with
  | case1 n a b r h ih =>
    obtain ⟨hzero, hcut⟩ := Bool.and_eq_true_iff.mp h
    rw [of_decide_eq_true hzero, blocked_cut hcut, cutEvery, if_pos hcut]
    exact ⟨fun hb => by simpa using ih.1 hb, fun hb => by rw [ih.2 hb]⟩
  | case2 n a b r h ih =>
    cases hcut : isBoundary a b r with
    | true =>
      have hle := length_cutFree_le (n - 1) (b :: r)
      refine ⟨fun _ => ?_, fun hb => absurd (.inl ⟨0, ?_, hcut⟩) hb⟩
      · rw [length_cutEvery, hcut, List.length_cons, if_pos rfl]
        omega
      · exact Nat.pos_of_ne_zero fun hzero => h (by simp [hzero, hcut])
    | false =>
      rw [blocked_keep hcut, cutEvery, hcut, if_neg (by simp)]
      exact ⟨fun hb => by simpa using ih.1 hb, fun hb => by rw [ih.2 hb]⟩
  | case3 n s hs =>
    have hshort : s.length ≤ 1 := by
      rcases s with _ | ⟨a, _ | ⟨b, r⟩⟩
      · simp
      · simp
      · exact (hs a b r rfl).elim
    refine ⟨fun hb => ?_, fun _ => (cutEvery.eq_2 s hs).symm⟩
    rcases hb with ⟨i, -, hcut⟩ | ⟨a, b, c, d, hpart, -⟩
    · rw [opensCut_of_short (by simp; omega)] at hcut
      cases hcut
    · exact absurd hpart.length_le (by simp; omega)

theorem tokenize_eq_iff (name : String) : tokenize name = lowerWords (cutFree 0 name.toList) ∧
    (tokenize name = lowerWords (cutEvery name.toList) ↔ ¬ Crowded name.toList) := by
  refine ⟨tokenize_eq name, ?_⟩
  rw [tokenize_eq]
  refine ⟨fun heq hcrowd => ?_, fun hcrowd => ?_⟩
  · have hlength := congrArg List.length heq
    simp only [lowerWords, List.length_map] at hlength
    have hfree := (cut_cutFree 0 name.toList).length_wordsOf
    have hevery := (cut_cutEvery name.toList).length_wordsOf
    have hlt := (cutFree_cases 0 name.toList).1 (.inr hcrowd)
    omega
  · rw [(cutFree_cases 0 name.toList).2 (by simpa [Blocked] using hcrowd)]

theorem tokenize_crowded : tokenize "XMLToJson" = ["xml", "tojson"] ∧
    lowerWords (cutEvery "XMLToJson".toList) = ["xml", "to", "json"] := by
  decide +kernel

end ShapeSearch.Naming
