import Mathlib.Algebra.Order.Field.Power
import Mathlib.Algebra.Order.Field.Rat
import Mathlib.Data.Rat.Cast.Order
import Mathlib.Order.Compare
import Mathlib.Order.WithBot
import ShapeSearch.Number

/-!
# The number line

Every defined number has a place on the rational line with its two ends (`Number.line`), and the
comparisons of `Number` are those of the line:

    a.isDefined → b.isDefined → (a.lt b ↔ a.line < b.line)        (lt_iff_line)
    a.isDefined → b.isDefined → (a.eq b ↔ a.line = b.line)        (eq_iff_line)

So on defined numbers `lt` is a strict order that compares any two, which ranking relies on.
-/

namespace ShapeSearch.Number

/-- The rational numbers between two ends. -/
abbrev Line := WithBot (WithTop ℚ)

/-- The place of an exact value on the line; an undefined one has none and is put at the lower end. -/
def Exact.line : Exact → Line
  | .finite m e => ((m * 2 ^ e : ℚ) : WithTop ℚ)
  | .negInf => ⊥
  | .posInf => (⊤ : WithTop ℚ)
  | .undefined => ⊥

/-- The place of a number on the line. -/
def line (a : Number) : Line := a.exact.line

theorem isDefined_iff (a : Number) : a.isDefined = true ↔ a.exact ≠ .undefined := by
  simp [isDefined]

@[simp] theorem isDefined_int (n : Int) : (Number.int n).isDefined = true := by
  simp [isDefined, exact]

/-! ## Comparing scaled numbers -/

theorem scaled_eq (m e k : Int) (h : k ≤ e) :
    ((m * Nat.pow 2 (e - k).toNat : Int) : ℚ) = m * 2 ^ e / 2 ^ k := by
  have hk : ((e - k).toNat : Int) = e - k := Int.toNat_of_nonneg (by omega)
  have hp : ((Nat.pow 2 (e - k).toNat : Nat) : ℚ) = 2 ^ (e - k) := by
    show ((2 ^ (e - k).toNat : Nat) : ℚ) = 2 ^ (e - k)
    rw [Nat.cast_pow, Nat.cast_ofNat, ← zpow_natCast, hk]
  rw [Int.cast_mul, Int.cast_natCast, hp, zpow_sub₀ (by norm_num), mul_div_assoc]

theorem compareScaled_eq (m₁ e₁ m₂ e₂ : Int) :
    compareScaled m₁ e₁ m₂ e₂ = compare (m₁ * 2 ^ e₁ : ℚ) (m₂ * 2 ^ e₂) := by
  unfold compareScaled
  have h₁ := scaled_eq m₁ e₁ (min e₁ e₂) (by omega)
  have h₂ := scaled_eq m₂ e₂ (min e₁ e₂) (by omega)
  have hpos : (0 : ℚ) < 2 ^ min e₁ e₂ := zpow_pos (by norm_num) _
  -- both sides are scaled down by one power of two, which keeps their order
  have hlt : ∀ a b : Int, ∀ x y : ℚ, (a : ℚ) = x / 2 ^ min e₁ e₂ → (b : ℚ) = y / 2 ^ min e₁ e₂ →
      (a < b ↔ x < y) := by
    intro a b x y ha hb
    rw [← Int.cast_lt (R := ℚ), ha, hb, div_lt_div_iff_of_pos_right hpos]
  rcases lt_trichotomy (m₁ * 2 ^ e₁ : ℚ) (m₂ * 2 ^ e₂) with h | h | h
  · rw [compare_lt_iff_lt.mpr h, compare_lt_iff_lt, hlt _ _ _ _ h₁ h₂]
    exact h
  · rw [compare_eq_iff_eq.mpr h, compare_eq_iff_eq]
    have : ((m₁ * Nat.pow 2 (e₁ - min e₁ e₂).toNat : Int) : ℚ) =
        (m₂ * Nat.pow 2 (e₂ - min e₁ e₂).toNat : Int) := by rw [h₁, h₂, h]
    exact_mod_cast this
  · rw [compare_gt_iff_gt.mpr h, compare_gt_iff_gt]
    exact (hlt _ _ _ _ h₂ h₁).mpr h

theorem Exact.compare?_eq {a b : Exact} (ha : a ≠ .undefined) (hb : b ≠ .undefined) :
    a.compare? b = some (compare a.line b.line) := by
  have bot_lt (x : WithTop ℚ) : compare (⊥ : Line) x = .lt :=
    compare_lt_iff_lt.mpr (WithBot.bot_lt_coe x)
  have gt_bot (x : WithTop ℚ) : compare (x : Line) ⊥ = .gt :=
    compare_gt_iff_gt.mpr (WithBot.bot_lt_coe x)
  have lt_top (x : ℚ) : compare ((x : WithTop ℚ) : Line) (⊤ : WithTop ℚ) = .lt :=
    compare_lt_iff_lt.mpr (WithBot.coe_lt_coe.mpr (WithTop.coe_lt_top x))
  have top_gt (x : ℚ) : compare ((⊤ : WithTop ℚ) : Line) (x : WithTop ℚ) = .gt :=
    compare_gt_iff_gt.mpr (WithBot.coe_lt_coe.mpr (WithTop.coe_lt_top x))
  cases a with
  | undefined => exact absurd rfl ha
  | finite m₁ e₁ =>
    cases b with
    | undefined => exact absurd rfl hb
    | finite m₂ e₂ =>
      simp only [Exact.compare?, Exact.line, compareScaled_eq, Option.some.injEq]
      rcases lt_trichotomy (m₁ * 2 ^ e₁ : ℚ) (m₂ * 2 ^ e₂) with h | h | h
      · rw [compare_lt_iff_lt.mpr h, eq_comm, compare_lt_iff_lt]
        exact_mod_cast h
      · rw [compare_eq_iff_eq.mpr h, eq_comm, compare_eq_iff_eq, h]
      · rw [compare_gt_iff_gt.mpr h, eq_comm, compare_gt_iff_gt]
        exact_mod_cast h
    | negInf => simp only [Exact.compare?, Exact.line, gt_bot]
    | posInf => simp only [Exact.compare?, Exact.line, lt_top]
  | negInf =>
    cases b with
    | undefined => exact absurd rfl hb
    | finite m₂ e₂ => simp only [Exact.compare?, Exact.line, bot_lt]
    | negInf => simp [Exact.compare?, Exact.line]
    | posInf => simp only [Exact.compare?, Exact.line, bot_lt]
  | posInf =>
    cases b with
    | undefined => exact absurd rfl hb
    | finite m₂ e₂ => simp only [Exact.compare?, Exact.line, top_gt]
    | negInf => simp only [Exact.compare?, Exact.line, gt_bot]
    | posInf => simp [Exact.compare?, Exact.line]

/-! ## Comparing numbers -/

section Order

variable {a b : Number}

theorem compare?_exact (ha : a.isDefined) (hb : b.isDefined) :
    a.exact.compare? b.exact = some (compare a.line b.line) :=
  Exact.compare?_eq ((isDefined_iff a).mp ha) ((isDefined_iff b).mp hb)

theorem lt_iff_line (ha : a.isDefined) (hb : b.isDefined) :
    a.lt b = true ↔ a.line < b.line := by
  rw [lt, compare?_exact ha hb, beq_iff_eq, Option.some.injEq, compare_lt_iff_lt]

@[simp] theorem int_lt_int (m n : Int) : (Number.int m).lt (.int n) = true ↔ m < n := by
  rw [lt_iff_line (isDefined_int m) (isDefined_int n)]
  simp [line, exact, Exact.line]

theorem eq_iff_line (ha : a.isDefined) (hb : b.isDefined) :
    a.eq b = true ↔ a.line = b.line := by
  rw [eq, compare?_exact ha hb, beq_iff_eq, Option.some.injEq, compare_eq_iff_eq]

/-- Of two defined numbers the first is below the second, or it is not. -/
theorem not_lt_iff_line (ha : a.isDefined) (hb : b.isDefined) :
    a.lt b = false ↔ b.line ≤ a.line := by
  rw [← Bool.not_eq_true, lt_iff_line ha hb, not_lt]

theorem lt_of_not_le (ha : a.isDefined) (hb : b.isDefined) (h : a.le b = false) :
    b.lt a = true := by
  rw [lt_iff_line hb ha]
  rw [le, compare?_exact ha hb] at h
  by_contra hc
  rcases lt_or_eq_of_le (not_lt.mp hc) with hlt | heq
  · rw [compare_lt_iff_lt.mpr hlt] at h
    cases h
  · rw [compare_eq_iff_eq.mpr heq] at h
    cases h

end Order

end ShapeSearch.Number
