import Mathlib.Algebra.Order.Field.Power
import Mathlib.Algebra.Order.Field.Rat
import Mathlib.Tactic.FieldSimp
import Mathlib.Tactic.Linarith
import Mathlib.Tactic.NormNum
import Mathlib.Tactic.Positivity
import Mathlib.Tactic.Ring
import ShapeSearch.Rounding

/-!
# What rounding gives

Rounding is described by the exact quotient.  `roundDiv` gives the whole number that is `Nearest`, and
`binaryPlace` is the place of the leading binary digit:

    0 < den → Nearest (num / den) m → roundDiv num den = m                        (roundDiv_eq)
    0 < num → 0 < den → 2 ^ b ≤ num / den < 2 ^ (b + 1)                            (binaryPlace_spec)

A float `m · 2 ^ q` is given back by every quotient inside its `Cell`, the interval of numbers that round
to it:

    Cell m q (num / den) → nearestBits num den = (q + 1074) * 2 ^ 52 + m           (nearestBits_eq)
-/

namespace ShapeSearch.Rounding

variable {num den m n : ℕ} {q e : ℤ} {r : ℚ}

/-! ## Whole numbers -/

/-- A whole number is nearest to `r`; of two nearest ones the even one counts. -/
def Nearest (r : ℚ) (m : ℕ) : Prop :=
  m - 1 / 2 ≤ r ∧ r ≤ m + 1 / 2 ∧ (m % 2 = 0 ∨ (m - 1 / 2 < r ∧ r < m + 1 / 2))

theorem roundDiv_eq {num den m : Nat} (hd : 0 < den) (h : Nearest (num / den) m) :
    roundDiv num den = m := by
  obtain ⟨hlo, hhi, htie⟩ := h
  have hq : (0 : ℚ) < den := by exact_mod_cast hd
  -- the bounds on whole numbers
  have hlo' : 2 * (m * den) ≤ 2 * num + den := by
    rw [le_div_iff₀ hq] at hlo
    have : (2 * (m * den) : ℚ) ≤ 2 * num + den := by linarith
    exact_mod_cast this
  have hhi' : 2 * num ≤ 2 * (m * den) + den := by
    rw [div_le_iff₀ hq] at hhi
    have : (2 * num : ℚ) ≤ 2 * (m * den) + den := by linarith
    exact_mod_cast this
  have htie' : m % 2 = 0 ∨ (2 * (m * den) < 2 * num + den ∧ 2 * num < 2 * (m * den) + den) := by
    refine htie.imp_right fun ⟨hl, hr⟩ => ⟨?_, ?_⟩
    · rw [lt_div_iff₀ hq] at hl
      have : (2 * (m * den) : ℚ) < 2 * num + den := by linarith
      exact_mod_cast this
    · rw [div_lt_iff₀ hq] at hr
      have : (2 * num : ℚ) < 2 * (m * den) + den := by linarith
      exact_mod_cast this
  have hsplit := Nat.div_add_mod num den
  have hmod := Nat.mod_lt num hd
  -- the quotient without its fraction is `m` or the number before it
  have hle : num / den ≤ m := by
    by_contra hc
    have := Nat.mul_le_mul_left den (Nat.lt_of_not_le hc)
    rw [Nat.mul_succ, Nat.mul_comm den m] at this
    omega
  have hge : m ≤ num / den + 1 := by
    by_contra hc
    have := Nat.mul_le_mul_left den (Nat.lt_of_not_le hc)
    rw [Nat.mul_succ, Nat.mul_succ, Nat.mul_comm den m] at this
    omega
  rcases Nat.lt_or_eq_of_le hle with hlt | heq
  · obtain rfl : m = num / den + 1 := by omega
    rw [Nat.add_mul, Nat.mul_comm (num / den)] at hlo' hhi' htie'
    unfold roundDiv
    simp only
    split
    · omega
    · split
      · rfl
      · split
        · omega
        · rfl
  · subst heq
    rw [Nat.mul_comm (num / den)] at hlo' hhi' htie'
    unfold roundDiv
    simp only
    split
    · rfl
    · split
      · omega
      · split
        · rfl
        · omega

/-! ## The leading binary digit -/

theorem cast_pow_toNat (b : ℕ) (k : ℤ) (hb : 0 < b) :
    ((Nat.pow b k.toNat : ℕ) : ℚ) / (Nat.pow b (-k).toNat : ℕ) = (b : ℚ) ^ k := by
  have hne : (b : ℚ) ≠ 0 := by positivity
  simp only [Nat.pow_eq, Nat.cast_pow]
  rcases Int.le_total 0 k with h | h
  · rw [Int.toNat_of_nonpos (by omega : -k ≤ 0), pow_zero, div_one, ← zpow_natCast,
      Int.toNat_of_nonneg h]
  · rw [Int.toNat_of_nonpos h, pow_zero, ← zpow_natCast, Int.toNat_of_nonneg (by omega : 0 ≤ -k),
      zpow_neg, one_div, inv_inv]

theorem log2_spec (h : 0 < n) : (2 : ℚ) ^ (n.log2 : ℤ) ≤ n ∧ (n : ℚ) < 2 ^ ((n.log2 : ℤ) + 1) := by
  have hlo := Nat.log2_self_le (by omega : n ≠ 0)
  have hhi : n < 2 ^ (n.log2 + 1) := Nat.lt_log2_self
  constructor
  · rw [zpow_natCast]
    exact_mod_cast hlo
  · have : ((n.log2 : ℤ) + 1) = ((n.log2 + 1 : ℕ) : ℤ) := by push_cast; rfl
    rw [this, zpow_natCast]
    exact_mod_cast hhi

theorem binaryPlace_spec (hn : 0 < num) (hd : 0 < den) :
    (2 : ℚ) ^ binaryPlace num den ≤ num / den ∧ (num / den : ℚ) < 2 ^ (binaryPlace num den + 1) := by
  have hdq : (0 : ℚ) < den := by exact_mod_cast hd
  obtain ⟨hnlo, hnhi⟩ := log2_spec hn
  obtain ⟨hdlo, hdhi⟩ := log2_spec hd
  set k : ℤ := (num.log2 : ℤ) - den.log2 with hk
  have htwo : (2 : ℚ) ≠ 0 := by norm_num
  -- the quotient lies within one place of the difference of the two lengths
  have hupper : (num / den : ℚ) < 2 ^ (k + 1) := by
    rw [div_lt_iff₀ hdq]
    calc (num : ℚ) < 2 ^ ((num.log2 : ℤ) + 1) := hnhi
      _ = 2 ^ (k + 1) * 2 ^ (den.log2 : ℤ) := by rw [← zpow_add₀ htwo, hk]; congr 1; ring
      _ ≤ 2 ^ (k + 1) * den := by gcongr
  have hlower : (2 : ℚ) ^ (k - 1) < num / den := by
    rw [lt_div_iff₀ hdq]
    calc (2 : ℚ) ^ (k - 1) * den < 2 ^ (k - 1) * 2 ^ ((den.log2 : ℤ) + 1) := by gcongr
      _ = 2 ^ (num.log2 : ℤ) := by rw [← zpow_add₀ htwo, hk]; congr 1; ring
      _ ≤ num := hnlo
  have htest : den * Nat.pow 2 k.toNat ≤ num * Nat.pow 2 (-k).toNat ↔ (2 : ℚ) ^ k ≤ num / den := by
    have hp : (0 : ℚ) < (Nat.pow 2 (-k).toNat : ℕ) := by
      have : 0 < Nat.pow 2 (-k).toNat := Nat.pow_pos (by norm_num)
      exact_mod_cast this
    rw [show (2 : ℚ) = ((2 : ℕ) : ℚ) by norm_num, ← cast_pow_toNat 2 k (by norm_num),
      div_le_div_iff₀ hp hdq, mul_comm, ← Nat.cast_mul, ← Nat.cast_mul, Nat.cast_le]
  unfold binaryPlace
  simp only [← hk]
  split
  · next h => exact ⟨htest.mp h, hupper⟩
  · next h =>
    have hlt : (num / den : ℚ) < 2 ^ k := not_le.mp fun hc => h (htest.mpr hc)
    rw [show k - 1 + 1 = k by ring]
    exact ⟨hlower.le, hlt⟩

theorem binaryPlace_lt (hn : 0 < num) (hd : 0 < den) {k : ℤ} (h : (num / den : ℚ) < 2 ^ k) :
    binaryPlace num den < k :=
  (zpow_lt_zpow_iff_right₀ (by norm_num : (1 : ℚ) < 2)).mp
    ((binaryPlace_spec hn hd).1.trans_lt h)

theorem binaryPlace_ge (hn : 0 < num) (hd : 0 < den) {k : ℤ} (h : (2 : ℚ) ^ k ≤ num / den) :
    k ≤ binaryPlace num den := by
  have := (zpow_lt_zpow_iff_right₀ (by norm_num : (1 : ℚ) < 2)).mp
    (h.trans_lt (binaryPlace_spec hn hd).2)
  omega

/-! ## Floats -/

/-- The mantissa and the exponent of a positive float. -/
structure IsFloat (m : ℕ) (q : ℤ) : Prop where
  pos : 0 < m
  lt : m < 2 ^ 53
  least : -1074 ≤ q
  most : q ≤ 971
  full : q = -1074 ∨ 2 ^ 52 ≤ m

/-- The next float below `m · 2 ^ q` is half as far as the next above. -/
def Narrow (m : ℕ) (q : ℤ) : Prop := m = 2 ^ 52 ∧ -1074 < q

instance (m : ℕ) (q : ℤ) : Decidable (Narrow m q) := inferInstanceAs (Decidable (_ ∧ _))

/-- How far the numbers that round to `m · 2 ^ q` reach below it, in units of `2 ^ q`. -/
def reach (m : ℕ) (q : ℤ) : ℚ := if Narrow m q then 1 / 4 else 1 / 2

/-- The numbers that round to `m · 2 ^ q`; the ends count if the mantissa is even. -/
def Cell (m : ℕ) (q : ℤ) (r : ℚ) : Prop :=
  (m - reach m q) * 2 ^ q ≤ r ∧ r ≤ (m + 1 / 2) * 2 ^ q ∧
    (m % 2 = 0 ∨ ((m - reach m q) * 2 ^ q < r ∧ r < (m + 1 / 2) * 2 ^ q))

theorem reach_le (m : ℕ) (q : ℤ) : reach m q ≤ 1 / 2 := by
  unfold reach
  split <;> norm_num

theorem Cell.pos (h : Cell m q r) (hf : IsFloat m q) : 0 < r := by
  have hm : (1 : ℚ) ≤ m := by exact_mod_cast hf.pos
  have hq : (0 : ℚ) < 2 ^ q := by positivity
  have hr := reach_le m q
  have : (0 : ℚ) < (m - reach m q) * 2 ^ q := by
    apply mul_pos _ hq
    linarith
  linarith [h.1]

/-- What stands between two numbers in units of the last place is nearest in these units. -/
theorem Nearest.of_scaled {u : ℚ} (hu : 0 < u) (hlo : (m - 1 / 2) * u ≤ r) (hhi : r ≤ (m + 1 / 2) * u)
    (htie : m % 2 = 0 ∨ ((m - 1 / 2) * u < r ∧ r < (m + 1 / 2) * u)) : Nearest (r / u) m := by
  refine ⟨?_, ?_, htie.imp_right fun ⟨hl, hh⟩ => ⟨?_, ?_⟩⟩
  · rwa [le_div_iff₀ hu]
  · rwa [div_le_iff₀ hu]
  · rwa [lt_div_iff₀ hu]
  · rwa [div_lt_iff₀ hu]

theorem scaled_quotient (num den : ℕ) (e : ℤ) :
    ((num * Nat.pow 2 (-e).toNat : ℕ) : ℚ) / (den * Nat.pow 2 e.toNat : ℕ) = num / den / 2 ^ e := by
  have h : ((Nat.pow 2 e.toNat : ℕ) : ℚ) / (Nat.pow 2 (-e).toNat : ℕ) = 2 ^ e :=
    cast_pow_toNat 2 e (by norm_num)
  rw [Nat.cast_mul, Nat.cast_mul, ← h, div_div_div_eq]

theorem nearestBits_of (hn : 0 < num) (hd : 0 < den) (he : lastPlace num den = e) (h : Nearest (num / den / 2 ^ e) m)
    (hm : (e + 1074).toNat * 2 ^ 52 + m ≤ 2047 * 2 ^ 52) : nearestBits num den = (e + 1074).toNat * 2 ^ 52 + m := by
  have hden : 0 < den * Nat.pow 2 e.toNat := Nat.mul_pos hd (Nat.pow_pos (by norm_num))
  have hround : roundDiv (num * Nat.pow 2 (-e).toNat) (den * Nat.pow 2 e.toNat) = m :=
    roundDiv_eq hden (by rw [scaled_quotient]; exact h)
  simp only [Nat.pow_eq] at hround
  unfold nearestBits
  rw [if_neg (by omega)]
  simp only [he, Nat.pow_eq, hround]
  exact Nat.min_eq_left hm

/-- Every quotient in the cell of a float rounds to it. -/
theorem nearestBits_eq (hn : 0 < num) (hd : 0 < den) (hf : IsFloat m q) (h : Cell m q (num / den)) :
    nearestBits num den = (q + 1074).toNat * 2 ^ 52 + m := by
  obtain ⟨hlo, hhi, htie⟩ := h
  have hu : (0 : ℚ) < 2 ^ q := by positivity
  have htwo : (2 : ℚ) ≠ 0 := by norm_num
  have hm : (m : ℚ) + 1 / 2 < 2 ^ 53 := by
    have : (m : ℚ) + 1 ≤ 2 ^ 53 := by exact_mod_cast hf.lt
    linarith
  -- the quotient stays below the next power of two
  have hplace : binaryPlace num den < q + 53 := by
    apply binaryPlace_lt hn hd
    calc (num / den : ℚ) ≤ (m + 1 / 2) * 2 ^ q := hhi
      _ < 2 ^ 53 * 2 ^ q := by gcongr
      _ = 2 ^ (q + 53) := by rw [zpow_add₀ htwo, mul_comm]; norm_cast
  by_cases hnormal : q = -1074 ∨ (2 : ℚ) ^ (q + 52) ≤ num / den
  · -- the last place of the quotient is that of the float
    have he : lastPlace num den = q := by
      have hl := hf.least
      unfold lastPlace
      rcases hnormal with rfl | hge
      · omega
      · have := binaryPlace_ge hn hd hge
        omega
    have hle : ((m : ℚ) - 1 / 2) * 2 ^ q ≤ (m - reach m q) * 2 ^ q := by
      have := reach_le m q
      gcongr
    refine nearestBits_of hn hd he (.of_scaled hu (hle.trans hlo) hhi ?_) ?_
    · exact htie.imp_right fun ⟨hl, hh⟩ => ⟨hle.trans_lt hl, hh⟩
    · have := hf.lt
      have := hf.most
      have := hf.least
      omega
  · -- the quotient is below the power of two that the float is, so its last place is one lower
    push Not at hnormal
    obtain ⟨hq, hlt⟩ := hnormal
    have hleast := hf.least
    have hmost := hf.most
    have hpow : (2 : ℚ) ^ (q + 52) = 2 ^ 52 * 2 ^ q := by rw [zpow_add₀ htwo, mul_comm]; norm_cast
    have hhalf : (2 : ℚ) ^ q = 2 * 2 ^ (q - 1) := by rw [← zpow_one_add₀ htwo]; congr 1; ring
    obtain rfl : m = 2 ^ 52 := by
      have hfull : 2 ^ 52 ≤ m := hf.full.resolve_left hq
      have : ((m : ℚ) - reach m q) * 2 ^ q < 2 ^ 52 * 2 ^ q := hlo.trans_lt (hpow ▸ hlt)
      have := lt_of_mul_lt_mul_right this hu.le
      have hlt' : (m : ℚ) < 2 ^ 52 + 1 := by linarith [reach_le m q]
      have : m < 2 ^ 52 + 1 := by exact_mod_cast hlt'
      omega
    have hreach : reach (2 ^ 52) q = 1 / 4 := if_pos ⟨rfl, by omega⟩
    rw [hreach] at hlo
    push_cast at hlo
    have he : lastPlace num den = q - 1 := by
      have hup := binaryPlace_lt hn hd hlt
      have hdown : q + 51 ≤ binaryPlace num den := by
        apply binaryPlace_ge hn hd
        refine le_trans ?_ hlo
        rw [zpow_add₀ htwo, mul_comm]
        gcongr
        norm_num
      unfold lastPlace
      omega
    have hu' : (0 : ℚ) < 2 ^ (q - 1) := by positivity
    have hnear : Nearest (num / den / 2 ^ (q - 1)) (2 ^ 53) := by
      refine .of_scaled hu' ?_ ?_ (.inl rfl)
      · rw [hhalf] at hlo
        push_cast
        linarith
      · rw [hpow, hhalf] at hlt
        push_cast
        linarith
    rw [nearestBits_of hn hd he hnear (by omega)]
    omega

/-! ## Decimal numbers -/

/-- A power of ten lies above a power of two as soon as that holds for some root of both. -/
theorem two_zpow_le_ten_zpow {p r : ℕ} (hn : n ≠ 0) (hp : (2 : ℚ) ^ p ≤ 10 ^ n) (hr : (10 : ℚ) ^ n ≤ 2 ^ r)
    {t : ℤ}
    (h : t * n ≤ min (e * p) (e * r)) : (2 : ℚ) ^ t ≤ 10 ^ e := by
  have htwo : ((2 : ℚ) ^ t) ^ n = 2 ^ (t * n) := by rw [zpow_mul, zpow_natCast]
  have hten : ((10 : ℚ) ^ e) ^ n = (10 ^ n) ^ e := by
    rw [← zpow_natCast, ← zpow_natCast, ← zpow_mul, ← zpow_mul, mul_comm]
  refine le_of_pow_le_pow_left₀ hn (by positivity) ?_
  rw [htwo, hten]
  rcases Int.le_total 0 e with he | he
  · calc (2 : ℚ) ^ (t * n) ≤ 2 ^ (p * e : ℤ) :=
          zpow_le_zpow_right₀ (by norm_num) (by rw [mul_comm (p : ℤ)]; omega)
      _ = (2 ^ p) ^ e := by rw [zpow_mul, zpow_natCast]
      _ ≤ (10 ^ n) ^ e := zpow_le_zpow_left₀ he (by positivity) hp
  · calc (2 : ℚ) ^ (t * n) ≤ 2 ^ (r * e : ℤ) :=
          zpow_le_zpow_right₀ (by norm_num) (by rw [mul_comm (r : ℤ)]; omega)
      _ = (2 ^ r) ^ e := by rw [zpow_mul, zpow_natCast]
      _ ≤ (10 ^ n) ^ e := by
          obtain ⟨k, rfl⟩ : ∃ k : ℤ, e = -k := ⟨-e, by omega⟩
          rw [zpow_neg, zpow_neg]
          exact inv_anti₀ (by positivity) (zpow_le_zpow_left₀ (by omega) (by positivity) hr)

/-- The same from above: the bound for the opposite exponent turned over. -/
theorem ten_zpow_le_two_zpow {p r : ℕ} (hn : n ≠ 0) (hp : (2 : ℚ) ^ p ≤ 10 ^ n) (hr : (10 : ℚ) ^ n ≤ 2 ^ r)
    {t : ℤ}
    (h : max (e * p) (e * r) ≤ t * n) : (10 : ℚ) ^ e ≤ 2 ^ t := by
  have hneg : (2 : ℚ) ^ (-t) ≤ 10 ^ (-e) :=
    two_zpow_le_ten_zpow hn hp hr (by rw [neg_mul, neg_mul, neg_mul]; omega)
  rw [zpow_neg, zpow_neg] at hneg
  exact (inv_le_inv₀ (by positivity) (by positivity)).mp hneg

theorem two_pow_le_ten_pow : (2 : ℚ) ^ 33219 ≤ 10 ^ 10000 := by
  have h : 2 ^ 33219 ≤ 10 ^ 10000 := by decide +kernel
  exact_mod_cast h

theorem ten_pow_le_two_pow : (10 : ℚ) ^ 10000 ≤ 2 ^ 33220 := by
  have h : 10 ^ 10000 ≤ 2 ^ 33220 := by decide +kernel
  exact_mod_cast h

/-- No cell goes beyond all floats. -/
theorem Cell.lt_top (h : Cell m q r) (hf : IsFloat m q) : r < 2 ^ (1024 : ℤ) := by
  have hm : (m : ℚ) + 1 ≤ 2 ^ 53 := by exact_mod_cast hf.lt
  have hq : (2 : ℚ) ^ q ≤ 2 ^ (971 : ℤ) := zpow_le_zpow_right₀ (by norm_num) hf.most
  calc r ≤ (m + 1 / 2) * 2 ^ q := h.2.1
    _ < 2 ^ 53 * 2 ^ q := by gcongr; linarith
    _ ≤ 2 ^ 53 * 2 ^ (971 : ℤ) := by gcongr
    _ = 2 ^ (1024 : ℤ) := by rw [← zpow_natCast, ← zpow_add₀ (by norm_num)]; norm_num

/-- No cell goes down to half the least float. -/
theorem Cell.ge_bottom (h : Cell m q r) (hf : IsFloat m q) : (2 : ℚ) ^ (-1075 : ℤ) ≤ r := by
  have hm : (1 : ℚ) ≤ m := by exact_mod_cast hf.pos
  have hreach := reach_le m q
  have hq : (2 : ℚ) ^ (-1074 : ℤ) ≤ 2 ^ q := zpow_le_zpow_right₀ (by norm_num) hf.least
  calc (2 : ℚ) ^ (-1075 : ℤ) = 2 ^ (-1 : ℤ) * 2 ^ (-1074 : ℤ) := by
        rw [← zpow_add₀ (by norm_num)]; rfl
    _ ≤ (m - reach m q) * 2 ^ q := by
        have hhalf : (2 : ℚ) ^ (-1 : ℤ) ≤ m - reach m q := by
          rw [zpow_neg_one]
          linarith
        have hpos : (0 : ℚ) ≤ m - reach m q := by linarith
        gcongr
    _ ≤ r := h.1

/-- A decimal number in the cell of a float reads as that float. -/
theorem ofDecimal_eq {mantissa : ℕ} {exponent : ℤ} (hf : IsFloat m q) (h : Cell m q (mantissa * 10 ^ exponent)) :
    ofDecimal mantissa exponent = Float.ofBits (UInt64.ofNat ((q + 1074).toNat * 2 ^ 52 + m)) := by
  have hm : 0 < mantissa := by
    rcases Nat.eq_zero_or_pos mantissa with rfl | hm
    · have := h.pos hf
      simp at this
    · exact hm
  have hmq : (0 : ℚ) < mantissa := by exact_mod_cast hm
  obtain ⟨hlog, hlog'⟩ := log2_spec hm
  have htwo : (2 : ℚ) ≠ 0 := by norm_num
  have hquot : ((mantissa * Nat.pow 10 exponent.toNat : ℕ) : ℚ) / (Nat.pow 10 (-exponent).toNat : ℕ) =
      mantissa * 10 ^ exponent := by
    have hp : ((Nat.pow 10 exponent.toNat : ℕ) : ℚ) / (Nat.pow 10 (-exponent).toNat : ℕ) =
        10 ^ exponent := cast_pow_toNat 10 exponent (by norm_num)
    rw [Nat.cast_mul, mul_div_assoc, hp]
  have hbits : nearestBits (mantissa * Nat.pow 10 exponent.toNat) (Nat.pow 10 (-exponent).toNat) =
      (q + 1074).toNat * 2 ^ 52 + m :=
    nearestBits_eq (Nat.mul_pos hm (Nat.pow_pos (by norm_num))) (Nat.pow_pos (by norm_num)) hf
      (by rw [hquot]; exact h)
  unfold ofDecimal
  simp only
  rw [if_neg (by omega), if_neg, if_neg]
  · unfold nearestFloat
    rw [hbits, if_neg (by decide), Nat.add_zero]
  · -- the number is not too small for any float
    rw [Int.fdiv_eq_ediv_of_nonneg _ (by norm_num)]
    intro hc
    have hten : (10 : ℚ) ^ exponent ≤ 2 ^ (max (exponent * 33219) (exponent * 33220) / 10000 + 1) :=
      ten_zpow_le_two_zpow (by norm_num) two_pow_le_ten_pow ten_pow_le_two_pow (by push_cast; omega)
    have hlt : (mantissa * 10 ^ exponent : ℚ) < 2 ^ (-1075 : ℤ) := by
      calc (mantissa * 10 ^ exponent : ℚ) < 2 ^ ((mantissa.log2 : ℤ) + 1) * 10 ^ exponent := by gcongr
        _ ≤ 2 ^ ((mantissa.log2 : ℤ) + 1) *
            2 ^ (max (exponent * 33219) (exponent * 33220) / 10000 + 1) := by gcongr
        _ = 2 ^ ((mantissa.log2 : ℤ) + 1 + (max (exponent * 33219) (exponent * 33220) / 10000 + 1)) := by
            rw [← zpow_add₀ htwo]
        _ ≤ 2 ^ (-1075 : ℤ) := zpow_le_zpow_right₀ (by norm_num) (by omega)
    exact absurd hlt (not_lt.mpr (h.ge_bottom hf))
  · -- the number is not beyond all floats
    rw [Int.fdiv_eq_ediv_of_nonneg _ (by norm_num)]
    intro hc
    have hten : (2 : ℚ) ^ (min (exponent * 33219) (exponent * 33220) / 10000) ≤ 10 ^ exponent :=
      two_zpow_le_ten_zpow (by norm_num) two_pow_le_ten_pow ten_pow_le_two_pow (by push_cast; omega)
    have hge : (2 : ℚ) ^ (1024 : ℤ) ≤ mantissa * 10 ^ exponent := by
      calc (2 : ℚ) ^ (1024 : ℤ) ≤
            2 ^ ((mantissa.log2 : ℤ) + min (exponent * 33219) (exponent * 33220) / 10000) :=
            zpow_le_zpow_right₀ (by norm_num) hc
        _ = 2 ^ (mantissa.log2 : ℤ) * 2 ^ (min (exponent * 33219) (exponent * 33220) / 10000) :=
            zpow_add₀ htwo _ _
        _ ≤ mantissa * 10 ^ exponent := by gcongr
    exact absurd hge (not_le.mpr (h.lt_top hf))

end ShapeSearch.Rounding
