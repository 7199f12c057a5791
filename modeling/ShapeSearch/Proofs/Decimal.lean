import Mathlib.Data.List.TakeWhile
import Mathlib.Data.Nat.Digits.Lemmas
import ShapeSearch.Decimal.Shortest
import ShapeSearch.Proofs.Rounding

/-!
# Shortest digits read back

`shortest` looks for the fewest digits that lie in the cell of a float.  Seventeen digits are always
enough, since their grid is finer than the floats, so it always finds some (`shortest_spells`):

    IsFloat m q → ∃ r, Cell m q r ∧ (shortest m q (decide (Narrow m q))).Spells r

`Digits.Spells` says which number digits stand for.
-/

namespace ShapeSearch.Decimal

open Rounding

variable {n m : ℕ} {q : ℤ}

/-! ## Digits of a natural number -/

/-- The number that digits spell. -/
def valueOf (ds : List ℕ) : ℕ :=
  ds.foldl (fun n d => n * 10 + d) 0

theorem foldl_valueOf (ds : List ℕ) (n : ℕ) :
    ds.foldl (fun n d => n * 10 + d) n = n * 10 ^ ds.length + valueOf ds := by
  induction ds generalizing n with
  | nil => simp [valueOf]
  | cons d r ih =>
    rw [valueOf, List.foldl_cons, List.foldl_cons, ih, ih (0 * 10 + d), List.length_cons]
    ring

theorem valueOf_cons (d : ℕ) (r : List ℕ) : valueOf (d :: r) = d * 10 ^ r.length + valueOf r := by
  rw [valueOf, List.foldl_cons, foldl_valueOf]
  ring

theorem valueOf_append (a b : List ℕ) : valueOf (a ++ b) = valueOf a * 10 ^ b.length + valueOf b := by
  rw [valueOf, List.foldl_append, foldl_valueOf]
  rfl

@[simp] theorem valueOf_zeros (n : ℕ) : valueOf (List.replicate n 0) = 0 := by
  induction n with
  | zero => rfl
  | succ n ih => rw [List.replicate_succ, valueOf_cons, ih]; ring

theorem reversedDigits_eq {fuel : ℕ} (h : n < 2 ^ fuel) : reversedDigits fuel n = Nat.digits 10 n := by
  induction fuel generalizing n with
  | zero =>
    obtain rfl : n = 0 := by omega
    rfl
  | succ fuel ih =>
    rw [reversedDigits]
    split
    · next hn => rw [hn, Nat.digits_zero]
    · next hn =>
      rw [Nat.digits_def' (by norm_num) (Nat.pos_of_ne_zero hn), ih]
      rw [pow_succ] at h
      omega

theorem digitsOf_eq (n : ℕ) : digitsOf n = (Nat.digits 10 n).reverse := by
  rw [digitsOf, reversedDigits_eq Nat.lt_log2_self]

theorem valueOf_digitsOf (n : ℕ) : valueOf (digitsOf n) = n := by
  rw [digitsOf_eq, valueOf, List.foldl_reverse]
  conv_rhs => rw [← Nat.ofDigits_digits 10 n, Nat.ofDigits_eq_foldr]
  congr 1
  funext d n
  simp only [Nat.cast_id]
  ring

theorem digitsOf_lt {d : ℕ} (h : d ∈ digitsOf n) : d < 10 := by
  rw [digitsOf_eq, List.mem_reverse] at h
  exact Nat.digits_lt_base (by norm_num) h

theorem digitsOf_leading (h : 0 < n) : ∃ a r, digitsOf n = a :: r ∧ a ≠ 0 := by
  have hne : Nat.digits 10 n ≠ [] := Nat.digits_ne_nil_iff_ne_zero.mpr (by omega)
  have hlast := Nat.getLast_digit_ne_zero 10 (by omega : n ≠ 0)
  refine ⟨(Nat.digits 10 n).getLast hne, (Nat.digits 10 n).dropLast.reverse, ?_, hlast⟩
  rw [digitsOf_eq]
  conv_lhs => rw [← List.dropLast_append_getLast hne]
  rw [List.reverse_append]
  rfl

/-! ## What digits spell -/

/-- The number that digits with a point stand for; the first digit is not zero. -/
structure Digits.Spells (D : Digits) (r : ℚ) : Prop where
  small : ∀ d ∈ D.digits, d < 10
  leading : ∃ a rest, D.digits = a :: rest ∧ a ≠ 0
  value : (valueOf D.digits : ℚ) * 10 ^ (D.point - D.digits.length) = r

theorem dropTrailingZeros_append (ds : List ℕ) :
    ∃ n, ds = dropTrailingZeros ds ++ List.replicate n 0 := by
  refine ⟨(ds.reverse.takeWhile (· == 0)).length, ?_⟩
  have hzeros : ds.reverse.takeWhile (· == 0) =
      List.replicate (ds.reverse.takeWhile (· == 0)).length 0 := by
    rw [List.eq_replicate_iff]
    refine ⟨rfl, fun d hd => ?_⟩
    simpa using List.mem_takeWhile_imp hd
  have hsplit := List.takeWhile_append_dropWhile (p := (· == 0)) (l := ds.reverse)
  rw [hzeros] at hsplit
  have := congrArg List.reverse hsplit
  rw [List.reverse_append, List.reverse_replicate, List.reverse_reverse] at this
  exact this.symm

theorem ofScaled_spells {d : ℕ} (h : 0 < d) (e : ℤ) : (ofScaled d e).Spells (d * 10 ^ e) := by
  obtain ⟨n, hn⟩ := dropTrailingZeros_append (digitsOf d)
  obtain ⟨a, r, har, ha⟩ := digitsOf_leading h
  have hten : (10 : ℚ) ≠ 0 := by norm_num
  refine ⟨fun x hx => ?_, ?_, ?_⟩
  · refine digitsOf_lt (n := d) ?_
    rw [hn]
    exact List.mem_append_left _ hx
  · -- only zeros are dropped, and the first digit is none
    show ∃ a rest, dropTrailingZeros (digitsOf d) = a :: rest ∧ a ≠ 0
    cases hdt : dropTrailingZeros (digitsOf d) with
    | nil =>
      rw [hdt, List.nil_append, har] at hn
      have : a ∈ List.replicate n 0 := hn ▸ List.mem_cons_self
      exact absurd (List.eq_of_mem_replicate this) ha
    | cons b s =>
      rw [hdt, har, List.cons_append] at hn
      exact ⟨b, s, rfl, (List.cons.inj hn).1 ▸ ha⟩
  · show (valueOf (dropTrailingZeros (digitsOf d)) : ℚ) *
      10 ^ (e + (digitsOf d).length - (dropTrailingZeros (digitsOf d)).length) = d * 10 ^ e
    have hlen : (digitsOf d).length = (dropTrailingZeros (digitsOf d)).length + n := by
      conv_lhs => rw [hn]
      rw [List.length_append, List.length_replicate]
    have hval : d = valueOf (dropTrailingZeros (digitsOf d)) * 10 ^ n := by
      conv_lhs => rw [← valueOf_digitsOf d, hn]
      rw [valueOf_append, valueOf_zeros, List.length_replicate, Nat.add_zero]
    rw [hlen, show e + ((dropTrailingZeros (digitsOf d)).length + n : ℕ) -
      ((dropTrailingZeros (digitsOf d)).length : ℤ) = n + e by push_cast; ring, zpow_add₀ hten,
      zpow_natCast, ← mul_assoc]
    congr 1
    exact_mod_cast hval.symm

/-! ## Where the point stands -/

theorem ratio_pos (m : ℕ) (q p : ℤ) : 0 < (ratio m q p).2 :=
  Nat.mul_pos (Nat.pow_pos (by norm_num)) (Nat.pow_pos (by norm_num))

theorem ratio_eq (m : ℕ) (q p : ℤ) :
    ((ratio m q p).1 : ℚ) / (ratio m q p).2 = m * 2 ^ q * 10 ^ p := by
  have h2 : ((Nat.pow 2 q.toNat : ℕ) : ℚ) / (Nat.pow 2 (-q).toNat : ℕ) = 2 ^ q :=
    cast_pow_toNat 2 q (by norm_num)
  have h10 : ((Nat.pow 10 p.toNat : ℕ) : ℚ) / (Nat.pow 10 (-p).toNat : ℕ) = 10 ^ p :=
    cast_pow_toNat 10 p (by norm_num)
  rw [← h2, ← h10]
  show ((m * Nat.pow 2 q.toNat * Nat.pow 10 p.toNat : ℕ) : ℚ) /
    (Nat.pow 2 (-q).toNat * Nat.pow 10 (-p).toNat : ℕ) = _
  rw [Nat.cast_mul, Nat.cast_mul, Nat.cast_mul, mul_div_mul_comm, mul_div_assoc]

/-- Counting up finds the first place that passes a test, if it starts below that place and the place is
not too far. -/
theorem up_spec (below : ℤ → Bool) (fuel : ℕ) (k : ℤ) (hlo : below (k - 1) = false)
    (hhi : ∃ j : ℕ, j ≤ fuel ∧ below (k + j) = true) :
    below (pointOf.up below fuel k) = true ∧ below (pointOf.up below fuel k - 1) = false := by
  induction fuel generalizing k with
  | zero =>
    obtain ⟨j, hj, hb⟩ := hhi
    obtain rfl : j = 0 := by omega
    rw [pointOf.up]
    exact ⟨by simpa using hb, hlo⟩
  | succ fuel ih =>
    rw [pointOf.up]
    split
    · next hk => exact ⟨hk, hlo⟩
    · next hk =>
      apply ih
      · rw [add_sub_cancel_right]
        simpa using hk
      · obtain ⟨j, hj, hb⟩ := hhi
        cases j with
        | zero => exact absurd (by simpa using hb) hk
        | succ j =>
          refine ⟨j, by omega, ?_⟩
          rw [← hb]
          congr 1
          push_cast
          ring

theorem pointOf_spec (h : IsFloat m q) :
    (m * 2 ^ q : ℚ) < 10 ^ pointOf m q ∧ (10 : ℚ) ^ (pointOf m q - 1) ≤ m * 2 ^ q := by
  obtain ⟨hlo, hhi⟩ := log2_spec h.pos
  have htwo : (2 : ℚ) ≠ 0 := by norm_num
  have hlog : m.log2 < 53 := (Nat.log2_lt (by have := h.pos; omega)).mpr h.lt
  have hleast := h.least
  have hmost := h.most
  set b : ℤ := m.log2 + q with hb
  have hblo : (2 : ℚ) ^ b ≤ m * 2 ^ q := by
    rw [hb, zpow_add₀ htwo]
    gcongr
  have hbhi : (m * 2 ^ q : ℚ) < 2 ^ (b + 1) := by
    rw [hb, show (m.log2 : ℤ) + q + 1 = m.log2 + 1 + q by ring, zpow_add₀ htwo]
    gcongr
  -- the test of the search
  have htest : ∀ k : ℤ, decide ((ratio m q (-k)).1 < (ratio m q (-k)).2) = true ↔
      (m * 2 ^ q : ℚ) < 10 ^ k := by
    intro k
    have hpos : (0 : ℚ) < (ratio m q (-k)).2 := by exact_mod_cast ratio_pos m q (-k)
    rw [decide_eq_true_iff, ← Nat.cast_lt (α := ℚ), ← div_lt_one hpos, ratio_eq, zpow_neg,
      ← div_eq_mul_inv, div_lt_one (by positivity)]
  have hestimate : ∀ k : ℤ, k = b * 30103 / 100000 - 1 →
      (10 : ℚ) ^ (k - 1) ≤ 2 ^ b ∧ (2 : ℚ) ^ (b + 1) ≤ 10 ^ (k + 6) := by
    intro k hk
    exact ⟨ten_zpow_le_two_zpow (by norm_num) two_pow_le_ten_pow ten_pow_le_two_pow
        (by push_cast; omega),
      two_zpow_le_ten_zpow (by norm_num) two_pow_le_ten_pow ten_pow_le_two_pow
        (by push_cast; omega)⟩
  have hpoint : pointOf m q = pointOf.up (fun k => decide ((ratio m q (-k)).1 < (ratio m q (-k)).2)) 6
      (b * 30103 / 100000 - 1) := by
    rw [← Int.fdiv_eq_ediv_of_nonneg _ (by norm_num)]
    rfl
  obtain ⟨hbelow, habove⟩ := hestimate _ rfl
  obtain ⟨h1, h2⟩ := up_spec (fun k => decide ((ratio m q (-k)).1 < (ratio m q (-k)).2)) 6
    (b * 30103 / 100000 - 1)
    (by
      rw [Bool.eq_false_iff]
      exact fun hc => absurd ((htest _).mp hc) (not_lt.mpr (hbelow.trans hblo)))
    ⟨6, le_refl _, (htest _).mpr (hbhi.trans_le habove)⟩
  rw [← hpoint] at h1 h2
  refine ⟨(htest _).mp h1, not_lt.mp fun hc => ?_⟩
  rw [(htest _).mpr hc] at h2
  cases h2

/-! ## Digits in the cell of a float -/

theorem roundDiv_cases (num den : ℕ) :
    roundDiv num den = num / den ∨ roundDiv num den = num / den + 1 := by
  unfold roundDiv
  simp only
  split
  · exact .inl rfl
  · split
    · exact .inr rfl
    · split
      · exact .inl rfl
      · exact .inr rfl

/-- The test of `shortestWith` on a point of the grid. -/
def inside (m : ℕ) (q : ℤ) (e : ℤ) (x : ℕ) : Bool :=
  let den := (ratio (4 * m) (q - 2) (-e)).2
  let hi := (ratio (4 * m + 2) (q - 2) (-e)).1
  let lo := (ratio (if decide (Narrow m q) then 4 * m - 1 else 4 * m - 2) (q - 2) (-e)).1
  if m % 2 == 0 then lo ≤ x * den && x * den ≤ hi else lo < x * den && x * den < hi

theorem shortestWith_eq (m : ℕ) (q k : ℤ) (n : ℕ) :
    let e := k - n
    let v := (ratio (4 * m) (q - 2) (-e)).1
    let den := (ratio (4 * m) (q - 2) (-e)).2
    shortestWith m q (decide (Narrow m q)) k n =
      match inside m q e (v / den), inside m q e (v / den + 1) with
      | true, true => some (ofScaled (roundDiv v den) e)
      | true, false => some (ofScaled (v / den) e)
      | false, true => some (ofScaled (v / den + 1) e)
      | false, false => none := rfl

theorem inside_iff (h : IsFloat m q) (e : ℤ) (x : ℕ) : inside m q e x = true ↔ Cell m q (x * 10 ^ e) := by
  have hm := h.pos
  have hten : (0 : ℚ) < 10 ^ e := by positivity
  set den := (ratio (4 * m) (q - 2) (-e)).2 with hdef
  have hden : (0 : ℚ) < den := by exact_mod_cast ratio_pos (4 * m) (q - 2) (-e)
  have hquarter : (2 : ℚ) ^ (q - 2) = 2 ^ q / 4 := by
    rw [zpow_sub₀ (by norm_num)]
    norm_num
  -- quarters of the last place in units of the grid
  have hunits : ∀ a : ℕ, ((ratio a (q - 2) (-e)).1 : ℚ) = a / 4 * 2 ^ q / 10 ^ e * den := by
    intro a
    have hr : ((ratio a (q - 2) (-e)).1 : ℚ) / den = a * 2 ^ (q - 2) * 10 ^ (-e) :=
      ratio_eq a (q - 2) (-e)
    rw [div_eq_iff hden.ne', hquarter, zpow_neg] at hr
    rw [hr]
    ring
  have hhi : ((ratio (4 * m + 2) (q - 2) (-e)).1 : ℚ) = (m + 1 / 2) * 2 ^ q / 10 ^ e * den := by
    rw [hunits]
    push_cast
    ring
  have hlo : ((ratio (if Narrow m q then 4 * m - 1 else 4 * m - 2) (q - 2) (-e)).1 : ℚ) =
      (m - reach m q) * 2 ^ q / 10 ^ e * den := by
    rw [hunits, reach]
    split
    · rw [Nat.cast_sub (by omega)]
      push_cast
      ring
    · rw [Nat.cast_sub (by omega)]
      push_cast
      ring
  have hle : ∀ a b : ℚ, a / 10 ^ e * den ≤ b * den ↔ a ≤ b * 10 ^ e := by
    intro a b
    rw [mul_le_mul_iff_left₀ hden, div_le_iff₀ hten]
  have hge : ∀ a b : ℚ, b * den ≤ a / 10 ^ e * den ↔ b * 10 ^ e ≤ a := by
    intro a b
    rw [mul_le_mul_iff_left₀ hden, le_div_iff₀ hten]
  unfold inside Cell
  simp only [← hdef]
  by_cases heven : m % 2 = 0
  · rw [if_pos (by simpa using heven)]
    simp only [Bool.and_eq_true, decide_eq_true_eq]
    rw [← Nat.cast_le (α := ℚ), ← Nat.cast_le (α := ℚ), hlo, hhi, Nat.cast_mul, hle, hge]
    exact ⟨fun ⟨ha, hb⟩ => ⟨ha, hb, .inl heven⟩, fun ⟨ha, hb, _⟩ => ⟨ha, hb⟩⟩
  · rw [if_neg (by simpa using heven)]
    simp only [Bool.and_eq_true, decide_eq_true_eq]
    rw [← Nat.cast_lt (α := ℚ), ← Nat.cast_lt (α := ℚ), hlo, hhi, Nat.cast_mul, ← not_le, ← not_le,
      hge, hle,
      not_le, not_le]
    exact ⟨fun ⟨ha, hb⟩ => ⟨ha.le, hb.le, .inr ⟨ha, hb⟩⟩, fun ⟨_, _, ht⟩ => ht.resolve_left heven⟩

/-- With enough digits one of the two neighbours on the grid is in the cell. -/
theorem inside_of_fine (h : IsFloat m q) {e : ℤ} (hfine : (10 : ℚ) ^ e < (reach m q + 1 / 2) * 2 ^ q) :
    let d := (ratio (4 * m) (q - 2) (-e)).1 / (ratio (4 * m) (q - 2) (-e)).2
    inside m q e d = true ∨ inside m q e (d + 1) = true := by
  intro d
  have hten : (0 : ℚ) < 10 ^ e := by positivity
  have hu : (0 : ℚ) < 2 ^ q := by positivity
  have hden : (0 : ℚ) < (ratio (4 * m) (q - 2) (-e)).2 := by
    exact_mod_cast ratio_pos (4 * m) (q - 2) (-e)
  -- the float lies between the two neighbours
  have hvalue : ((ratio (4 * m) (q - 2) (-e)).1 : ℚ) / (ratio (4 * m) (q - 2) (-e)).2 =
      m * 2 ^ q / 10 ^ e := by
    rw [ratio_eq, zpow_sub₀ (by norm_num), zpow_neg]
    push_cast
    field_simp
  have hlower : (d : ℚ) * 10 ^ e ≤ m * 2 ^ q := by
    rw [← le_div_iff₀ hten, ← hvalue, le_div_iff₀ hden]
    exact_mod_cast Nat.div_mul_le_self _ _
  have hupper : (m * 2 ^ q : ℚ) < (d + 1 : ℕ) * 10 ^ e := by
    rw [← div_lt_iff₀ hten, ← hvalue, div_lt_iff₀ hden]
    exact_mod_cast Nat.lt_mul_of_div_lt (Nat.lt_succ_self _) (ratio_pos (4 * m) (q - 2) (-e))
  by_contra hc
  push Not at hc
  obtain ⟨hd, hd'⟩ := hc
  rw [ne_eq, inside_iff h] at hd hd'
  have hreach : (0 : ℚ) < reach m q := by
    unfold reach
    split <;> norm_num
  -- so both are outside of the cell, on its two sides
  have hleft : (d : ℚ) * 10 ^ e ≤ (m - reach m q) * 2 ^ q := by
    by_contra hgt
    push Not at hgt
    have hhi : (d : ℚ) * 10 ^ e < (m + 1 / 2) * 2 ^ q := by linarith
    exact hd ⟨hgt.le, hhi.le, .inr ⟨hgt, hhi⟩⟩
  have hright : (m + 1 / 2) * 2 ^ q ≤ ((d + 1 : ℕ) : ℚ) * 10 ^ e := by
    by_contra hlt
    push Not at hlt
    have hlo : (m - reach m q) * 2 ^ q < ((d + 1 : ℕ) : ℚ) * 10 ^ e := by
      have := mul_pos hreach hu
      linarith
    exact hd' ⟨hlo.le, hlt.le, .inr ⟨hlo, hlt⟩⟩
  push_cast at hright
  linarith

theorem shortestWith_some {k : ℤ} {D : Digits} (h : IsFloat m q)
    (hs : shortestWith m q (decide (Narrow m q)) k n = some D) : ∃ r, Cell m q r ∧ D.Spells r := by
  have hspells : ∀ d : ℕ, inside m q (k - n) d = true →
      ∃ r, Cell m q r ∧ (ofScaled d (k - n)).Spells r := by
    intro d hd
    have hcell := (inside_iff h _ _).mp hd
    refine ⟨_, hcell, ofScaled_spells ?_ _⟩
    rcases Nat.eq_zero_or_pos d with rfl | hpos
    · have := hcell.pos h
      simp at this
    · exact hpos
  rw [shortestWith_eq] at hs
  split at hs
  · next hd hd' =>
    cases hs
    rcases roundDiv_cases (ratio (4 * m) (q - 2) (-(k - n))).1 (ratio (4 * m) (q - 2) (-(k - n))).2 with
      hr | hr
    · rw [hr]
      exact hspells _ hd
    · rw [hr]
      exact hspells _ hd'
  · next hd _ =>
    cases hs
    exact hspells _ hd
  · next _ hd' =>
    cases hs
    exact hspells _ hd'
  · cases hs

/-- Seventeen digits are always enough. -/
theorem shortestWith_isSome (h : IsFloat m q) :
    (shortestWith m q (decide (Narrow m q)) (pointOf m q) 17).isSome = true := by
  have hu : (0 : ℚ) < 2 ^ q := by positivity
  have hm : (m : ℚ) < 2 ^ 53 := by exact_mod_cast h.lt
  -- the grid of seventeen digits is finer than the floats
  have hratio : (m : ℚ) / 10 ^ 16 < reach m q + 1 / 2 := by
    unfold reach
    split
    · next hn =>
      rw [hn.1]
      norm_num
    · rw [div_lt_iff₀ (by norm_num)]
      refine hm.trans ?_
      norm_num
  have hfine : (10 : ℚ) ^ (pointOf m q - (17 : ℕ)) < (reach m q + 1 / 2) * 2 ^ q := by
    calc (10 : ℚ) ^ (pointOf m q - (17 : ℕ)) = 10 ^ (pointOf m q - 1) / 10 ^ 16 := by
          rw [← zpow_natCast, ← zpow_sub₀ (by norm_num)]
          congr 1
          push_cast
          ring
      _ ≤ m * 2 ^ q / 10 ^ 16 := by
          have := (pointOf_spec h).2
          gcongr
      _ = m / 10 ^ 16 * 2 ^ q := by ring
      _ < (reach m q + 1 / 2) * 2 ^ q := by gcongr
  rw [shortestWith_eq]
  have hone := inside_of_fine h hfine
  simp only at hone
  split
  · rfl
  · rfl
  · rfl
  · next hd hd' =>
    rw [hd, hd'] at hone
    simp at hone

theorem go_some {k : ℤ} {fuel : ℕ} (h : IsFloat m q)
    (hs : ∃ j, j ≤ fuel ∧ (shortestWith m q (decide (Narrow m q)) k (n + j)).isSome = true) :
    ∃ r, Cell m q r ∧ (shortest.go m q (decide (Narrow m q)) k fuel n).Spells r := by
  obtain ⟨j, hj, hs⟩ := hs
  induction fuel generalizing n j with
  | zero =>
    obtain rfl : j = 0 := by omega
    obtain ⟨D, hD⟩ := Option.isSome_iff_exists.mp hs
    rw [Nat.add_zero] at hD
    rw [shortest.go, hD]
    exact shortestWith_some h hD
  | succ fuel ih =>
    rw [shortest.go]
    split
    · next D hD => exact shortestWith_some h hD
    · next hnone =>
      cases j with
      | zero =>
        rw [Nat.add_zero, hnone] at hs
        cases hs
      | succ j => exact ih j (by omega) (by rwa [Nat.add_assoc, Nat.add_comm 1])

theorem shortest_spells (h : IsFloat m q) : ∃ r, Cell m q r ∧ (shortest m q (decide (Narrow m q))).Spells r :=
  go_some h ⟨16, by omega, shortestWith_isSome h⟩

end ShapeSearch.Decimal
