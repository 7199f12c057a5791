import ShapeSearch.Proofs.Number.Sums
import ShapeSearch.Proofs.Rounding

/-!
# Sums of finite numbers

A whole number that is not too large for a float is a finite float (`exactFloat_ofInt_finite`).  So adding
finite numbers, or taking one away, never leaves the number line, although a sum can run to one of its ends:

    a.isDefined → b.isFinite → a.add b = .ok c → c.isDefined                        (isDefined_add_finite)
    total.isDefined → (∀ x ∈ l, x.isFinite) → sumFrom total l = .ok t → t.isDefined   (isDefined_sumFrom)

The number without its sign lies where it should (`line_abs`).
-/

namespace ShapeSearch

namespace Rounding

/-- A quotient less than half above a whole number is not rounded to a larger one. -/
theorem roundDiv_le {num den c : ℕ} (h : 2 * num < (2 * c + 1) * den) : roundDiv num den ≤ c := by
  have hsplit := Nat.div_add_mod num den
  have hle : num / den ≤ c := by
    by_contra hc
    have := Nat.mul_le_mul_left den (Nat.lt_of_not_le hc)
    rw [Nat.mul_succ] at this
    have : (2 * c + 1) * den = 2 * (den * c) + den := by ring
    omega
  unfold roundDiv
  simp only
  rcases Nat.lt_or_eq_of_le hle with hlt | heq
  · split
    · omega
    · split
      · omega
      · split <;> omega
  · have hmul : (2 * c + 1) * den = 2 * (den * (num / den)) + den := by
      rw [heq]
      ring
    rw [if_pos (by omega)]
    omega

theorem lastPlace_one {n : ℕ} (hn : n ≠ 0) : lastPlace n 1 = (n.log2 : ℤ) - 52 := by
  have hlog : Nat.log2 1 = 0 := by decide
  have hself : 2 ^ n.log2 ≤ n := Nat.log2_self_le hn
  unfold lastPlace binaryPlace
  simp only [hlog, Int.natCast_zero, Int.sub_zero, Int.toNat_natCast, Nat.one_mul, Nat.pow_eq]
  have hneg : (-(n.log2 : ℤ)).toNat = 0 := by omega
  rw [hneg, pow_zero, Nat.mul_one, if_pos hself]
  omega

theorem nearestBits_lt {n : ℕ} (h : n < Number.floatLimit) : nearestBits n 1 < 2047 * 2 ^ 52 := by
  unfold nearestBits
  split
  · positivity
  · next hn =>
    simp only [lastPlace_one hn, Nat.one_mul, Nat.pow_eq]
    apply min_lt_of_left_lt
    have hlt : n < 2 ^ (n.log2 + 1) := Nat.lt_log2_self
    have hself : 2 ^ n.log2 ≤ n := Nat.log2_self_le hn
    have htop : (2 : ℕ) ^ 1024 = 2 ^ 54 * 2 ^ 970 := by decide +kernel
    have hlimit : Number.floatLimit = 2 ^ 54 * 2 ^ 970 - 2 ^ 970 := by decide +kernel
    rw [hlimit] at h
    rcases Nat.lt_or_ge n.log2 1023 with hk | hk
    · -- the mantissa is at most the next power of two, and there is an exponent left for it
      have hm : roundDiv (n * 2 ^ (-((n.log2 : ℤ) - 52)).toNat) (2 ^ ((n.log2 : ℤ) - 52).toNat) ≤ 2 ^ 53 := by
        apply roundDiv_le
        have hexp : n.log2 + 1 + (-((n.log2 : ℤ) - 52)).toNat = 53 + ((n.log2 : ℤ) - 52).toNat := by omega
        have hnum := Nat.mul_lt_mul_of_pos_right hlt (Nat.pow_pos (n := (-((n.log2 : ℤ) - 52)).toNat) two_pos)
        rw [← pow_add, hexp, pow_add] at hnum
        rw [Nat.add_mul, Nat.one_mul, Nat.mul_assoc]
        omega
      omega
    · -- with the last exponent the mantissa does not reach the next power of two
      have hk' : n.log2 = 1023 := by
        have hpow : (2 : ℕ) ^ n.log2 < 2 ^ 1024 := by
          rw [htop]
          omega
        have := (Nat.pow_lt_pow_iff_right (by norm_num : 1 < 2)).mp hpow
        omega
      have hm : roundDiv n (2 ^ (((1023 : ℕ) : ℤ) - 52).toNat) ≤ 2 ^ 53 - 1 := by
        apply roundDiv_le
        have hdouble : (2 : ℕ) ^ (((1023 : ℕ) : ℤ) - 52).toNat = 2 * 2 ^ 970 := by decide +kernel
        rw [hdouble]
        omega
      have hdown : (-(((1023 : ℕ) : ℤ) - 52)).toNat = 0 := by decide
      rw [hk', hdown, pow_zero, Nat.mul_one]
      omega

end Rounding

namespace Number

open Float.Model Float.Model.UnpackedFloat

variable {x : Float} {l : List Number} {q : ℚ}

/-! ## Finite floats -/

theorem exactFloat_ofInt_finite {n : ℤ} (h : n.natAbs < floatLimit) :
    ∃ m q, exactFloat (Rounding.ofInt n) = .finite m q := by
  have hlt := Rounding.nearestBits_lt h
  obtain ⟨k, hk, hint⟩ : ∃ k, (k = Rounding.nearestBits n.natAbs 1 ∨
      k = Rounding.nearestBits n.natAbs 1 + 2 ^ 63) ∧ Rounding.ofInt n = Float.ofBits (UInt64.ofNat k) := by
    refine ⟨_, ?_, rfl⟩
    split
    · exact .inr rfl
    · exact .inl rfl
  have hbits : (Rounding.ofInt n).toBits.toNat = k := by
    have hpacked : (Rounding.ofInt n).toBits.toNat = (UnpackedFloat.pack Format.binary64
        (UnpackedFloat.unpack Format.binary64 (BitVec.ofNat 64 k))).toNat := by
      rw [hint]
      rfl
    rw [hpacked, pack_unpack_finite (unpackExponent_ne hlt hk)]
    show (BitVec.ofNat 64 k).toNat = k
    rw [BitVec.toNat_ofNat]
    omega
  apply exactFloat_finite_iff.mpr
  simp only [floatFields, hbits, Nat.pow_eq]
  omega

variable {a b c : Number}

theorem exactFloat_of_isFinite (h : (Number.float x).isFinite) : ∃ m q, exactFloat x = .finite m q := by
  unfold isFinite at h
  split at h
  · next m q hfinite => exact ⟨m, q, hfinite⟩
  · cases h

/-- A finite number is finite as a float, if it is not too large. -/
theorem exactFloat_toFloat (hb : b.isFinite) (h : b.toFloat = .ok x) : ∃ m q, exactFloat x = .finite m q := by
  cases b with
  | int n =>
    rw [toFloat] at h
    split at h
    · next hn =>
      obtain rfl := Except.ok.inj h
      exact exactFloat_ofInt_finite hn
    · cases h
  | float y =>
    cases h
    exact exactFloat_of_isFinite hb

theorem isDefined_of_isFinite (h : a.isFinite) : a.isDefined = true := by
  rw [isDefined_iff]
  unfold isFinite at h
  split at h
  · next hfinite =>
    rw [hfinite]
    exact Exact.noConfusion
  · cases h

/-! ## Adding and taking away -/

section Unpacked

variable {u v : UnpackedFloat}

/-- To take away is to add with the other sign. -/
theorem unpacked_sub_eq (u v : UnpackedFloat) :
    UnpackedFloat.sub Format.binary64 u v = UnpackedFloat.add Format.binary64 u v.neg := by
  have happly : ∀ (s : Sign) (n : ℤ), (-s).apply n = -s.apply n := by
    intro s n
    cases s with
    | positive => rfl
    | negative => exact (neg_neg n).symm
  cases u with
  | notANumber => rfl
  | infinity s => cases v <;> rfl
  | zero s => cases v <;> rfl
  | finite s m e h =>
    cases v with
    | finite s' m' e' h' => simp only [UnpackedFloat.sub, UnpackedFloat.add, UnpackedFloat.neg, happly, sub_eq_add_neg]
    | notANumber => rfl
    | infinity s' => rfl
    | zero s' => rfl

theorem unpacked_sub_ne_nan (hu : u ≠ .notANumber) (hv : v ≠ .notANumber) (hi : ∀ s, v ≠ .infinity s) :
    UnpackedFloat.sub Format.binary64 u v ≠ .notANumber := by
  rw [unpacked_sub_eq]
  cases v with
  | notANumber => exact absurd rfl hv
  | infinity s => exact absurd rfl (hi s)
  | zero s => exact unpacked_add_ne_nan hu UnpackedFloat.noConfusion (.inr fun _ => UnpackedFloat.noConfusion)
  | finite s m e h => exact unpacked_add_ne_nan hu UnpackedFloat.noConfusion (.inr fun _ => UnpackedFloat.noConfusion)

end Unpacked

theorem onFloats_eq_ok {f : Float → Float → Float} (h : onFloats f a b = .ok c) :
    ∃ x y, a.toFloat = .ok x ∧ b.toFloat = .ok y ∧ c = .float (f x y) := by
  obtain ⟨x, hx, h⟩ := bind_eq_ok.mp h
  obtain ⟨y, hy, h⟩ := bind_eq_ok.mp h
  exact ⟨x, y, hx, hy, (Except.ok.inj h).symm⟩

/-- An operation on floats that gives a number for a number and a finite one stays on the line. -/
theorem isDefined_onFloats {f : Float → Float → Float} {g : UnpackedFloat → UnpackedFloat → UnpackedFloat}
    (hf : ∀ x y, f x y = Float.ofModel (Float.Model.pack (g x.toModel.unpack y.toModel.unpack)))
    (hg : ∀ {u v}, u ≠ .notANumber → v ≠ .notANumber → (∀ s, v ≠ .infinity s) → g u v ≠ .notANumber)
    (ha : a.isDefined) (hb : b.isFinite) (h : onFloats f a b = .ok c) :
    c.isDefined = true := by
  obtain ⟨x, y, hx, hy, rfl⟩ := onFloats_eq_ok h
  obtain ⟨m, q, hfinite⟩ := exactFloat_toFloat hb hy
  have hdefined : exactFloat y ≠ .undefined := by
    rw [hfinite]
    exact Exact.noConfusion
  rw [isDefined_iff]
  show exactFloat (f x y) ≠ .undefined
  rw [hf]
  exact exactFloat_pack (hg (unpack_of_defined (exactFloat_of_toFloat ha hx)) (unpack_of_defined hdefined)
    (unpack_of_finite hfinite))

theorem isDefined_add_finite (ha : a.isDefined) (hb : b.isFinite) (h : a.add b = .ok c) :
    c.isDefined = true := by
  have hfloats : onFloats Float.add a b = .ok c → c.isDefined = true :=
    isDefined_onFloats (fun _ _ => rfl) (fun hu hv hi => unpacked_add_ne_nan hu hv (.inr hi)) ha hb
  cases a with
  | float x => exact hfloats h
  | int n =>
    cases b with
    | float y => exact hfloats h
    | int k =>
      obtain rfl := Except.ok.inj h
      exact isDefined_int _

theorem isDefined_sub_finite (ha : a.isDefined) (hb : b.isFinite) (h : a.sub b = .ok c) :
    c.isDefined = true := by
  have hfloats : onFloats Float.sub a b = .ok c → c.isDefined = true :=
    isDefined_onFloats (fun _ _ => rfl) unpacked_sub_ne_nan ha hb
  cases a with
  | float x => exact hfloats h
  | int n =>
    cases b with
    | float y => exact hfloats h
    | int k =>
      obtain rfl := Except.ok.inj h
      exact isDefined_int _

theorem isDefined_sumFrom : ∀ {total t : Number}, total.isDefined = true →
    (∀ x ∈ l, x.isFinite = true) → sumFrom total l = .ok t → t.isDefined = true := by
  induction l with
  | nil =>
    intro total t htotal _ h
    cases h
    exact htotal
  | cons x l ih =>
    intro total t htotal hall h
    obtain ⟨hx, hl⟩ := List.forall_mem_cons.mp hall
    obtain ⟨u, hu, h⟩ := bind_eq_ok.mp h
    exact ih (isDefined_add_finite htotal hx hu) hl h

/-! ## The number without its sign -/

theorem pack_abs {u : UnpackedFloat} (h : u ≠ .notANumber) :
    ∃ (s : Sign) (e : BitVec 11) (m : BitVec 52),
      UnpackedFloat.pack Format.binary64 u = packComponents Format.binary64 s e m ∧
      UnpackedFloat.pack Format.binary64 u.abs = packComponents Format.binary64 .positive e m := by
  cases u with
  | notANumber => exact absurd rfl h
  | infinity s => exact ⟨s, -1#11, 0#52, rfl, rfl⟩
  | zero s => exact ⟨s, 0#11, 0#52, rfl, rfl⟩
  | finite s m e hpos =>
    -- which bits are packed is decided by the mantissa and the exponent alone
    simp only [UnpackedFloat.pack, UnpackedFloat.abs]
    split
    · exact ⟨s, _, _, rfl, rfl⟩
    · split
      · exact ⟨s, _, _, rfl, rfl⟩
      · exact ⟨s, _, _, rfl, rfl⟩

theorem floatFields_abs (h : exactFloat x ≠ .undefined) :
    floatFields x.abs = (false, (floatFields x).2.1, (floatFields x).2.2) := by
  obtain ⟨s, e, m, hx, habs⟩ := pack_abs (unpack_of_defined h)
  have hbits : x.toBits.toNat = s.toBitVec.toNat * 2 ^ 63 + e.toNat * 2 ^ 52 + m.toNat := by
    rw [← toNat_packComponents, ← hx]
    obtain ⟨⟨bits, hv⟩⟩ := x
    exact (congrArg BitVec.toNat (pack_unpack hv)).symm
  have hbits' : x.abs.toBits.toNat = e.toNat * 2 ^ 52 + m.toNat := by
    have hpos : Sign.positive.toBitVec.toNat = 0 := rfl
    have hpacked : x.abs.toBits.toNat = (packComponents Format.binary64 .positive e m).toNat :=
      congrArg BitVec.toNat habs
    rw [hpacked, toNat_packComponents, hpos]
    omega
  have he := e.isLt
  have hm := m.isLt
  simp only [floatFields, hbits, hbits', Nat.pow_eq, Prod.mk.injEq, beq_eq_false_iff_ne]
  omega

theorem exactFloat_abs {m q : ℤ} (h : exactFloat x = .finite m q) : exactFloat x.abs = .finite |m| q := by
  have hfields := floatFields_abs (x := x) (by rw [h]; exact Exact.noConfusion)
  unfold exactFloat at h ⊢
  rw [hfields]
  split at h
  · split at h <;> cases h
  · cases h
  · next neg f hx =>
    rw [hx]
    obtain ⟨rfl, rfl⟩ := Exact.finite.inj h
    cases neg <;> simp
  · next neg e f h₂ h₁ h₀ hx =>
    rw [hx]
    obtain ⟨rfl, rfl⟩ := Exact.finite.inj h
    have hpos : (0 : ℤ) ≤ f + 4503599627370496 := by omega
    simp only
    cases neg with
    | false => simp only [Bool.false_eq_true, if_false, abs_of_nonneg hpos]
    | true => simp only [Bool.false_eq_true, if_false, if_true, abs_neg, abs_of_nonneg hpos]

theorem exact_of_line (h : a.line = ((q : WithTop ℚ) : Line)) :
    ∃ m e, a.exact = .finite m e ∧ (m * 2 ^ e : ℚ) = q := by
  unfold line at h
  cases he : a.exact with
  | finite m e =>
    rw [he] at h
    exact ⟨m, e, rfl, WithTop.coe_inj.mp (WithBot.coe_inj.mp h)⟩
  | negInf =>
    rw [he] at h
    exact absurd h WithBot.bot_ne_coe
  | posInf =>
    rw [he] at h
    exact absurd (WithBot.coe_inj.mp h) WithTop.top_ne_coe
  | undefined =>
    rw [he] at h
    exact absurd h WithBot.bot_ne_coe

theorem line_abs (h : a.line = ((q : WithTop ℚ) : Line)) : a.abs.line = ((|q| : ℚ) : WithTop ℚ) := by
  obtain ⟨m, e, he, rfl⟩ := exact_of_line h
  have habs : a.abs.exact = .finite |m| e := by
    cases a with
    | int n =>
      obtain ⟨rfl, rfl⟩ := Exact.finite.inj he
      rw [Int.abs_eq_natAbs]
      rfl
    | float x => exact exactFloat_abs he
  have hpos : (0 : ℚ) < 2 ^ e := by positivity
  rw [line, habs, Exact.line, abs_mul, abs_of_pos hpos, Int.cast_abs]

theorem isDefined_abs (h : a.isDefined) : a.abs.isDefined = true := by
  cases a with
  | int n => exact isDefined_int _
  | float x =>
    have hu := unpack_of_defined ((isDefined_iff _).mp h)
    rw [isDefined_iff]
    refine exactFloat_pack (u := x.toModel.unpack.abs) ?_
    cases hx : x.toModel.unpack with
    | notANumber => exact absurd hx hu
    | infinity s => exact UnpackedFloat.noConfusion
    | zero s => exact UnpackedFloat.noConfusion
    | finite s m e hpos => exact UnpackedFloat.noConfusion

theorem le_iff_line (ha : a.isDefined) (hb : b.isDefined) : a.le b = true ↔ a.line ≤ b.line := by
  rw [le, compare?_exact ha hb]
  cases h : compare a.line b.line with
  | lt => simp [(compare_lt_iff_lt.mp h).le]
  | eq => simp [(compare_eq_iff_eq.mp h).le]
  | gt => simp [compare_gt_iff_gt.mp h]

/-! ## A number added to nothing -/

theorem zero_add_float (x : Float) :
    (Rounding.ofInt 0).add x = x ∨ ∃ s, x = Float.ofModel (Float.Model.pack (.zero s)) := by
  have hself : Float.ofModel (Float.Model.pack x.toModel.unpack) = x := ofBits_toBits x
  have hadd : (Rounding.ofInt 0).add x = Float.ofModel (Float.Model.pack
      (UnpackedFloat.add Format.binary64 (.zero .positive) x.toModel.unpack)) := rfl
  rw [hadd]
  cases hx : x.toModel.unpack with
  | notANumber => exact .inl (by rw [← hself, hx]; rfl)
  | infinity s => exact .inl (by rw [← hself, hx]; rfl)
  | zero s => exact .inr ⟨s, by rw [← hself, hx]⟩
  | finite s m e hpos => exact .inl (by rw [← hself, hx]; rfl)

/-- A number that stands alone in a sum is close to the sum. -/
theorem not_lt_sub_of_single (ht : (Number.int 0).add a = .ok b) (hd : b.sub a = .ok c) :
    (Number.float 1e-9).lt c.abs = false := by
  cases a with
  | int n =>
    obtain rfl := Except.ok.inj ht
    rw [zero_add] at hd
    exact not_lt_sub_self hd
  | float x =>
    obtain ⟨z, y, hz, hy, rfl⟩ := onFloats_eq_ok ht
    obtain rfl : x = y := Except.ok.inj hy
    have hsmall : (0 : ℤ).natAbs < floatLimit := by decide +kernel
    rw [toFloat, if_pos hsmall] at hz
    obtain rfl : Rounding.ofInt 0 = z := Except.ok.inj hz
    rcases zero_add_float x with hx | ⟨s, rfl⟩
    · rw [hx] at hd
      exact not_lt_sub_self hd
    · obtain rfl := Except.ok.inj hd
      cases s <;> decide +kernel

theorem exists_sub_of_single (a : Number) : ∃ t d, (Number.int 0).add a = .ok t ∧ t.sub a = .ok d := by
  cases a with
  | int n => exact ⟨_, _, rfl, rfl⟩
  | float x =>
    have hsmall : (0 : ℤ).natAbs < floatLimit := by decide +kernel
    have hadd : (Number.int 0).add (.float x) = .ok (.float ((Rounding.ofInt 0).add x)) := by
      show onFloats Float.add (.int 0) (.float x) = _
      rw [onFloats, toFloat, if_pos hsmall]
      rfl
    exact ⟨_, _, hadd, rfl⟩

/-! ## Sums that do not round -/

/-- A number is the sum of others on the number line: no digit has been lost in adding them up. -/
def AddsUp (l : List Number) (t : Number) : Prop :=
  t.line = (l.map line).sum

theorem line_of_isFinite (h : a.isFinite) : ∃ q : ℚ, a.line = ((q : WithTop ℚ) : Line) := by
  unfold isFinite at h
  split at h
  · next m e hfinite => exact ⟨m * 2 ^ e, by rw [line, hfinite]; rfl⟩
  · cases h

theorem sum_of_isFinite (h : ∀ a ∈ l, a.isFinite = true) :
    ∃ q : ℚ, (l.map line).sum = ((q : WithTop ℚ) : Line) := by
  induction l with
  | nil => exact ⟨0, rfl⟩
  | cons a l ih =>
    obtain ⟨ha, hl⟩ := List.forall_mem_cons.mp h
    obtain ⟨p, hp⟩ := line_of_isFinite ha
    obtain ⟨q, hq⟩ := ih hl
    refine ⟨p + q, ?_⟩
    rw [List.map_cons, List.sum_cons, hp, hq, ← WithBot.coe_add, ← WithTop.coe_add]

/-- What is on the line and close to zero, added to a finite number, stays close to it. -/
theorem close_of_abs_le (ha : a.isFinite) (hc : c.isFinite) (hle : b.abs.le c)
    (hb : b.isDefined) (hq : a.line + b.line = ((q : WithTop ℚ) : Line)) :
    a.line + b.line ≤ a.line + c.line ∧ a.line ≤ a.line + b.line + c.line := by
  obtain ⟨p, hp⟩ := line_of_isFinite ha
  obtain ⟨r, hr⟩ := line_of_isFinite hc
  obtain ⟨d, hd⟩ : ∃ d : ℚ, b.line = ((d : WithTop ℚ) : Line) := by
    rw [hp] at hq
    have hbot : b.line ≠ ⊥ := by
      intro hline
      rw [hline, WithBot.add_bot] at hq
      exact absurd hq WithBot.bot_ne_coe
    obtain ⟨x, hx⟩ := WithBot.ne_bot_iff_exists.mp hbot
    have htop : x ≠ ⊤ := by
      rintro rfl
      rw [← hx, ← WithBot.coe_add, WithTop.add_top] at hq
      exact absurd (WithBot.coe_inj.mp hq) WithTop.top_ne_coe
    obtain ⟨d, rfl⟩ := WithTop.ne_top_iff_exists.mp htop
    exact ⟨d, hx.symm⟩
  have habs : |d| ≤ r := by
    have := (le_iff_line (isDefined_abs hb) (isDefined_of_isFinite hc)).mp hle
    rw [line_abs hd, hr] at this
    exact WithTop.coe_le_coe.mp (WithBot.coe_le_coe.mp this)
  obtain ⟨hlow, hhigh⟩ := abs_le.mp habs
  rw [hp, hd, hr]
  simp only [← WithBot.coe_add, ← WithTop.coe_add, WithBot.coe_le_coe, WithTop.coe_le_coe]
  constructor <;> linarith

/-- The whole number that a number is. -/
def whole? (a : Number) : Option ℤ :=
  a.truncate?.filter fun k => a.eq (.int k)

theorem line_of_whole {k : ℤ} (h : a.whole? = some k) : a.line = (((k : ℚ) : WithTop ℚ) : Line) := by
  obtain ⟨-, heq⟩ := Option.filter_eq_some_iff.mp h
  have hdefined : a.isDefined = true := by
    rw [isDefined_iff]
    intro hnone
    simp [eq, hnone, Exact.compare?] at heq
  rw [(eq_iff_line hdefined (isDefined_int k)).mp heq]
  simp [line, exact, Exact.line]

/-- Whether whole numbers add up to a number, which can be worked out. -/
def addsUpWhole (l : List Number) (t : Number) : Bool :=
  l.all (·.whole?.isSome) && t.whole? == some (l.filterMap whole?).sum

theorem addsUp_of_whole {t : Number} (h : addsUpWhole l t) : AddsUp l t := by
  simp only [addsUpWhole, Bool.and_eq_true, List.all_eq_true, beq_iff_eq] at h
  obtain ⟨hl, ht⟩ := h
  rw [AddsUp, line_of_whole ht]
  clear ht
  induction l with
  | nil => rfl
  | cons a l ih =>
    obtain ⟨ha, hl⟩ := List.forall_mem_cons.mp hl
    obtain ⟨k, hk⟩ := Option.isSome_iff_exists.mp ha
    rw [List.map_cons, List.sum_cons, ← ih hl, line_of_whole hk, List.filterMap_cons_some hk, List.sum_cons,
      Int.cast_add, WithTop.coe_add, WithBot.coe_add]

end Number

end ShapeSearch
