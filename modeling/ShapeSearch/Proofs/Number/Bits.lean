import Mathlib
import ShapeSearch.Number

/-!
# Floats by their bits

A float is its bits: a sign, a biased exponent of 11 bits and a fraction of 52 bits.  Taking a float apart
and putting it together gives it back (`ofBits_toBits`), and negation switches the sign bit
(`neg_ofBits`).  There is one float that is no number (`eq_nan`).
-/

namespace ShapeSearch.Number

open Float.Model Float.Model.UnpackedFloat

variable {b : BitVec 64} {n : Nat} {x : Float}

/-! ## The parts of a bit pattern -/

theorem toNat_packComponents (s : Sign) (e : BitVec 11) (m : BitVec 52) :
    (packComponents Format.binary64 s e m).toNat =
      s.toBitVec.toNat * 2 ^ 63 + e.toNat * 2 ^ 52 + m.toNat := by
  have hm := m.isLt
  have he := e.isLt
  simp only [packComponents]
  rw [BitVec.toNat_append, ← Nat.shiftLeft_add_eq_or_of_lt hm, BitVec.toNat_append,
    ← Nat.shiftLeft_add_eq_or_of_lt he, Nat.shiftLeft_eq, Nat.shiftLeft_eq]
  ring

theorem toNat_unpackMantissa (b : BitVec 64) :
    (@unpackMantissa Format.binary64 b).toNat = b.toNat % 2 ^ 52 := by
  simp [unpackMantissa]

theorem toNat_unpackExponent (b : BitVec 64) :
    (@unpackExponent Format.binary64 b).toNat = b.toNat / 2 ^ 52 % 2 ^ 11 := by
  simp [unpackExponent, Nat.shiftRight_eq_div_pow]

theorem toNat_unpackSign (b : BitVec 64) :
    (@unpackSign Format.binary64 b).toNat = b.toNat / 2 ^ 63 := by
  have := b.isLt
  simp [unpackSign, Nat.shiftRight_eq_div_pow]
  omega

theorem joined_parts (b : BitVec 64) :
    packComponents Format.binary64 (Sign.ofBitVec (@unpackSign Format.binary64 b))
      (@unpackExponent Format.binary64 b) (@unpackMantissa Format.binary64 b) = b := by
  have hs : ∀ v : BitVec 1, (Sign.ofBitVec v).toBitVec = v := by decide
  have hb := b.isLt
  apply BitVec.eq_of_toNat_eq
  rw [toNat_packComponents, hs, toNat_unpackSign, toNat_unpackExponent, toNat_unpackMantissa]
  omega

/-! ## Packing what was unpacked -/

/-- A finite bit pattern stands for a number with a sign, and that number with either sign packs into the
same exponent and fraction. -/
theorem unpack_finite (h : @unpackExponent Format.binary64 b ≠ -1#11) :
    ∃ f : Sign → UnpackedFloat,
      UnpackedFloat.unpack Format.binary64 b = f (Sign.ofBitVec (@unpackSign Format.binary64 b)) ∧
      (∀ s, (f s).neg = f (-s)) ∧
      ∀ s, UnpackedFloat.pack Format.binary64 (f s) = packComponents Format.binary64 s
        (@unpackExponent Format.binary64 b) (@unpackMantissa Format.binary64 b) := by
  have he : (@unpackExponent Format.binary64 b).toNat < 2 ^ 11 := BitVec.isLt _
  have hm : (@unpackMantissa Format.binary64 b).toNat < 2 ^ 52 := BitVec.isLt _
  have hne : (@unpackExponent Format.binary64 b).toNat ≠ 2047 :=
    fun hc => h (BitVec.eq_of_toNat_eq (by rw [hc]; rfl))
  have hbias : Format.binary64.exponentBias = 1023 := rfl
  have hbits : Format.binary64.mantissaBits = 53 := rfl
  unfold UnpackedFloat.unpack
  simp only [h, if_false]
  split
  · next hz =>
    split
    · next hzero => exact ⟨.zero, rfl, fun s => rfl, fun s => by rw [hz, hzero]; rfl⟩
    · next hsub =>
      refine ⟨fun s => .finite s _ _ _, rfl, fun s => rfl, fun s => ?_⟩
      have hlog : (@unpackMantissa Format.binary64 b).toNat.log2 < 52 :=
        (Nat.log2_lt (fun hc => hsub (BitVec.eq_of_toNat_eq hc))).mpr hm
      simp only [UnpackedFloat.pack, hz, hbias, hbits]
      rw [if_neg (by simp), if_neg (by omega)]
      rw [BitVec.ofNat_toNat, BitVec.setWidth_eq]
  · next hn =>
    refine ⟨fun s => .finite s _ _ _, rfl, fun s => rfl, fun s => ?_⟩
    have hpos : (@unpackExponent Format.binary64 b).toNat ≠ 0 :=
      fun hc => hn (BitVec.eq_of_toNat_eq hc)
    have happ : (1#1 ++ @unpackMantissa Format.binary64 b).toNat =
        2 ^ 52 + (@unpackMantissa Format.binary64 b).toNat := by
      rw [BitVec.toNat_append, ← Nat.shiftLeft_add_eq_or_of_lt hm, Nat.shiftLeft_eq]
      rfl
    have hlog : (1#1 ++ @unpackMantissa Format.binary64 b).toNat.log2 = 52 := by
      rw [happ, Nat.log2_eq_iff (by omega)]
      omega
    simp only [UnpackedFloat.pack, hlog, hbias, hbits]
    have hexp : ((@unpackExponent Format.binary64 b).toNat - ((1023 : Nat) + (52 : Nat) : Int) +
        (1023 : Nat) + (52 : Nat)).toNat = (@unpackExponent Format.binary64 b).toNat := by omega
    rw [hexp, if_neg (by omega), if_pos trivial, BitVec.ofNat_toNat, BitVec.setWidth_eq, happ]
    congr 1
    apply BitVec.eq_of_toNat_eq
    rw [BitVec.toNat_ofNat]
    omega

theorem pack_unpack_finite (h : @unpackExponent Format.binary64 b ≠ -1#11) :
    UnpackedFloat.pack Format.binary64 (UnpackedFloat.unpack Format.binary64 b) = b := by
  obtain ⟨f, hf, -, hpack⟩ := unpack_finite h
  rw [hf, hpack, joined_parts]

theorem pack_unpack (h : Format.binary64.Valid b) :
    UnpackedFloat.pack Format.binary64 (UnpackedFloat.unpack Format.binary64 b) = b := by
  by_cases he : @unpackExponent Format.binary64 b = -1#11
  · by_cases hm : @unpackMantissa Format.binary64 b = 0#52
    · have hj := joined_parts b
      rw [he, hm] at hj
      simp only [UnpackedFloat.unpack, he, hm, if_true, UnpackedFloat.pack]
      exact hj
    · have hnan := h.eq_packedNaN he hm
      simp only [UnpackedFloat.unpack, he, hm, if_true, if_false, UnpackedFloat.pack]
      exact hnan.symm
  · exact pack_unpack_finite he

theorem ofBits_toBits (x : Float) : Float.ofBits x.toBits = x := by
  obtain ⟨⟨bits, hv⟩⟩ := x
  show Float.ofModel (Float.Model.ofBits bits) = _
  congr 1
  unfold Float.Model.ofBits Float.Model.pack
  congr 1
  rw [pack_unpack hv]

theorem ofBits_ofNat (x : Float) : Float.ofBits (UInt64.ofNat x.toBits.toNat) = x := by
  rw [UInt64.ofNat_toNat, ofBits_toBits]

/-- The exponent of a bit pattern below those of infinity, with a sign or without. -/
theorem unpackExponent_ne {k : Nat} (h : n < 2047 * 2 ^ 52) (hk : k = n ∨ k = n + 2 ^ 63) :
    @unpackExponent Format.binary64 (BitVec.ofNat 64 k) ≠ -1#11 := by
  intro hc
  have hn := congrArg BitVec.toNat hc
  rw [toNat_unpackExponent, BitVec.toNat_ofNat] at hn
  have : (-1#11).toNat = 2047 := rfl
  rw [this] at hn
  rcases hk with rfl | rfl <;> omega

theorem pack_neg_unpack (h : n < 2047 * 2 ^ 52) :
    UnpackedFloat.pack Format.binary64
      (UnpackedFloat.unpack Format.binary64 (BitVec.ofNat 64 n)).neg = BitVec.ofNat 64 (n + 2 ^ 63) := by
  have hsign : @unpackSign Format.binary64 (BitVec.ofNat 64 n) = 0#1 := by
    apply BitVec.eq_of_toNat_eq
    rw [toNat_unpackSign, BitVec.toNat_ofNat, BitVec.toNat_ofNat]
    omega
  obtain ⟨f, hf, hswitch, hpack⟩ := unpack_finite (unpackExponent_ne h (.inl rfl))
  have hbit : (-Sign.ofBitVec 0#1).toBitVec.toNat = 1 := rfl
  have hbits : (BitVec.ofNat 64 (n + 2 ^ 63)).toNat = n + 2 ^ 63 := by
    rw [BitVec.toNat_ofNat]
    omega
  rw [hf, hswitch, hpack, hsign]
  refine BitVec.eq_of_toNat_eq (Eq.trans ?_ hbits.symm)
  rw [toNat_packComponents, toNat_unpackExponent, toNat_unpackMantissa, BitVec.toNat_ofNat]
  omega

theorem neg_ofBits (h : n < 2047 * 2 ^ 52) :
    -Float.ofBits (UInt64.ofNat n) = Float.ofBits (UInt64.ofNat (n + 2 ^ 63)) := by
  show Float.ofModel (Float.Model.ofBits (UInt64.ofNat n)).neg =
    Float.ofModel (Float.Model.ofBits (UInt64.ofNat (n + 2 ^ 63)))
  simp only [Float.Model.ofBits, Float.Model.neg, Float.Model.unpack, Float.Model.pack,
    UInt64.toBitVec_ofNat', pack_unpack_finite (unpackExponent_ne h (.inl rfl)),
    pack_unpack_finite (unpackExponent_ne h (.inr rfl)), pack_neg_unpack h]

/-! ## Values off the number line -/

theorem floatFields_bits (x : Float) :
    x.toBits.toNat = (if (floatFields x).1 then 2 ^ 63 else 0) + (floatFields x).2.1 * 2 ^ 52 +
      (floatFields x).2.2 := by
  have h : x.toBits.toNat < 2 ^ 64 := x.toBits.toNat_lt
  simp only [floatFields, Nat.pow_eq, beq_iff_eq]
  by_cases hs : x.toBits.toNat / 2 ^ 63 = 1
  · rw [if_pos hs]
    omega
  · rw [if_neg hs]
    omega

theorem eq_of_toBits {y : Float} (h : x.toBits = y.toBits) : x = y := by
  rw [← ofBits_toBits x, h, ofBits_toBits]

/-- A float is no number exactly if its exponent is the largest and its fraction is not zero. -/
theorem exactFloat_eq_undefined :
    exactFloat x = .undefined ↔ (floatFields x).2.1 = 2047 ∧ (floatFields x).2.2 ≠ 0 := by
  unfold exactFloat
  split
  · next neg hx => cases neg <;> simp [hx]
  · next hne hx =>
    rw [hx]
    exact iff_of_true rfl ⟨rfl, hne⟩
  · next hx => simp [hx]
  · next hne _ hx =>
    rw [hx]
    exact iff_of_false nofun fun h => hne h.1

/-- A float is finite exactly if its exponent is not the largest. -/
theorem exactFloat_finite_iff : (∃ m q, exactFloat x = .finite m q) ↔ (floatFields x).2.1 ≠ 2047 := by
  unfold exactFloat
  split
  · next neg hx => cases neg <;> simp [hx]
  · next hx => simp [hx]
  · next hx => simp [hx]
  · next hne _ hx =>
    rw [hx]
    exact iff_of_true ⟨_, _, rfl⟩ hne

/-- There is one float that is no number. -/
theorem eq_nan (h : exactFloat x = .undefined) : x = 0.0 / 0.0 := by
  have hfields := exactFloat_eq_undefined.mp h
  have hnan : (0.0 / 0.0 : Float).toBits = 0x7ff8000000000000 := by decide +kernel
  refine eq_of_toBits (Eq.trans ?_ hnan.symm)
  obtain ⟨⟨bits, hv⟩⟩ := x
  have he : @unpackExponent Format.binary64 bits.toBitVec = -1#11 := by
    apply BitVec.eq_of_toNat_eq
    rw [toNat_unpackExponent]
    exact hfields.1
  have hm : @unpackMantissa Format.binary64 bits.toBitVec ≠ 0#52 := by
    intro hz
    have := congrArg BitVec.toNat hz
    rw [toNat_unpackMantissa] at this
    exact hfields.2 this
  show bits = 0x7ff8000000000000
  exact UInt64.toBitVec_inj.mp (hv.eq_packedNaN he hm)

/-- The infinities differ in their signs only. -/
theorem toBits_infinite (neg : Bool) (h : exactFloat x = if neg then .negInf else .posInf) :
    x.toBits.toNat = (if neg then 2 ^ 63 else 0) + 2047 * 2 ^ 52 := by
  have hbits := floatFields_bits x
  unfold exactFloat at h
  split at h
  · next sign hx =>
    have hsign : sign = neg := by
      cases sign <;> cases neg <;> first | rfl | cases h
    simpa only [hx, hsign, Nat.add_zero] using hbits
  all_goals cases neg <;> cases h

theorem eq_posInf (h : exactFloat x = .posInf) : x = 1.0 / 0.0 := by
  have hinf : (1.0 / 0.0 : Float).toBits = 0x7ff0000000000000 := by decide +kernel
  refine eq_of_toBits (Eq.trans (UInt64.toNat_inj.mp ?_) hinf.symm)
  rw [toBits_infinite false h]
  rfl

theorem eq_negInf (h : exactFloat x = .negInf) : x = -1.0 / 0.0 := by
  have hinf : (-1.0 / 0.0 : Float).toBits = 0xfff0000000000000 := by decide +kernel
  refine eq_of_toBits (Eq.trans (UInt64.toNat_inj.mp ?_) hinf.symm)
  rw [toBits_infinite true h]
  rfl

/-! ## Finite floats -/

/-- What the mantissa and the exponent of a finite float say about its fields. -/
theorem exactFloat_finite {m q : Int} (h : exactFloat x = .finite m q) :
    m.natAbs < 2 ^ 53 ∧ -1074 ≤ q ∧ q ≤ 971 ∧ (q = -1074 ∨ 2 ^ 52 ≤ m.natAbs) ∧
      (floatFields x).2.1 * 2 ^ 52 + (floatFields x).2.2 = (q + 1074).toNat * 2 ^ 52 + m.natAbs ∧
      ((floatFields x).2.2 = 0 ∧ 1 < (floatFields x).2.1 ↔ m.natAbs = 2 ^ 52 ∧ -1074 < q) := by
  have he : (floatFields x).2.1 < 2048 := Nat.mod_lt _ (by norm_num)
  have hf : (floatFields x).2.2 < 2 ^ 52 := Nat.mod_lt _ (by norm_num)
  unfold exactFloat at h
  split at h
  · split at h <;> cases h
  · cases h
  · next neg f hx =>
    rw [hx] at hf ⊢
    simp only at hf ⊢
    cases neg with
    | false =>
      simp only [Bool.false_eq_true, if_false, Exact.finite.injEq] at h
      omega
    | true =>
      simp only [if_true, Exact.finite.injEq] at h
      omega
  · next neg e f _ hne h0 hx =>
    rw [hx] at he hf ⊢
    simp only at he hf ⊢
    have hne' : e ≠ 2047 := hne
    have h0' : e ≠ 0 := h0
    cases neg with
    | false =>
      simp only [Bool.false_eq_true, if_false, Exact.finite.injEq] at h
      omega
    | true =>
      simp only [if_true, Exact.finite.injEq] at h
      omega

/-- A finite float is a positive one with its sign. -/
theorem eq_signed {m q : Int} (h : exactFloat x = .finite m q) :
    x = if (floatFields x).1 then
        -Float.ofBits (UInt64.ofNat ((q + 1074).toNat * 2 ^ 52 + m.natAbs))
      else Float.ofBits (UInt64.ofNat ((q + 1074).toNat * 2 ^ 52 + m.natAbs)) := by
  obtain ⟨hm, -, hq, -, hsum, -⟩ := exactFloat_finite h
  have hbits := floatFields_bits x
  conv_lhs => rw [← ofBits_ofNat x, hbits]
  split
  · rw [neg_ofBits (by omega), ← hsum]
    congr 2
    omega
  · rw [← hsum, Nat.zero_add]

end ShapeSearch.Number
