import ShapeSearch.Decimal.Layout
import ShapeSearch.Json.Reader
import ShapeSearch.Proofs.Decimal
import ShapeSearch.Proofs.Number.Bits

/-!
# Written numbers read back

Behind a number stands something that cannot go on with it (`Stops`).  Then a whole number reads back if
it is not too long, and a finite float always reads back as itself, sign and zero included:

    readNumber limits ((intText n).toList ++ rest) = .ok (.ofInt n, rest)           (readNumber_int)
    readNumber limits ((plainFloat x).toList ++ rest) = .ok (.num (.float x), rest) (readNumber_float)
-/

namespace ShapeSearch.Json

open Decimal Rounding

variable {ds : List ℕ} {c : Char} {rest : List Char} {r : ℚ} {x : Float} {m q : ℤ}

/-- What cannot go on with a number. -/
def Stops (rest : List Char) : Prop :=
  ∀ c ∈ rest.head?, c.isDigit = false ∧ c ≠ '.' ∧ c ≠ 'e' ∧ c ≠ 'E'

/-! ## Runs of digits -/

theorem digitChar_spec : ∀ d < 10, (digitChar d).isDigit = true ∧ (digitChar d).toNat - 48 = d ∧
    (digitChar d = '0' ↔ d = 0) := by
  decide

theorem isDigit_of_mem (h : ∀ d ∈ ds, d < 10) (hc : c ∈ ds.map digitChar) : c.isDigit = true := by
  obtain ⟨d, hd, rfl⟩ := List.mem_map.mp hc
  exact (digitChar_spec d (h d hd)).1

theorem digitsValue_map (h : ∀ d ∈ ds, d < 10) : digitsValue (ds.map digitChar) = valueOf ds := by
  unfold digitsValue valueOf
  rw [List.foldl_map]
  exact List.foldl_ext _ _ _ fun n d hd => by rw [(digitChar_spec d (h d hd)).2.1]

/-- A run of digits ends where something else begins. -/
theorem takeWhile_digits {cs : List Char} (h : ∀ c ∈ cs, c.isDigit = true)
    (hr : ∀ c ∈ rest.head?, c.isDigit = false) :
    (cs ++ rest).takeWhile Char.isDigit = cs ∧ (cs ++ rest).dropWhile Char.isDigit = rest := by
  have hrest : rest.takeWhile Char.isDigit = [] ∧ rest.dropWhile Char.isDigit = rest := by
    cases rest with
    | nil => exact ⟨rfl, rfl⟩
    | cons c r =>
      have := hr c rfl
      simp [this]
  rw [List.takeWhile_append_of_pos h, List.dropWhile_append_of_pos h, hrest.1, hrest.2, List.append_nil]
  exact ⟨rfl, rfl⟩

theorem readWhole_digits {a : ℕ} (h : ∀ d ∈ a :: ds, d < 10) (ha : a ≠ 0)
    (hr : ∀ c ∈ rest.head?, c.isDigit = false) :
    readWhole? ((a :: ds).map digitChar ++ rest) = some ((a :: ds).map digitChar, rest) := by
  have hsplit := takeWhile_digits (fun c hc => isDigit_of_mem h hc) hr
  obtain ⟨hdigit, -, hzero⟩ := digitChar_spec a (h a List.mem_cons_self)
  have hne : digitChar a ≠ '0' := fun hc => ha (hzero.mp hc)
  rw [List.map_cons, List.cons_append] at hsplit ⊢
  generalize digitChar a = c at hdigit hne hsplit ⊢
  unfold readWhole?
  split
  · next heq =>
    cases heq
    exact absurd rfl hne
  · next heq =>
    cases heq
    rw [if_pos hdigit, hsplit.1, hsplit.2]
  · next heq => cases heq

theorem readFraction_digits (h : ∀ d ∈ ds, d < 10) (hne : ds ≠ [])
    (hr : ∀ c ∈ rest.head?, c.isDigit = false) :
    readFraction ('.' :: ds.map digitChar ++ rest) = (ds.map digitChar, rest) := by
  have hsplit := takeWhile_digits (fun c hc => isDigit_of_mem h hc) hr
  rw [List.cons_append]
  unfold readFraction
  simp only [hsplit.1, hsplit.2]
  rw [if_neg (by simpa using hne)]

theorem readFraction_none (h : ∀ c ∈ rest.head?, c ≠ '.') : readFraction rest = ([], rest) := by
  unfold readFraction
  split
  · exact absurd rfl (h '.' rfl)
  · rfl

theorem readExponent_none (h : ∀ c ∈ rest.head?, c ≠ 'e' ∧ c ≠ 'E') : readExponent rest = (none, rest) := by
  unfold readExponent
  split
  · next e r =>
    obtain ⟨he, hE⟩ := h e rfl
    rw [if_neg (by simp [he, hE])]
  · rfl

/-! ## Whole numbers -/

/-- The digits that a natural number is written with. -/
def writtenDigits (n : ℕ) : List ℕ :=
  if n = 0 then [0] else digitsOf n

theorem toList_natText (n : ℕ) : (natText n).toList = (writtenDigits n).map digitChar := by
  unfold natText writtenDigits
  split
  · rfl
  · rw [String.toList_ofList]

theorem writtenDigits_lt {n d : ℕ} (h : d ∈ writtenDigits n) : d < 10 := by
  unfold writtenDigits at h
  split at h
  · simp only [List.mem_singleton] at h
    omega
  · exact digitsOf_lt h

theorem valueOf_writtenDigits (n : ℕ) : valueOf (writtenDigits n) = n := by
  unfold writtenDigits
  split
  · next hn => rw [hn]; rfl
  · exact valueOf_digitsOf n

theorem writtenDigits_ne_nil (n : ℕ) : writtenDigits n ≠ [] := by
  unfold writtenDigits
  split
  · simp
  · next hn =>
    obtain ⟨a, r, har, -⟩ := digitsOf_leading (Nat.pos_of_ne_zero hn)
    simp [har]

theorem readWhole_natText (n : ℕ) (hr : ∀ c ∈ rest.head?, c.isDigit = false) :
    readWhole? ((natText n).toList ++ rest) = some ((natText n).toList, rest) := by
  rw [toList_natText]
  by_cases hn : n = 0
  · subst hn
    rfl
  · obtain ⟨a, r, har, ha⟩ := digitsOf_leading (Nat.pos_of_ne_zero hn)
    have hw : writtenDigits n = a :: r := by rw [writtenDigits, if_neg hn, har]
    rw [hw]
    exact readWhole_digits (fun d hd => writtenDigits_lt (hw ▸ hd)) ha hr

/-- The exponent of a float: its mark, its sign and at least two digits. -/
theorem toList_exponentText (e : ℤ) :
    ∃ ds : List ℕ, (exponentText e).toList = 'e' :: (if e < 0 then '-' else '+') :: ds.map digitChar ∧
      ds ≠ [] ∧ (∀ d ∈ ds, d < 10) ∧ valueOf ds = e.natAbs := by
  have hlt : ∀ d ∈ writtenDigits e.natAbs, d < 10 := fun d hd => writtenDigits_lt hd
  have hval := valueOf_writtenDigits e.natAbs
  have hne := writtenDigits_ne_nil e.natAbs
  by_cases hlen : (natText e.natAbs).length < 2
  · refine ⟨0 :: writtenDigits e.natAbs, ?_, by simp, ?_, ?_⟩
    · unfold exponentText
      simp only [hlen, if_true, String.toList_append, toList_natText, List.map_cons]
      split <;> rfl
    · intro d hd
      rcases List.mem_cons.mp hd with rfl | hd
      · norm_num
      · exact hlt d hd
    · rw [valueOf_cons, hval]
      omega
  · refine ⟨writtenDigits e.natAbs, ?_, hne, hlt, hval⟩
    unfold exponentText
    simp only [hlen, if_false, String.toList_append, toList_natText]
    split <;> rfl

theorem readExponent_text (e : ℤ) (hr : ∀ c ∈ rest.head?, c.isDigit = false) :
    readExponent ((exponentText e).toList ++ rest) = (some e, rest) := by
  obtain ⟨ds, htext, hne, hlt, hval⟩ := toList_exponentText e
  have hsplit := takeWhile_digits (fun c hc => isDigit_of_mem hlt hc) hr
  have hsome : ¬(ds.map digitChar).isEmpty = true := by simpa using hne
  rw [htext]
  unfold readExponent
  by_cases he : e < 0
  · have hneg : -(e.natAbs : ℤ) = e := by omega
    simp only [he, if_true, List.cons_append, hsplit.1, hsplit.2, digitsValue_map hlt, hval]
    rw [if_pos (by decide), if_neg hsome, hneg]
  · have hpos : (e.natAbs : ℤ) = e := by omega
    simp only [he, if_false, List.cons_append, hsplit.1, hsplit.2, digitsValue_map hlt, hval]
    rw [if_pos (by decide), if_neg hsome]
    simp only [Bool.false_eq_true, if_false, hpos]

/-! ## Numerals of floats -/

/-- A numeral by its parts. -/
def numeral (whole fraction : List ℕ) (exponent : Option ℤ) : List Char :=
  whole.map digitChar ++ ((if fraction = [] then [] else '.' :: fraction.map digitChar) ++
    exponent.elim [] fun e => (exponentText e).toList)

/-- A text is read as the float nearest to `r`, whatever stands behind it. -/
def Reads (text : List Char) (r : ℚ) : Prop :=
  ∀ rest, Stops rest → ∃ whole fraction exponent mid last,
    readWhole? (text ++ rest) = some (whole, mid) ∧ readFraction mid = (fraction, last) ∧
    readExponent last = (exponent, rest) ∧ (fraction.isEmpty && exponent.isNone) = false ∧
    (digitsValue (whole ++ fraction) : ℚ) * 10 ^ (exponent.getD 0 - fraction.length) = r

theorem head_exponent (exponent : Option ℤ) (hr : Stops rest) :
    ∀ c ∈ (exponent.elim [] (fun e => (exponentText e).toList) ++ rest).head?,
      c.isDigit = false ∧ c ≠ '.' := by
  intro c hc
  cases exponent with
  | none =>
    have := hr c hc
    exact ⟨this.1, this.2.1⟩
  | some e =>
    obtain ⟨ds, htext, -⟩ := toList_exponentText e
    simp only [Option.elim_some, htext, List.cons_append, List.head?_cons, Option.mem_def,
      Option.some.injEq] at hc
    subst hc
    decide

theorem readExponent_elim (exponent : Option ℤ) (hr : Stops rest) :
    readExponent (exponent.elim [] (fun e => (exponentText e).toList) ++ rest) = (exponent, rest) := by
  cases exponent with
  | none => exact readExponent_none fun c hc => (hr c hc).2.2
  | some e => exact readExponent_text e fun c hc => (hr c hc).1

theorem readWhole_map {whole : List ℕ} (hsmall : ∀ d ∈ whole, d < 10)
    (hw : whole = [0] ∨ ∃ a r, whole = a :: r ∧ a ≠ 0) (hr : ∀ c ∈ rest.head?, c.isDigit = false) :
    readWhole? (whole.map digitChar ++ rest) = some (whole.map digitChar, rest) := by
  rcases hw with rfl | ⟨a, r, rfl, ha⟩
  · rfl
  · exact readWhole_digits hsmall ha hr

theorem reads_numeral (whole fraction : List ℕ) (exponent : Option ℤ) (hsmall : ∀ d ∈ whole ++ fraction, d < 10)
    (hw : whole = [0] ∨ ∃ a r, whole = a :: r ∧ a ≠ 0) (hfloat : fraction ≠ [] ∨ exponent.isSome = true)
    (hval : (valueOf (whole ++ fraction) : ℚ) * 10 ^ (exponent.getD 0 - fraction.length) = r) :
    Reads (numeral whole fraction exponent) r := by
  intro rest hr
  have hwhole : ∀ d ∈ whole, d < 10 := fun d hd => hsmall d (List.mem_append_left _ hd)
  have hfraction : ∀ d ∈ fraction, d < 10 := fun d hd => hsmall d (List.mem_append_right _ hd)
  have hhead := head_exponent exponent hr
  set tail := exponent.elim [] (fun e => (exponentText e).toList) ++ rest with htail
  refine ⟨whole.map digitChar, fraction.map digitChar, exponent,
    (if fraction = [] then [] else '.' :: fraction.map digitChar) ++ tail, tail, ?_, ?_,
    readExponent_elim exponent hr, ?_, ?_⟩
  · rw [numeral, List.append_assoc, List.append_assoc, ← htail]
    refine readWhole_map hwhole hw fun c hc => ?_
    split at hc
    · exact (hhead c hc).1
    · obtain rfl : '.' = c := by simpa using hc
      decide
  · split
    · next hnil =>
      rw [hnil]
      exact readFraction_none fun c hc => (hhead c hc).2
    · next hne => exact readFraction_digits hfraction hne fun c hc => (hhead c hc).1
  · rcases hfloat with hne | hsome
    · simp [hne]
    · simp [Option.isNone_eq_false_iff.mpr hsome]
  · rw [← List.map_append, digitsValue_map hsmall, List.length_map]
    exact hval

/-- The text of positive digits is a numeral by its parts. -/
theorem text_eq_numeral {D : Digits} (h : D.Spells r) :
    ∃ whole fraction exponent, (plainLayout.text D).toList = numeral whole fraction exponent ∧
      (∀ d ∈ whole ++ fraction, d < 10) ∧ (whole = [0] ∨ ∃ a r, whole = a :: r ∧ a ≠ 0) ∧
      (fraction ≠ [] ∨ exponent.isSome = true) ∧
      (valueOf (whole ++ fraction) : ℚ) * 10 ^ (exponent.getD 0 - fraction.length) = r := by
  obtain ⟨hsmall, ⟨a, ds, hds, ha⟩, hval⟩ := h
  have hten : (10 : ℚ) ≠ 0 := by norm_num
  unfold Layout.text
  simp only
  split
  · -- with a mark: one digit before the point
    refine ⟨[a], ds, some (D.point - 1), ?_, by simpa [hds] using hsmall, .inr ⟨a, [], rfl, ha⟩,
      .inr rfl, ?_⟩
    · rw [hds, numeral]
      cases ds with
      | nil => simp [digitText]
      | cons b ds => simp [digitText]
    · rw [← hval, hds]
      simp only [Option.getD_some, List.singleton_append, List.length_cons, Nat.cast_add, Nat.cast_one]
      congr 2
      ring
  · split
    · -- below one: zeros between the point and the digits
      next hp =>
      refine ⟨[0], List.replicate (-D.point).toNat 0 ++ D.digits, none, ?_, ?_, .inl rfl, ?_, ?_⟩
      · simp [numeral, digitText, hds]
        rfl
      · intro d hd
        simp only [List.singleton_append, List.mem_cons, List.mem_append, List.mem_replicate] at hd
        rcases hd with rfl | ⟨-, rfl⟩ | hd
        · norm_num
        · norm_num
        · exact hsmall d hd
      · simp [hds]
      · have hlen : (0 - ((List.replicate (-D.point).toNat 0 ++ D.digits).length : ℤ)) =
            D.point - D.digits.length := by
          rw [List.length_append, List.length_replicate]
          omega
        rw [Option.getD_none, hlen, valueOf_append, valueOf_append, valueOf_zeros, ← hval]
        simp [valueOf]
    · next hp =>
      split
      · -- whole: zeros up to the point
        next hlen =>
        refine ⟨D.digits ++ List.replicate (D.point.toNat - D.digits.length) 0, [0], none, ?_, ?_,
          .inr ⟨a, ds ++ List.replicate (D.point.toNat - D.digits.length) 0, by rw [hds]; rfl, ha⟩,
          .inl (by simp), ?_⟩
        · simp [numeral, digitText, plainLayout]
          rfl
        · intro d hd
          simp only [List.mem_append, List.mem_replicate, List.mem_singleton] at hd
          rcases hd with (hd | ⟨-, rfl⟩) | rfl
          · exact hsmall d hd
          · norm_num
          · norm_num
        · have hexp : D.point - D.digits.length = ((D.point.toNat - D.digits.length : ℕ) : ℤ) := by omega
          rw [← hval, hexp, zpow_natCast, valueOf_append, valueOf_append, valueOf_zeros]
          simp [valueOf]
      · -- the point stands among the digits
        next hlen =>
        refine ⟨D.digits.take D.point.toNat, D.digits.drop D.point.toNat, none, ?_, ?_, ?_, ?_, ?_⟩
        · rw [numeral, if_neg (by simp; omega)]
          simp [digitText]
        · rw [List.take_append_drop]
          exact hsmall
        · refine .inr ⟨a, ds.take (D.point.toNat - 1), ?_, ha⟩
          rw [hds]
          exact List.take_cons (by omega)
        · left
          simp
          omega
        · have hexp : (0 - ((D.digits.drop D.point.toNat).length : ℤ)) = D.point - D.digits.length := by
            rw [List.length_drop]
            omega
          rw [List.take_append_drop, Option.getD_none, hexp, hval]

/-! ## Signed numerals -/

/-- A sign as it is written. -/
def signText (sign : Bool) : List Char :=
  if sign then ['-'] else []

theorem readNumber_signed (limits : Limits) (sign : Bool) {t whole mid : List Char}
    (h : readWhole? t = some (whole, mid)) :
    readNumber limits (signText sign ++ t) =
      if (readFraction mid).1.isEmpty && (readExponent (readFraction mid).2).1.isNone then
        if limits.digits < whole.length then .error ⟨.longNumber, signText sign ++ t⟩
        else .ok (.ofInt (if sign then -(digitsValue whole : ℤ) else digitsValue whole),
          (readExponent (readFraction mid).2).2)
      else
        let x := ofDecimal (digitsValue (whole ++ (readFraction mid).1))
          ((readExponent (readFraction mid).2).1.getD 0 - (readFraction mid).1.length)
        .ok (.num (.float (if sign then -x else x)), (readExponent (readFraction mid).2).2) := by
  cases sign with
  | true =>
    unfold readNumber
    simp only [signText, if_true, List.singleton_append, h]
  | false =>
    have hminus : ∀ r, t ≠ '-' :: r := by
      rintro r rfl
      cases h
    unfold readNumber
    simp only [signText, Bool.false_eq_true, if_false, List.nil_append, h]

theorem readNumber_reads {text : List Char} (h : Reads text r) (limits : Limits) (sign : Bool) (hr : Stops rest) :
    ∃ (mantissa : ℕ) (exponent : ℤ), (mantissa : ℚ) * 10 ^ exponent = r ∧
      readNumber limits (signText sign ++ text ++ rest) =
        .ok (.num (.float (if sign then -ofDecimal mantissa exponent else ofDecimal mantissa exponent)),
          rest) := by
  obtain ⟨whole, fraction, exponent, mid, last, hwhole, hfraction, hexponent, hfloat, hval⟩ := h rest hr
  refine ⟨_, _, hval, ?_⟩
  rw [List.append_assoc, readNumber_signed limits sign hwhole, hfraction]
  simp only [hexponent, hfloat]
  rfl

theorem intText_eq (n : ℤ) :
    (intText n).toList = signText (decide (n < 0)) ++ (natText n.natAbs).toList := by
  cases n with
  | ofNat n => rfl
  | negSucc n =>
    rw [intText, String.toList_append, signText, if_pos (by simp [Int.negSucc_lt_zero])]
    rfl

theorem readNumber_int (limits : Limits) (n : ℤ) (hr : Stops rest) :
    readNumber limits ((intText n).toList ++ rest) =
      if limits.digits < (natText n.natAbs).toList.length then
        .error ⟨.longNumber, (intText n).toList ++ rest⟩
      else .ok (.ofInt n, rest) := by
  have hdigit : ∀ c ∈ rest.head?, c.isDigit = false := fun c hc => (hr c hc).1
  have hvalue : digitsValue (natText n.natAbs).toList = n.natAbs := by
    rw [toList_natText, digitsValue_map fun d hd => writtenDigits_lt hd, valueOf_writtenDigits]
  rw [intText_eq, List.append_assoc, readNumber_signed limits _ (readWhole_natText n.natAbs hdigit),
    readFraction_none fun c hc => (hr c hc).2.1]
  simp only [readExponent_none fun c hc => (hr c hc).2.2, List.isEmpty_nil, Option.isNone_none,
    Bool.and_self, if_true, hvalue]
  split
  · rfl
  · have hvalue : (if decide (n < 0) = true then -(n.natAbs : ℤ) else n.natAbs) = n := by
      by_cases hn : n < 0
      · rw [if_pos (decide_eq_true hn)]
        omega
      · rw [if_neg (by simpa using hn)]
        omega
    rw [hvalue]

theorem narrowBelow_eq (h : Number.exactFloat x = .finite m q) : narrowBelow x = decide (Narrow m.natAbs q) := by
  obtain ⟨-, -, -, -, -, hnarrow⟩ := Number.exactFloat_finite h
  rw [Bool.eq_iff_iff, decide_eq_true_iff, Narrow, ← hnarrow]
  simp [narrowBelow]

/-- The text of a finite float: a sign and a numeral of a decimal that reads as the float. -/
theorem plainFloat_eq (h : Number.exactFloat x = .finite m q) :
    ∃ whole fraction exponent r,
      (plainFloat x).toList = signText (Number.floatFields x).1 ++ numeral whole fraction exponent ∧
      (∀ d ∈ whole ++ fraction, d < 10) ∧ Reads (numeral whole fraction exponent) r ∧
      ∀ (mantissa : ℕ) (e : ℤ), (mantissa : ℚ) * 10 ^ e = r →
        ofDecimal mantissa e = Float.ofBits (UInt64.ofNat ((q + 1074).toNat * 2 ^ 52 + m.natAbs)) := by
  obtain ⟨hlt, hleast, hmost, hfull, -, -⟩ := Number.exactFloat_finite h
  have hsign : (if (Number.floatFields x).1 then "-" else "").toList =
      signText (Number.floatFields x).1 := by
    unfold signText
    split <;> rfl
  by_cases hm : m = 0
  · subst hm
    have hq : q = -1074 := by
      rcases hfull with hq | hq
      · exact hq
      · simp at hq
    refine ⟨[0], [0], none, 0, ?_, by decide,
      reads_numeral [0] [0] none (by decide) (.inl rfl) (.inl (by simp)) (by simp [valueOf]), ?_⟩
    · rw [plainFloat, floatText]
      simp only [h, if_true, String.toList_append, hsign]
      rfl
    · intro mantissa e hval
      have hmantissa : mantissa = 0 := by
        have : (10 : ℚ) ^ e ≠ 0 := by positivity
        simpa [this] using hval
      rw [hmantissa, hq, ofDecimal]
      simp only [if_true]
      decide +kernel
  · have hf : IsFloat m.natAbs q := ⟨by omega, hlt, hleast, hmost, hfull⟩
    obtain ⟨r, hcell, hspells⟩ := shortest_spells hf
    obtain ⟨whole, fraction, exponent, htext, hsmall, hw, hfloat, hval⟩ := text_eq_numeral hspells
    refine ⟨whole, fraction, exponent, r, ?_, hsmall,
      reads_numeral whole fraction exponent hsmall hw hfloat hval, ?_⟩
    · rw [plainFloat, floatText]
      simp only [h, hm, if_false, String.toList_append, hsign, narrowBelow_eq h, htext]
    · intro mantissa e hval
      exact ofDecimal_eq hf (hval ▸ hcell)

/-- A finite float reads back as itself, zero and its sign included. -/
theorem readNumber_float (limits : Limits) (h : Number.exactFloat x = .finite m q) (hr : Stops rest) :
    readNumber limits ((plainFloat x).toList ++ rest) = .ok (.num (.float x), rest) := by
  obtain ⟨whole, fraction, exponent, r, htext, -, hreads, hfloat⟩ := plainFloat_eq h
  obtain ⟨mantissa, e, hval, hread⟩ := readNumber_reads hreads limits (Number.floatFields x).1 hr
  rw [htext, hread, hfloat mantissa e hval, ← Number.eq_signed h]

/-! ## The characters of numbers -/

theorem mem_signText {sign : Bool} (h : c ∈ signText sign) : c = '-' := by
  cases sign with
  | true => exact List.mem_singleton.mp h
  | false => cases h

theorem mem_numeral {whole fraction : List ℕ} {exponent : Option ℤ} (hsmall : ∀ d ∈ whole ++ fraction, d < 10)
    (h : c ∈ numeral whole fraction exponent) : c.isDigit = true ∨ c ∈ ['.', 'e', '+', '-'] := by
  simp only [numeral, List.mem_append] at h
  rcases h with h | h | h
  · exact .inl (isDigit_of_mem (fun d hd => hsmall d (List.mem_append_left _ hd)) h)
  · split at h
    · cases h
    · rcases List.mem_cons.mp h with rfl | h
      · exact .inr (by decide)
      · exact .inl (isDigit_of_mem (fun d hd => hsmall d (List.mem_append_right _ hd)) h)
  · cases exponent with
    | none => cases h
    | some e =>
      obtain ⟨ds, htext, -, hlt, -⟩ := toList_exponentText e
      simp only [Option.elim_some, htext, List.mem_cons] at h
      rcases h with rfl | rfl | h
      · exact .inr (by decide)
      · split <;> exact .inr (by decide)
      · exact .inl (isDigit_of_mem hlt h)

/-- A finite number is written with digits, signs, a point and a mark. -/
theorem mem_plain {n : Number} (h : n.exact = .finite m q) (hc : c ∈ (Decimal.plain n).toList) :
    c.isDigit = true ∨ c ∈ ['.', 'e', '+', '-'] := by
  cases n with
  | int n =>
    rw [Decimal.plain, intText_eq, List.mem_append, toList_natText] at hc
    rcases hc with hc | hc
    · exact .inr (by simp [mem_signText hc])
    · exact .inl (isDigit_of_mem (fun d hd => writtenDigits_lt hd) hc)
  | float x =>
    obtain ⟨whole, fraction, exponent, r, htext, hsmall, -, -⟩ := plainFloat_eq h
    rw [Decimal.plain, htext, List.mem_append] at hc
    rcases hc with hc | hc
    · exact .inr (by simp [mem_signText hc])
    · exact mem_numeral hsmall hc

end ShapeSearch.Json
