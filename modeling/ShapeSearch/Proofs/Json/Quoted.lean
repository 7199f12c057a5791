import Mathlib.Tactic
import ShapeSearch.Json.Reader
import ShapeSearch.Json.Writer

/-!
# Quoted texts read back

A quoted text is ASCII: what does not stand for itself is an escape, and a character beyond the first
65536 is a pair of units.  The reader undoes each escape (`readText_escape`), so a text reads back up to
its closing quote:

    readText start fuel (s.toList.flatMap escapeChar ++ '"' :: rest) [] = .ok (s, rest)   (readText_quote)
-/

namespace ShapeSearch.Json

theorem hexValue_hexDigit : ∀ n < 16, Text.hexValue? (hexDigit n) = some n := by
  decide

theorem readUnit_hexText {v : ℕ} (h : v < 65536) (r : List Char) :
    readUnit? (hexText 4 v ++ r) = some (v, r) := by
  have htext : hexText 4 v = [hexDigit (v / 4096 % 16), hexDigit (v / 256 % 16), hexDigit (v / 16 % 16),
      hexDigit (v / 1 % 16)] := rfl
  rw [htext]
  simp only [List.cons_append, List.nil_append, readUnit?]
  rw [hexValue_hexDigit _ (Nat.mod_lt _ (by norm_num)), hexValue_hexDigit _ (Nat.mod_lt _ (by norm_num)),
    hexValue_hexDigit _ (Nat.mod_lt _ (by norm_num)), hexValue_hexDigit _ (Nat.mod_lt _ (by norm_num))]
  simp only [Option.bind_eq_bind, Option.bind_some, Option.some.injEq, Prod.mk.injEq, and_true]
  omega

theorem toNat_not_surrogate (c : Char) : c.toNat < 0xd800 ∨ 0xe000 ≤ c.toNat := by
  rcases c.valid with h | ⟨h, -⟩
  · exact .inl h
  · exact .inr h

theorem toNat_lt (c : Char) : c.toNat < 0x110000 := by
  rcases c.valid with h | ⟨-, h⟩
  · exact Nat.lt_trans h (by norm_num)
  · exact h

theorem readEscapedChar_unit {c : Char} (h : c.toNat < 0x10000) (r : List Char) :
    readEscapedChar? (hexText 4 c.toNat ++ r) = some (c, r) := by
  have hs := toNat_not_surrogate c
  unfold readEscapedChar?
  rw [readUnit_hexText h]
  simp only [Option.bind_eq_bind, Option.bind_some, Bool.and_eq_true, decide_eq_true_eq]
  rw [if_neg (by omega), if_neg (by omega), Char.ofNat_toNat]

variable {r fuel : List Char}

theorem readEscapedChar_pair {hi lo : ℕ} (hhi : 0xd800 ≤ hi ∧ hi < 0xdc00) (hlo : 0xdc00 ≤ lo ∧ lo < 0xe000)
    (hr : r ≠ []) :
    readEscapedChar? (hexText 4 hi ++ (unitEscape lo ++ r)) =
      some (Char.ofNat (0x10000 + (hi - 0xd800) * 0x400 + (lo - 0xdc00)), r) := by
  unfold readEscapedChar?
  rw [readUnit_hexText (by omega)]
  simp only [Option.bind_eq_bind, Option.bind_some, Bool.and_eq_true, decide_eq_true_eq]
  rw [if_pos hhi]
  simp only [unitEscape, List.cons_append]
  rw [readUnit_hexText (by omega)]
  simp only
  rw [if_pos ⟨hlo, by simpa using hr⟩]

theorem pair_units {n : ℕ} (h : 0x10000 ≤ n) (hlt : n < 0x110000) :
    ∃ hi lo, 0xd800 + (n - 0x10000) / 0x400 = hi ∧ 0xdc00 + (n - 0x10000) % 0x400 = lo ∧
      (0xd800 ≤ hi ∧ hi < 0xdc00) ∧ (0xdc00 ≤ lo ∧ lo < 0xe000) ∧
      0x10000 + (hi - 0xd800) * 0x400 + (lo - 0xdc00) = n :=
  ⟨_, _, rfl, rfl, by omega, by omega, by omega⟩

theorem readText_unit (start : List Char) {u : List Char} {c x : Char} (out : List Char) (hr : r ≠ [])
    (h : readEscapedChar? u = some (c, r)) :
    readText start (x :: fuel) ('\\' :: 'u' :: u) out = readText start fuel r (c :: out) := by
  obtain ⟨d, r, rfl⟩ := List.exists_cons_of_ne_nil hr
  rw [readText]
  simp [h]

/-- The reader undoes the escape of one character. -/
theorem readText_escape (start : List Char) (c x : Char) (out : List Char) (hr : r ≠ []) :
    readText start (x :: fuel) (escapeChar c ++ r) out = readText start fuel r (c :: out) := by
  unfold escapeChar
  iterate 7
    split
    · next h => rw [beq_iff_eq.mp h]; simp [readText]
  split
  · -- stands for itself
    next hquote hback _ _ _ _ _ h =>
    simp only [Bool.and_eq_true, decide_eq_true_eq] at h
    rw [List.singleton_append, readText.eq_def]
    simp only [if_neg hquote, if_neg hback, if_neg (show ¬c.toNat < 32 by omega)]
  split
  · next h => exact readText_unit start out hr (readEscapedChar_unit h r)
  · next h =>
    obtain ⟨hi, lo, hhi, hlo, hbhi, hblo, hcode⟩ := pair_units (Nat.le_of_not_lt h) (toNat_lt c)
    simp only [hhi, hlo, List.append_assoc]
    have hread := readEscapedChar_pair hbhi hblo hr
    rw [hcode, Char.ofNat_toNat] at hread
    exact readText_unit start out hr hread

theorem escapeChar_ne_nil (c : Char) : escapeChar c ≠ [] := by
  unfold escapeChar unitEscape
  repeat' split
  all_goals simp

theorem readText_escaped (start : List Char) (cs rest : List Char) (out : List Char)
    (h : (cs.flatMap escapeChar ++ '"' :: rest).length ≤ fuel.length) :
    readText start fuel (cs.flatMap escapeChar ++ '"' :: rest) out =
      .ok (String.ofList (out.reverse ++ cs), rest) := by
  induction cs generalizing fuel out with
  | nil =>
    cases fuel with
    | nil => simp at h
    | cons x fuel => simp [readText]
  | cons c cs ih =>
    have hlen : 0 < (escapeChar c).length := List.length_pos_iff.mpr (escapeChar_ne_nil c)
    rw [List.flatMap_cons, List.append_assoc, List.length_append] at h
    cases fuel with
    | nil =>
      simp only [List.length_nil] at h
      omega
    | cons x fuel =>
      rw [List.flatMap_cons, List.append_assoc, readText_escape start c x out (by simp), ih]
      · simp
      · simp only [List.length_cons] at h
        omega

theorem toList_quote (s : String) :
    (quote s).toList = '"' :: (s.toList.flatMap escapeChar ++ ['"']) := by
  simp [quote]

theorem readText_quote (start : List Char) (s : String) (rest : List Char)
    (h : ((quote s).toList ++ rest).length ≤ fuel.length + 1) :
    readText start fuel (s.toList.flatMap escapeChar ++ '"' :: rest) [] = .ok (s, rest) := by
  rw [readText_escaped start s.toList rest []]
  · simp
  · rw [toList_quote] at h
    simp only [List.cons_append, List.append_assoc, List.length_cons, List.nil_append] at h
    omega

end ShapeSearch.Json
