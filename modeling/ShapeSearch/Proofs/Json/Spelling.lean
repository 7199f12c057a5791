import Mathlib.Data.List.TakeWhile
import ShapeSearch.Json.Reader
import ShapeSearch.Proofs.Fields
import ShapeSearch.Text.Blank

/-!
# Texts that spell values

What a reader accepts tells something about the text and about the value: slashes stand in quotes only, and so does a
comma with nothing but blanks between it and a closing bracket (`Spelt`); and the names of every table are distinct
(`Distinct`).

    readWithin limits s = .ok v → Distinct v ∧ Spelt s                                    (told_readWithin)
-/

namespace ShapeSearch.Json

/-! ## The text -/

/-- A text behind its opening quote, and what follows its closing quote. -/
inductive Quoted : List Char → List Char → Prop
  | stop {r : List Char} : Quoted ('"' :: r) r
  | plain {x : Char} {s r : List Char} : x ≠ '"' → x ≠ '\\' → Quoted s r → Quoted (x :: s) r
  | escaped {x : Char} {s r : List Char} : x ≠ ',' → Quoted s r → Quoted ('\\' :: x :: s) r

/-- Whether only blanks precede a closing bracket. -/
def closes (s : List Char) : Bool :=
  (s.dropWhile Text.isBlank).head?.any fun x => x == '}' || x == ']'

inductive Spelt : List Char → Prop
  | nil : Spelt []
  | char {x : Char} {r : List Char} : x ∉ ['"', '/', ','] → Spelt r → Spelt (x :: r)
  | comma {r : List Char} : closes r = false → Spelt r → Spelt (',' :: r)
  | text {s r : List Char} : Quoted s r → Spelt r → Spelt ('"' :: s)

variable {s r z w : List Char}

theorem quoted_readUnit {n : Nat} (h : readUnit? s = some (n, r)) (hr : Quoted r z) : Quoted s z := by
  have hex : ∀ {c n}, Text.hexValue? c = some n → ∀ {s}, Quoted s z → Quoted (c :: s) z := by
    intro c n hc s hs
    refine .plain ?_ ?_ hs <;> rintro rfl <;> cases hc
  unfold readUnit? at h
  split at h
  · obtain ⟨_, ha, h⟩ := Option.bind_eq_some_iff.mp h
    obtain ⟨_, hb, h⟩ := Option.bind_eq_some_iff.mp h
    obtain ⟨_, hc, h⟩ := Option.bind_eq_some_iff.mp h
    obtain ⟨_, hd, h⟩ := Option.bind_eq_some_iff.mp h
    cases h
    exact hex ha (hex hb (hex hc (hex hd hr)))
  · cases h

theorem quoted_readEscapedChar {c : Char} (h : readEscapedChar? s = some (c, r)) (hr : Quoted r z) : Quoted s z := by
  obtain ⟨⟨hi, u⟩, hu, h⟩ := Option.bind_eq_some_iff.mp h
  refine quoted_readUnit hu ?_
  have hend : ∀ {d : Char} {u : List Char}, some (d, u) = some (c, r) → Quoted u z := fun h =>
    (Prod.mk.inj (Option.some.inj h)).2 ▸ hr
  dsimp only at h
  split at h
  · split at h
    · split at h
      · next hlo =>
        split at h
        · exact .escaped (by decide) (quoted_readUnit hlo (hend h))
        · exact hend h
      · exact hend h
    · exact hend h
  · split at h <;> exact hend h

theorem quoted_readText {start fuel out : List Char} {t : String} (h : readText start fuel s out = .ok (t, r)) :
    Quoted s r := by
  induction fuel generalizing s out with
  | nil => cases h
  | cons _ fuel ih =>
    cases s with
    | nil => cases h
    | cons c s =>
      unfold readText at h
      split at h
      · next hc =>
        cases h
        exact beq_iff_eq.mp hc ▸ .stop
      · next hquote =>
        split at h
        · next hc =>
          obtain rfl := beq_iff_eq.mp hc
          split at h
          any_goals exact .escaped (by decide) (ih h)
          · cases h
          · split at h
            · cases h
            · next hu => exact .escaped (by decide) (quoted_readEscapedChar hu (ih h))
            · cases h
          · cases h
        · next hslash =>
          split at h
          · cases h
          · exact .plain (by simpa using hquote) (by simpa using hslash) (ih h)

theorem spelt_append (hw : ∀ x ∈ w, x ∉ ['"', '/', ',']) (hr : Spelt r) : Spelt (w ++ r) := by
  induction w with
  | nil => exact hr
  | cons x w ih => exact .char (hw x List.mem_cons_self) (ih fun y hy => hw y (List.mem_cons_of_mem _ hy))

theorem spelt_dropWhile {p : Char → Bool} (hp : ∀ x ∈ ['"', '/', ','], p x = false) (h : Spelt (s.dropWhile p)) :
    Spelt s := by
  rw [← List.takeWhile_append_dropWhile (p := p) (l := s)]
  refine spelt_append (fun x hx hmark => ?_) h
  have htrue : p x = true := List.mem_takeWhile_imp hx
  rw [hp x hmark] at htrue
  cases htrue

theorem spelt_skipSpacing (h : Spelt (skipSpacing s)) : Spelt s :=
  spelt_dropWhile (by simp [isSpacing]) h

theorem spelt_digits (h : Spelt (s.dropWhile Char.isDigit)) : Spelt s :=
  spelt_dropWhile (by simp) h

/-- No blank and no closing bracket comes first. -/
def Opens (s : List Char) : Prop :=
  ∀ x ∈ s.head?, Text.isBlank x = false ∧ x ≠ '}' ∧ x ≠ ']'

theorem opens_cons {x : Char} (h : Text.isBlank x = false ∧ x ≠ '}' ∧ x ≠ ']') (r : List Char) :
    Opens (x :: r) := by
  rintro _ ⟨⟩
  exact h

theorem opens_digit {x : Char} (h : x.isDigit) (r : List Char) : Opens (x :: r) := by
  have hx : 48 ≤ x.toNat ∧ x.toNat ≤ 57 := by
    simpa [Char.isDigit, Char.le_def, UInt32.le_iff_toNat_le] using h
  refine opens_cons ⟨Bool.eq_false_iff.mpr fun hblank => ?_, ?_, ?_⟩ r
  · simp only [Text.isBlank, Bool.or_eq_true, Bool.and_eq_true, beq_iff_eq, decide_eq_true_eq] at hblank
    omega
  · rintro rfl
    cases h
  · rintro rfl
    cases h

theorem closes_of_opens (h : Opens (skipSpacing s)) : closes s = false := by
  induction s with
  | nil => rfl
  | cons x s ih =>
    by_cases hx : isSpacing x = true
    · have hblank : Text.isBlank x = true := by
        simp only [isSpacing, Bool.or_eq_true, beq_iff_eq] at hx
        rcases hx with ((rfl | rfl) | rfl) | rfl <;> rfl
      rw [skipSpacing, List.dropWhile_cons_of_pos hx] at h
      rw [closes, List.dropWhile_cons_of_pos hblank]
      exact ih h
    · rw [skipSpacing, List.dropWhile_cons_of_neg hx] at h
      obtain ⟨hblank, hbrace, hbracket⟩ := h x rfl
      rw [closes, List.dropWhile_cons_of_neg (by simp [hblank])]
      simp [hbrace, hbracket]

/-! ## The value -/

/-- A value in which the names of every table are distinct. -/
inductive Distinct : Json → Prop
  | null : Distinct .null
  | bool (b : Bool) : Distinct (.bool b)
  | num (n : Number) : Distinct (.num n)
  | str (s : String) : Distinct (.str s)
  | arr {xs : List Json} : (∀ x ∈ xs, Distinct x) → Distinct (.arr xs)
  | obj {fs : List (String × Json)} : (Fields.keys fs).Nodup → (∀ f ∈ fs, Distinct f.2) →
      Distinct (.obj fs)

/-- What follows from reading a value. -/
structure Told (s : List Char) (v : Json) (r : List Char) : Prop where
  distinct : Distinct v
  opens : Opens s
  spelt : Spelt r → Spelt s

variable {v : Json} {limits : Limits}

theorem eq_of_dropWord (h : dropWord? w s = some r) : s = w ++ r := by
  induction w generalizing s with
  | nil => exact Option.some.inj h
  | cons x w ih =>
    cases s with
    | nil => cases h
    | cons c s =>
      rw [dropWord?] at h
      split at h
      · next hc => rw [ih h, beq_iff_eq.mp hc, List.cons_append]
      · cases h

theorem told_constant (h : readConstant? s = some (v, r)) : Told s v r := by
  obtain ⟨⟨w, v⟩, hw, h⟩ := List.exists_of_findSome?_eq_some h
  obtain ⟨r, hr, h⟩ := Option.map_eq_some_iff.mp h
  cases h
  rw [eq_of_dropWord hr]
  simp only [constants, List.mem_cons, List.not_mem_nil, or_false] at hw
  rcases hw with hw | hw | hw | hw | hw | hw <;> cases hw <;>
    exact ⟨by constructor, opens_cons (by decide) _, spelt_append (by simp)⟩

theorem opens_whole (h : readWhole? s = some (w, r)) : Opens s ∧ (Spelt r → Spelt s) := by
  unfold readWhole? at h
  split at h
  · cases h
    exact ⟨opens_digit (by decide) _, .char (by decide)⟩
  · split at h
    · next hc =>
      cases h
      exact ⟨opens_digit hc _, spelt_digits⟩
    · cases h
  · cases h

theorem spelt_fraction (h : Spelt (readFraction s).2) : Spelt s := by
  unfold readFraction at h
  split at h
  · dsimp only at h
    split at h
    · exact h
    · exact .char (by decide) (spelt_digits h)
  · exact h

theorem spelt_exponent (h : Spelt (readExponent s).2) : Spelt s := by
  unfold readExponent at h
  split at h
  · next e r =>
    split at h
    · next he =>
      have hmark : e ∉ ['"', '/', ','] := by
        rcases Bool.or_eq_true_iff.mp he with he | he <;> rw [beq_iff_eq.mp he] <;> decide
      dsimp only at h
      split at h <;> split at h
      any_goals exact h
      · exact .char hmark (.char (by decide) (spelt_digits h))
      · exact .char hmark (.char (by decide) (spelt_digits h))
      · exact .char hmark (spelt_digits h)
    · exact h
  · exact h

theorem told_number (h : readNumber limits s = .ok (v, r)) : Told s v r := by
  unfold readNumber at h
  dsimp only at h
  split at h
  · cases h
  · next w u hwhole =>
    have hend : Distinct v ∧ (Spelt r → Spelt u) := by
      split at h
      · split at h
        · cases h
        · cases h
          exact ⟨.num _, fun hr => spelt_fraction (spelt_exponent hr)⟩
      · cases h
        exact ⟨.num _, fun hr => spelt_fraction (spelt_exponent hr)⟩
    split at hwhole
    · exact ⟨hend.1, opens_cons (by decide) _, fun hr => .char (by decide) ((opens_whole hwhole).2 (hend.2 hr))⟩
    · exact ⟨hend.1, (opens_whole hwhole).1, fun hr => (opens_whole hwhole).2 (hend.2 hr)⟩

/-- What the readers give with some fuel is told by the text. -/
structure Tells (limits : Limits) (fuel : Nat) : Prop where
  value : ∀ {depth s v r}, readValue limits fuel depth s = .ok (v, r) → Told s v r
  items : ∀ {depth s out v r}, (∀ x ∈ out, Distinct x) →
    readItems limits fuel depth s out = .ok (v, r) → Told s v r
  fields : ∀ {depth s out v r}, (∀ f ∈ out, Distinct (Prod.snd f)) →
    readFields limits fuel depth s out = .ok (v, r) → Told s v r

variable {fuel depth : Nat}

theorem Tells.told_value (ih : Tells limits fuel) (h : readValue limits (fuel + 1) depth s = .ok (v, r)) :
    Told s v r := by
  unfold readValue at h
  split at h
  · split at h
    · next ht =>
      cases h
      exact ⟨.str _, opens_cons (by decide) _, .text (quoted_readText ht)⟩
    · cases h
  · split at h
    · cases h
    · split at h
      · next hskip =>
        cases h
        exact ⟨.arr (by simp), opens_cons (by decide) _, fun hr =>
          .char (by decide) (spelt_skipSpacing (hskip ▸ .char (by decide) hr))⟩
      · have hitems := ih.items (by simp) h
        exact ⟨hitems.distinct, opens_cons (by decide) _, fun hr =>
          .char (by decide) (spelt_skipSpacing (hitems.spelt hr))⟩
  · split at h
    · cases h
    · split at h
      · next hskip =>
        cases h
        exact ⟨.obj (by simp [Fields.keys]) (by simp), opens_cons (by decide) _, fun hr =>
          .char (by decide) (spelt_skipSpacing (hskip ▸ .char (by decide) hr))⟩
      · have hfields := ih.fields (by simp) h
        exact ⟨hfields.distinct, opens_cons (by decide) _, fun hr =>
          .char (by decide) (spelt_skipSpacing (hfields.spelt hr))⟩
  · split at h
    · next hc =>
      cases h
      exact told_constant hc
    · exact told_number h

theorem Tells.told_items (ih : Tells limits fuel) {out : List Json} (hout : ∀ x ∈ out, Distinct x)
    (h : readItems limits (fuel + 1) depth s out = .ok (v, r)) : Told s v r := by
  rw [readItems] at h
  split at h
  · cases h
  · next v' r' hv =>
    have hvalue := ih.value hv
    have hcons : ∀ x ∈ v' :: out, Distinct x := List.forall_mem_cons.mpr ⟨hvalue.distinct, hout⟩
    split at h
    · next hskip =>
      have hitems := ih.items hcons h
      exact ⟨hitems.distinct, hvalue.opens, fun hr => hvalue.spelt (spelt_skipSpacing (hskip ▸
        .comma (closes_of_opens hitems.opens) (spelt_skipSpacing (hitems.spelt hr))))⟩
    · next hskip =>
      cases h
      exact ⟨.arr fun x hx => hcons x (List.mem_reverse.mp hx), hvalue.opens, fun hr =>
        hvalue.spelt (spelt_skipSpacing (hskip ▸ .char (by decide) hr))⟩
    · cases h

theorem Tells.told_fields (ih : Tells limits fuel) {out : List (String × Json)}
    (hout : ∀ f ∈ out, Distinct (Prod.snd f)) (h : readFields limits (fuel + 1) depth s out = .ok (v, r)) :
    Told s v r := by
  unfold readFields at h
  split at h
  · split at h
    · cases h
    · next k r' hk =>
      split at h
      · next hcolon =>
        split at h
        · cases h
        · next v' r'' hv =>
          have hvalue := ih.value hv
          have hcons : ∀ f ∈ (k, v') :: out, Distinct (Prod.snd f) :=
            List.forall_mem_cons.mpr ⟨hvalue.distinct, hout⟩
          have hname : Spelt r'' → Spelt ('"' :: _) := fun hr => .text (quoted_readText hk)
            (spelt_skipSpacing (hcolon ▸ .char (by decide) (spelt_skipSpacing (hvalue.spelt hr))))
          split at h
          · next hskip =>
            have hfields := ih.fields hcons h
            exact ⟨hfields.distinct, opens_cons (by decide) _, fun hr => hname (spelt_skipSpacing (hskip ▸
              .comma (closes_of_opens hfields.opens) (spelt_skipSpacing (hfields.spelt hr))))⟩
          · next hskip =>
            cases h
            exact ⟨.obj (Fields.nodup_ofList _) fun f hf => hcons f (List.mem_reverse.mp (Fields.mem_ofList hf)),
              opens_cons (by decide) _, fun hr => hname (spelt_skipSpacing (hskip ▸ .char (by decide) hr))⟩
          · cases h
      · cases h
  · cases h

theorem tells (limits : Limits) (fuel : Nat) : Tells limits fuel := by
  -- the readers call one another with less fuel, so one induction carries all three
  induction fuel with
  | zero => exact ⟨nofun, nofun, nofun⟩
  | succ fuel ih => exact ⟨ih.told_value, ih.told_items, ih.told_fields⟩

theorem told_readWithin (h : readWithin limits s = .ok v) : Distinct v ∧ Spelt s := by
  unfold readWithin at h
  split at h
  · cases h
  · split at h
    · cases h
    · next hread =>
      split at h
      · next hskip =>
        cases h
        have htold := (tells _ _).value hread
        exact ⟨htold.distinct, spelt_skipSpacing (htold.spelt (spelt_skipSpacing (hskip ▸ .nil)))⟩
      · cases h

theorem distinct_parse {limits : Limits} (h : parse s limits = .ok (some v)) : Distinct v := by
  unfold parse at h
  split at h
  · next hread =>
    cases h
    exact (told_readWithin hread).1
  · split at h <;> cases h

end ShapeSearch.Json
