import ShapeSearch.Proofs.Json.Numeral
import ShapeSearch.Proofs.Json.Quoted
import ShapeSearch.Proofs.Json.Spelling

/-!
# Written values read back

Reading a written value gives the value again, but for two fields of one name, which become one
(`unified`).  This holds within the limits of the reader (`fits`); beyond them the reader stops with a
misfit.  So a text that reads at all reads as what was written:

    fits .usual Limits.usual.depth v → parse (v.write st).toList = .ok (some v.unified)  (parse_write_of_fits)

Behind the value stands something that cannot go on with a number (`Stops`).  The induction is on the
value; the fuel of the reader is at least the length of the text that is left.
-/

namespace ShapeSearch.Json

variable {v : Json} {rest r s : List Char} {c : Char} {st : Style}

/-- Induction through the members of lists and tables. -/
theorem members_induction {P : Json → Prop} (null : P .null) (bool : ∀ b, P (.bool b))
    (num : ∀ n, P (.num n)) (str : ∀ s, P (.str s)) (arr : ∀ xs, (∀ x ∈ xs, P x) → P (.arr xs))
    (obj : ∀ fs, (∀ f ∈ fs, P (Prod.snd f)) → P (.obj fs)) (v : Json) : P v :=
  @Json.rec P (fun xs => ∀ x ∈ xs, P x) (fun fs => ∀ f ∈ fs, P f.2) (fun f => P f.2)
    null bool num str arr obj
    (fun _ h => absurd h List.not_mem_nil)
    (fun _ _ hx hxs _ h => (List.mem_cons.mp h).elim (fun e => e ▸ hx) (hxs _))
    (fun _ h => absurd h List.not_mem_nil)
    (fun _ _ hf hfs _ h => (List.mem_cons.mp h).elim (fun e => e ▸ hf) (hfs _))
    (fun _ _ h => h) v

/-! ## What is read back -/

mutual
/-- The value with one field for each name in every table: the last value in the place of the first. -/
def unified : Json → Json
  | .arr xs => .arr (unifiedItems xs)
  | .obj fs => .obj (Fields.ofList (unifiedFields fs))
  | v => v

def unifiedItems : List Json → List Json
  | [] => []
  | x :: r => unified x :: unifiedItems r

def unifiedFields : List (String × Json) → List (String × Json)
  | [] => []
  | (k, x) :: r => (k, unified x) :: unifiedFields r
end

mutual
/-- Whether a value stays within the limits of a reader; `depth` says how many lists and tables may still
be opened. -/
def fits (limits : Limits) : ℕ → Json → Bool
  | _, .num (.int n) => decide ((Decimal.natText n.natAbs).toList.length ≤ limits.digits)
  | depth, .arr xs => depth != 0 && fitsItems limits (depth - 1) xs
  | depth, .obj fs => depth != 0 && fitsFields limits (depth - 1) fs
  | _, _ => true

def fitsItems (limits : Limits) (depth : ℕ) : List Json → Bool
  | [] => true
  | x :: r => fits limits depth x && fitsItems limits depth r

def fitsFields (limits : Limits) (depth : ℕ) : List (String × Json) → Bool
  | [] => true
  | (_, x) :: r => fits limits depth x && fitsFields limits depth r
end

/-- A reader answers with a value and the rest, or goes beyond its limits. -/
def Answers (fit : Bool) (v : Json) (rest : List Char) (r : Step Json) : Prop :=
  if fit then r = .ok (v, rest)
  else ∃ e m, r = .error e ∧ e.problem.misfit? = some m

theorem Answers.cases {fit : Bool} {r : Step Json} (h : Answers fit v rest r) :
    (fit = true ∧ r = .ok (v, rest)) ∨
      (fit = false ∧ ∃ e m, r = .error e ∧ e.problem.misfit? = some m) := by
  cases fit with
  | true => exact .inl ⟨rfl, h⟩
  | false => exact .inr ⟨rfl, h⟩

/-- A reader goes on behind a value that it has read. -/
theorem Answers.andThen {fit fit' : Bool} {w : Json} {x : Step Json} {next : Json → List Char → Step Json} :
    Answers fit v s x → Answers fit' w rest (next v s) →
      Answers (fit && fit') w rest (match x with | .error e => .error e | .ok (v, r) => next v r) := by
  intro h hnext
  rcases h.cases with ⟨rfl, rfl⟩ | ⟨rfl, e, m, rfl, hm⟩
  · exact hnext
  · exact ⟨e, m, rfl, hm⟩

/-! ## Separators -/

/-- A style whose separators are a comma and a colon with blanks behind them. -/
structure Style.Readable (st : Style) : Prop where
  item : ∃ n, st.itemSeparator.toList = ',' :: List.replicate n ' '
  name : ∃ n, st.nameSeparator.toList = ':' :: List.replicate n ' '

theorem Style.readable_compact : Style.compact.Readable :=
  ⟨⟨0, by simp [Style.compact]⟩, ⟨0, by simp [Style.compact]⟩⟩

theorem Style.readable_indented (n : ℕ) : (Style.indented n).Readable :=
  ⟨⟨0, by simp [Style.indented]⟩, ⟨1, by simp [Style.indented]⟩⟩

theorem replicate_spacing (n : ℕ) : ∀ c ∈ List.replicate n ' ', isSpacing c = true := by
  intro c hc
  rw [List.eq_of_mem_replicate hc]
  decide

theorem Style.lineBreak_spacing (st : Style) (level : ℕ) :
    ∀ c ∈ (st.lineBreak level).toList, isSpacing c = true := by
  intro c hc
  unfold Style.lineBreak at hc
  split at hc
  · cases hc
  · simp only [String.toList_append, String.toList_ofList, List.mem_append, List.mem_replicate] at hc
    rcases hc with hc | ⟨-, rfl⟩
    · obtain rfl : c = '\n' := by simpa using hc
      decide
    · decide

theorem skipSpacing_append (h : ∀ c ∈ s, isSpacing c = true) (r : List Char) :
    skipSpacing (s ++ r) = skipSpacing r :=
  List.dropWhile_append_of_pos h

theorem skipSpacing_cons (h : isSpacing c = false) (r : List Char) : skipSpacing (c :: r) = c :: r := by
  rw [skipSpacing, List.dropWhile_cons, if_neg (by simp [h])]

theorem stops_cons (h : c.isDigit = false ∧ c ≠ '.' ∧ c ≠ 'e' ∧ c ≠ 'E') (r : List Char) :
    Stops (c :: r) := by
  intro d hd
  obtain rfl : c = d := by simpa using hd
  exact h

theorem stops_spacing (h : ∀ c ∈ s, isSpacing c = true) (hr : Stops r) : Stops (s ++ r) := by
  cases s with
  | nil => exact hr
  | cons c s =>
    have hc := h c List.mem_cons_self
    refine stops_cons ?_ _
    unfold isSpacing at hc
    simp only [Bool.or_eq_true, beq_iff_eq] at hc
    rcases hc with ((rfl | rfl) | rfl) | rfl <;> decide

/-! ## Numbers -/

theorem head_of_readNumber {limits : Limits} (h : ∀ rest, readNumber limits s ≠ .error ⟨.noValue, rest⟩) :
    ∃ sign c r, s = signText sign ++ c :: r ∧ c.isDigit = true := by
  have hwhole : ∀ t, readWhole? t ≠ none → ∃ c r, t = c :: r ∧ c.isDigit = true := by
    intro t ht
    unfold readWhole? at ht
    split at ht
    · exact ⟨_, _, rfl, by decide⟩
    · next c r _ =>
      refine ⟨c, r, rfl, ?_⟩
      by_contra hc
      simp [hc] at ht
    · exact absurd rfl ht
  cases s with
  | nil => exact absurd rfl (h [])
  | cons d s =>
    by_cases hd : d = '-'
    · subst hd
      obtain ⟨c, r, rfl, hc⟩ := hwhole s fun hn => h ('-' :: s) (by simp only [readNumber, hn])
      exact ⟨true, c, r, rfl, hc⟩
    · have hminus : ∀ r, d :: s ≠ '-' :: r := fun r hr => hd (List.cons.inj hr).1
      obtain ⟨c, r, hcr, hc⟩ := hwhole (d :: s) fun hn => h (d :: s) (by
        unfold readNumber
        simp only [hn])
      exact ⟨false, c, r, hcr, hc⟩

theorem digit_ne (h : c.isDigit) :
    c ∉ ['n', 't', 'f', 'N', 'I', '-', '"', '[', '{', ']', '\ufeff'] ∧ isSpacing c = false := by
  have hc : 48 ≤ c.toNat ∧ c.toNat ≤ 57 := by
    simpa [Char.isDigit, Char.le_def, UInt32.le_iff_toNat_le] using h
  constructor
  · intro hm
    simp only [List.mem_cons, List.not_mem_nil, or_false] at hm
    rcases hm with rfl | rfl | rfl | rfl | rfl | rfl | rfl | rfl | rfl | rfl | rfl <;>
      exact absurd hc (by decide)
  · by_contra hs
    simp only [Bool.not_eq_false, isSpacing, Bool.or_eq_true, beq_iff_eq] at hs
    rcases hs with ((rfl | rfl) | rfl) | rfl <;> exact absurd hc (by decide)

theorem readConstant_numeral (sign : Bool) (h : c.isDigit) (r : List Char) :
    readConstant? (signText sign ++ c :: r) = none := by
  obtain ⟨hc, -⟩ := digit_ne h
  simp only [List.mem_cons, List.not_mem_nil, or_false, not_or] at hc
  obtain ⟨hn, ht, hf, hN, hI, hm, -⟩ := hc
  have hwords : constants = [(['n', 'u', 'l', 'l'], .null), (['t', 'r', 'u', 'e'], .bool true),
      (['f', 'a', 'l', 's', 'e'], .bool false), (['N', 'a', 'N'], .num (.float (0.0 / 0.0))),
      (['I', 'n', 'f', 'i', 'n', 'i', 't', 'y'], .num (.float (1.0 / 0.0))),
      (['-', 'I', 'n', 'f', 'i', 'n', 'i', 't', 'y'], .num (.float (-1.0 / 0.0)))] := rfl
  unfold readConstant?
  rw [hwords]
  cases sign with
  | true => simp [signText, dropWord?, Ne.symm hI]
  | false => simp [signText, dropWord?, Ne.symm hn, Ne.symm ht, Ne.symm hf, Ne.symm hN, Ne.symm hI, Ne.symm hm]

theorem readValue_numeral (limits : Limits) (fuel depth : ℕ) (sign : Bool) (h : c.isDigit) (r : List Char) :
    readValue limits (fuel + 1) depth (signText sign ++ c :: r) =
      readNumber limits (signText sign ++ c :: r) := by
  obtain ⟨hc, -⟩ := digit_ne h
  simp only [List.mem_cons, List.not_mem_nil, or_false, not_or] at hc
  obtain ⟨-, -, -, -, -, -, hq, hb, ht, -⟩ := hc
  have hhead : ∀ t, signText sign ++ c :: r ≠ '"' :: t ∧ signText sign ++ c :: r ≠ '[' :: t ∧
      signText sign ++ c :: r ≠ '{' :: t := by
    intro t
    cases sign with
    | true => simp [signText]
    | false => simp [signText, hq, hb, ht]
  have hword := readConstant_numeral sign h r
  generalize signText sign ++ c :: r = s at hhead hword
  unfold readValue
  split
  · exact absurd rfl (hhead _).1
  · exact absurd rfl (hhead _).2.1
  · exact absurd rfl (hhead _).2.2
  · rw [hword]

theorem readNumber_finite (limits : Limits) {n : Number} {m q : ℤ} (h : n.exact = .finite m q) (depth : ℕ)
    (hr : Stops rest) :
    Answers (fits limits depth (.num n)) (.num n) rest
      (readNumber limits ((Decimal.plain n).toList ++ rest)) ∧
    ∀ r, readNumber limits ((Decimal.plain n).toList ++ rest) ≠ .error ⟨.noValue, r⟩ := by
  cases n with
  | int n =>
    rw [Decimal.plain, readNumber_int limits n hr, fits]
    split
    · next hlong =>
      rw [decide_eq_false (by omega)]
      exact ⟨⟨_, .badValue, rfl, rfl⟩, fun r hr => by simp at hr⟩
    · next hlong =>
      rw [decide_eq_true (by omega)]
      exact ⟨rfl, fun r hr => by simp at hr⟩
  | float x =>
    rw [Decimal.plain, readNumber_float limits h hr]
    exact ⟨rfl, fun r hr => by simp at hr⟩

/-- A written number is read as itself, or it is too long. -/
theorem readValue_number (limits : Limits) (fuel depth : ℕ) (n : Number) (hr : Stops rest) :
    Answers (fits limits depth (.num n)) (.num n) rest
      (readValue limits (fuel + 1) depth ((numberText n).toList ++ rest)) := by
  unfold numberText
  split
  · next h =>
    cases n with
    | int n => cases h
    | float x =>
      rw [Number.eq_nan h]
      rfl
  · next h =>
    cases n with
    | int n => cases h
    | float x =>
      rw [Number.eq_posInf h]
      rfl
  · next h =>
    cases n with
    | int n => cases h
    | float x =>
      rw [Number.eq_negInf h]
      rfl
  · next m q h =>
    obtain ⟨hread, hvalue⟩ := readNumber_finite limits h depth hr
    obtain ⟨sign, c, r, hs, hc⟩ := head_of_readNumber hvalue
    rw [hs] at hread ⊢
    rw [readValue_numeral limits fuel depth sign hc]
    exact hread

/-- A written number begins with neither a blank nor a closing bracket nor a mark of the byte order. -/
theorem head_numberText (n : Number) :
    ∃ c r, (numberText n).toList = c :: r ∧ isSpacing c = false ∧ c ≠ ']' ∧ c ≠ '\ufeff' := by
  unfold numberText
  split
  · exact ⟨'N', _, rfl, by decide, by decide, by decide⟩
  · exact ⟨'I', _, rfl, by decide, by decide, by decide⟩
  · exact ⟨'-', _, rfl, by decide, by decide, by decide⟩
  · next m q h =>
    have hr : Stops [] := fun c hc => by cases hc
    obtain ⟨-, hvalue⟩ := readNumber_finite .usual h 0 hr
    obtain ⟨sign, c, r, hs, hc⟩ := head_of_readNumber hvalue
    rw [List.append_nil] at hs
    obtain ⟨hne, hspace⟩ := digit_ne hc
    cases sign with
    | true => exact ⟨'-', _, hs, by decide, by decide, by decide⟩
    | false => exact ⟨c, r, hs, hspace, fun h => hne (by simp [h]), fun h => hne (by simp [h])⟩

/-! ## Values -/

theorem head_writeAt (st : Style) (level : ℕ) (v : Json) :
    ∃ c r, (writeAt st level v).toList = c :: r ∧ isSpacing c = false ∧ c ≠ ']' ∧ c ≠ '\ufeff' := by
  have htail : ∀ c, (writeAt st level v).toList.head? = some c →
      (writeAt st level v).toList = c :: (writeAt st level v).toList.tail := by
    intro c hc
    exact List.eq_cons_of_mem_head? hc
  cases v with
  | null => exact ⟨'n', _, htail _ (by simp [writeAt]), by decide, by decide, by decide⟩
  | bool b =>
    cases b with
    | true => exact ⟨'t', _, htail _ (by simp [writeAt]), by decide, by decide, by decide⟩
    | false => exact ⟨'f', _, htail _ (by simp [writeAt]), by decide, by decide, by decide⟩
  | num n =>
    rw [writeAt]
    exact head_numberText n
  | str s => exact ⟨'"', _, htail _ (by simp [writeAt, toList_quote]), by decide, by decide, by decide⟩
  | arr xs =>
    refine ⟨'[', _, htail _ ?_, by decide, by decide, by decide⟩
    cases xs <;> simp [writeAt]
  | obj fs =>
    refine ⟨'{', _, htail _ ?_, by decide, by decide, by decide⟩
    rcases fs with - | ⟨⟨k, x⟩, fs⟩ <;> simp [writeAt]

/-- A value reads back in any place, given a fuel of at least the length of its text. -/
def ReadsBack (st : Style) (limits : Limits) (v : Json) : Prop :=
  ∀ level depth fuel rest, Stops rest → (writeAt st level v).toList.length ≤ fuel →
    Answers (fits limits depth v) v.unified rest
      (readValue limits fuel depth ((writeAt st level v).toList ++ rest))

theorem unifiedItems_eq (xs : List Json) : unifiedItems xs = xs.map unified := by
  induction xs with
  | nil => rfl
  | cons x xs ih => rw [unifiedItems, ih, List.map_cons]

theorem unifiedFields_eq (fs : List (String × Json)) :
    unifiedFields fs = fs.map fun f => (f.1, f.2.unified) := by
  induction fs with
  | nil => rfl
  | cons f fs ih => rw [unifiedFields, ih, List.map_cons]

theorem stops_items (hst : st.Readable) (level : ℕ) (xs : List Json) (hr : Stops r) :
    Stops ((writeItems st level xs).toList ++ r) := by
  obtain ⟨n, hs⟩ := hst.item
  cases xs with
  | nil => simpa [writeItems] using hr
  | cons x xs =>
    simp only [writeItems, String.toList_append, hs, List.cons_append]
    exact stops_cons (by decide) _

theorem stops_fields (hst : st.Readable) (level : ℕ) (fs : List (String × Json)) (hr : Stops r) :
    Stops ((writeFields st level fs).toList ++ r) := by
  obtain ⟨n, hs⟩ := hst.item
  rcases fs with - | ⟨⟨k, x⟩, fs⟩
  · simpa [writeFields] using hr
  · simp only [writeFields, String.toList_append, hs, List.cons_append]
    exact stops_cons (by decide) _

theorem readItems_write (hst : st.Readable) (limits : Limits) (level close depth : ℕ)
    (xs : List Json) (x : Json) (hx : ReadsBack st limits x) (hxs : ∀ y ∈ xs, ReadsBack st limits y)
    (fuel : ℕ) (rest : List Char) (out : List Json)
    (hfuel : (writeAt st level x).toList.length + (writeItems st level xs).toList.length < fuel) :
    Answers (fitsItems limits depth (x :: xs)) (.arr (out.reverse ++ unifiedItems (x :: xs))) rest
      (readItems limits fuel depth ((writeAt st level x).toList ++ ((writeItems st level xs).toList ++
        ((st.lineBreak close).toList ++ ']' :: rest))) out) := by
  have hbreak := st.lineBreak_spacing close
  have hclose : Stops ((st.lineBreak close).toList ++ ']' :: rest) :=
    stops_spacing hbreak (stops_cons (by decide) rest)
  induction xs generalizing x fuel out with
  | nil =>
    obtain ⟨fuel, rfl⟩ : ∃ f, fuel = f + 1 := ⟨fuel - 1, by omega⟩
    have hread := hx level depth fuel _ (stops_items hst level [] hclose) (by omega)
    rw [readItems, fitsItems, fitsItems]
    refine hread.andThen ?_
    simp only [writeItems, String.toList_empty, List.nil_append]
    rw [skipSpacing_append hbreak, skipSpacing_cons (by decide)]
    simp [Answers, unifiedItems]
  | cons y ys ih =>
    obtain ⟨fuel, rfl⟩ : ∃ f, fuel = f + 1 := ⟨fuel - 1, by omega⟩
    obtain ⟨n, hsep⟩ := hst.item
    have hspace := replicate_spacing n
    have hread := hx level depth fuel _ (stops_items hst level (y :: ys) hclose) (by omega)
    rw [readItems, fitsItems]
    refine hread.andThen ?_
    obtain ⟨c, r, hhead, hc, -⟩ := head_writeAt st level y
    simp only [writeItems, String.toList_append, hsep, List.length_append, List.length_cons] at hfuel
    have hrest := ih y (hxs y List.mem_cons_self) (fun z hz => hxs z (List.mem_cons_of_mem _ hz)) fuel
      (x.unified :: out) (by omega)
    simp only [writeItems, String.toList_append, hsep, List.cons_append, List.append_assoc]
    rw [skipSpacing_cons (by decide)]
    simp only
    rw [skipSpacing_append hspace, skipSpacing_append (st.lineBreak_spacing level), hhead,
      List.cons_append, skipSpacing_cons hc, ← List.cons_append, ← hhead]
    simpa [unifiedItems] using hrest

theorem readFields_name (hst : st.Readable) (limits : Limits) (level depth fuel : ℕ)
    (k : String) (x : Json) (rest : List Char) (out : List (String × Json)) :
    readFields limits (fuel + 1) depth
        ((quote k).toList ++ (st.nameSeparator.toList ++ ((writeAt st level x).toList ++ rest))) out =
      match readValue limits fuel depth ((writeAt st level x).toList ++ rest) with
      | .error e => .error e
      | .ok (v, r) =>
        match skipSpacing r with
        | ',' :: r => readFields limits fuel depth (skipSpacing r) ((k, v) :: out)
        | '}' :: r => .ok (.obj (Fields.ofList ((k, v) :: out).reverse), r)
        | r => .error ⟨.noComma, r⟩ := by
  obtain ⟨n, hsep⟩ := hst.name
  have hspace := replicate_spacing n
  obtain ⟨c, r, hhead, hc, -⟩ := head_writeAt st level x
  rw [toList_quote]
  simp only [List.cons_append, List.append_assoc, List.nil_append]
  rw [readFields, readText_quote _ k _ (by simp [toList_quote])]
  simp only [hsep, List.cons_append]
  rw [skipSpacing_cons (by decide)]
  simp only
  rewrite [skipSpacing_append hspace, hhead, List.cons_append, skipSpacing_cons hc]
  rfl

theorem readFields_write (hst : st.Readable) (limits : Limits) (level close depth : ℕ)
    (fs : List (String × Json)) (k : String) (x : Json) (hx : ReadsBack st limits x)
    (hfs : ∀ f ∈ fs, ReadsBack st limits f.2) (fuel : ℕ) (rest : List Char) (out : List (String × Json))
    (hfuel : (writeAt st level x).toList.length + (writeFields st level fs).toList.length < fuel) :
    Answers (fitsFields limits depth ((k, x) :: fs))
      (.obj (Fields.ofList (out.reverse ++ unifiedFields ((k, x) :: fs)))) rest
      (readFields limits fuel depth ((quote k).toList ++ (st.nameSeparator.toList ++
        ((writeAt st level x).toList ++ ((writeFields st level fs).toList ++
          ((st.lineBreak close).toList ++ '}' :: rest))))) out) := by
  have hbreak := st.lineBreak_spacing close
  have hclose : Stops ((st.lineBreak close).toList ++ '}' :: rest) :=
    stops_spacing hbreak (stops_cons (by decide) rest)
  induction fs generalizing k x fuel out with
  | nil =>
    obtain ⟨fuel, rfl⟩ : ∃ f, fuel = f + 1 := ⟨fuel - 1, by omega⟩
    have hread := hx level depth fuel _ (stops_fields hst level [] hclose) (by omega)
    rw [readFields_name hst, fitsFields, fitsFields]
    refine hread.andThen ?_
    simp only [writeFields, String.toList_empty, List.nil_append]
    rw [skipSpacing_append hbreak, skipSpacing_cons (by decide)]
    simp [Answers, unifiedFields]
  | cons f fs ih =>
    obtain ⟨k', y⟩ := f
    obtain ⟨fuel, rfl⟩ : ∃ f, fuel = f + 1 := ⟨fuel - 1, by omega⟩
    obtain ⟨n, hsep⟩ := hst.item
    have hspace := replicate_spacing n
    have hread := hx level depth fuel _ (stops_fields hst level ((k', y) :: fs) hclose) (by omega)
    rw [readFields_name hst, fitsFields]
    refine hread.andThen ?_
    simp only [writeFields, String.toList_append, hsep, List.length_append, List.length_cons] at hfuel
    have hrest := ih k' y (hfs _ List.mem_cons_self) (fun z hz => hfs z (List.mem_cons_of_mem _ hz)) fuel
      ((k, x.unified) :: out) (by omega)
    simp only [writeFields, String.toList_append, hsep, List.cons_append, List.append_assoc]
    rw [skipSpacing_cons (by decide)]
    simp only
    rw [skipSpacing_append hspace, skipSpacing_append (st.lineBreak_spacing level), toList_quote,
      List.cons_append, skipSpacing_cons (by decide), ← List.cons_append, ← toList_quote]
    simpa [unifiedFields] using hrest

theorem fuel_pos {level fuel : ℕ} (h : (writeAt st level v).toList.length ≤ fuel) : ∃ f, fuel = f + 1 := by
  obtain ⟨c, r, hhead, -⟩ := head_writeAt st level v
  rw [hhead, List.length_cons] at h
  exact ⟨fuel - 1, by omega⟩

/-- A bracket takes one level of depth: a reader that has none left stops at it, and any other goes on inside. -/
theorem answers_nested {limits : Limits} {fuel depth : ℕ} {s : List Char} (fit : ℕ → Bool)
    (hopen : s.head? = some '[' ∨ s.head? = some '{')
    (hinside : ∀ d, depth = d + 1 → Answers (fit d) v rest (readValue limits (fuel + 1) (d + 1) s)) :
    Answers (depth != 0 && fit (depth - 1)) v rest (readValue limits (fuel + 1) depth s) := by
  cases depth with
  | zero =>
    obtain ⟨r, rfl | rfl⟩ : ∃ r, s = '[' :: r ∨ s = '{' :: r := by
      simpa [List.head?_eq_some_iff, exists_or] using hopen
    all_goals
      rw [readValue]
      exact ⟨_, .tooDeep, rfl, rfl⟩
  | succ depth => exact hinside depth rfl

theorem readsBack_arr (hst : st.Readable) (limits : Limits) {xs : List Json}
    (hxs : ∀ x ∈ xs, ReadsBack st limits x) : ReadsBack st limits (.arr xs) := by
  intro level depth fuel rest hr hfuel
  obtain ⟨fuel, rfl⟩ := fuel_pos hfuel
  rw [fits, unified]
  refine answers_nested (fitsItems limits · xs) (.inl ?_) ?_
  · cases xs <;> simp [writeAt]
  rintro depth rfl
  cases xs with
  | nil =>
    rw [writeAt]
    simp only [String.reduceToList, List.cons_append, List.nil_append]
    rw [readValue, if_neg (by omega), skipSpacing_cons (by decide)]
    rfl
  | cons x xs =>
    obtain ⟨c, r, hhead, hc, hclose⟩ := head_writeAt st (level + 1) x
    rw [writeAt] at hfuel ⊢
    simp only [String.toList_append, String.reduceToList, List.cons_append, List.nil_append,
      List.append_assoc, List.length_cons, List.length_append, List.length_nil] at hfuel ⊢
    have hitems := readItems_write hst limits (level + 1) level depth xs x (hxs x List.mem_cons_self)
      (fun y hy => hxs y (List.mem_cons_of_mem _ hy)) fuel rest [] (by omega)
    rw [readValue, if_neg (by omega), skipSpacing_append (st.lineBreak_spacing _)]
    rw [hhead, List.cons_append] at hitems ⊢
    rw [skipSpacing_cons hc]
    simp only [Nat.add_sub_cancel]
    split
    · next heq => exact absurd (List.cons.inj heq).1 hclose.1
    · simpa using hitems

theorem readsBack_obj (hst : st.Readable) (limits : Limits) {fs : List (String × Json)}
    (hfs : ∀ f ∈ fs, ReadsBack st limits f.2) : ReadsBack st limits (.obj fs) := by
  intro level depth fuel rest hr hfuel
  obtain ⟨fuel, rfl⟩ := fuel_pos hfuel
  rw [fits, unified]
  refine answers_nested (fitsFields limits · fs) (.inr ?_) ?_
  · cases fs <;> simp [writeAt]
  rintro depth rfl
  rcases fs with - | ⟨⟨k, x⟩, fs⟩
  · rw [writeAt]
    simp only [String.reduceToList, List.cons_append, List.nil_append]
    rw [readValue, if_neg (by omega), skipSpacing_cons (by decide)]
    rfl
  · rw [writeAt] at hfuel ⊢
    simp only [String.toList_append, String.reduceToList, List.cons_append, List.nil_append,
      List.append_assoc, List.length_cons, List.length_append, List.length_nil] at hfuel ⊢
    have hfields := readFields_write hst limits (level + 1) level depth fs k x (hfs (k, x) List.mem_cons_self)
      (fun y hy => hfs y (List.mem_cons_of_mem _ hy)) fuel rest [] (by omega)
    rw [readValue, if_neg (by omega), skipSpacing_append (st.lineBreak_spacing _)]
    rw [toList_quote, List.cons_append] at hfields ⊢
    rw [skipSpacing_cons (by decide)]
    simpa using hfields

theorem readsBack (hst : st.Readable) (limits : Limits) (v : Json) : ReadsBack st limits v := by
  induction v using members_induction
  case arr xs ih => exact readsBack_arr hst limits ih
  case obj fs ih => exact readsBack_obj hst limits ih
  -- the others have no members, and reading them takes one step
  all_goals
    intro level depth fuel rest hr hfuel
    obtain ⟨fuel, rfl⟩ := fuel_pos hfuel
    rw [writeAt]
  case null => rfl
  case bool b => cases b <;> rfl
  case num n =>
    rw [unified]
    · exact readValue_number limits fuel depth n hr
    · simp
    · simp
  case str s =>
    rw [toList_quote]
    simp only [List.cons_append, List.append_assoc, List.nil_append]
    rw [readValue, readText_quote _ s _ (by simp [toList_quote])]
    rfl

/-! ## Whole texts -/

/-- A written value reads back within the limits; beyond them the reader stops with a misfit. -/
theorem readWithin_write (hst : st.Readable) (limits : Limits) (v : Json) :
    if fits limits limits.depth v then readWithin limits (v.write st).toList = .ok v.unified
    else ∃ e m, readWithin limits (v.write st).toList = .error e ∧ e.problem.misfit? = some m := by
  obtain ⟨c, r, hhead, hc, -, hmark⟩ := head_writeAt st 0 v
  have hstops : Stops [] := fun c hc => by cases hc
  have hread := readsBack hst limits v 0 limits.depth (2 * (v.write st).toList.length + 2) [] hstops
    (by rw [write]; omega)
  have hskip : skipSpacing (v.write st).toList = (writeAt st 0 v).toList ++ [] := by
    rw [write, hhead, skipSpacing_cons hc, List.append_nil]
  have hfirst : (v.write st).toList.head? ≠ some '\ufeff' := by
    rw [write, hhead, List.head?_cons]
    exact fun h => hmark (Option.some.inj h)
  unfold readWithin
  rw [if_neg hfirst, hskip]
  rcases hread.cases with ⟨hfit, hread⟩ | ⟨hfit, e, m, hread, hm⟩
  · rw [hread, hfit]
    rfl
  · rw [hread, hfit]
    exact ⟨e, m, rfl, hm⟩

theorem parse_write_of_fits (hst : st.Readable) (h : fits .usual Limits.usual.depth v) :
    parse (v.write st).toList = .ok (some v.unified) := by
  have hread := readWithin_write hst .usual v
  rw [if_pos h] at hread
  rw [parse, hread]

/-! ## Line ends

No line of a written value ends in a carriage return, so a stored text stays as it is when its line ends
are unified. -/

theorem escapeChar_no_return (c : Char) : '\r' ∉ escapeChar c := by
  have hhex : ∀ n < 16, hexDigit n ≠ '\r' := by decide
  have hunit : ∀ v, '\r' ∉ unitEscape v := by
    intro v hv
    simp only [unitEscape, hexText, List.mem_cons, List.mem_map] at hv
    rcases hv with hv | hv | ⟨i, -, hi⟩
    · cases hv
    · cases hv
    · exact hhex _ (Nat.mod_lt _ (by norm_num)) hi
  unfold escapeChar
  repeat' split
  all_goals first
    | decide
    | exact hunit _
    | skip
  · next h =>
    intro hc
    rw [← List.mem_singleton.mp hc] at h
    exact absurd h (by decide)
  · intro hc
    rcases List.mem_append.mp hc with hc | hc
    · exact hunit _ hc
    · exact hunit _ hc

theorem quote_no_return (s : String) : '\r' ∉ (quote s).toList := by
  rw [toList_quote]
  simp only [List.mem_cons, List.mem_append, List.mem_flatMap, List.not_mem_nil, or_false, not_or]
  refine ⟨by decide, ?_, by decide⟩
  rintro ⟨c, -, hc⟩
  exact escapeChar_no_return c hc

theorem numberText_no_return (n : Number) : '\r' ∉ (numberText n).toList := by
  unfold numberText
  split
  · decide
  · decide
  · decide
  · next h =>
    intro hc
    rcases mem_plain h hc with hc | hc
    · exact absurd hc (by decide)
    · exact absurd hc (by decide)

theorem lineBreak_no_return (st : Style) (level : ℕ) : '\r' ∉ (st.lineBreak level).toList := by
  intro hc
  unfold Style.lineBreak at hc
  split at hc
  · cases hc
  · simp [List.mem_replicate] at hc

theorem writeAt_no_return (hst : st.Readable) (v : Json) : ∀ level, '\r' ∉ (writeAt st level v).toList := by
  obtain ⟨n, hitem⟩ := hst.item
  obtain ⟨m, hname⟩ := hst.name
  have hsep : '\r' ∉ st.itemSeparator.toList := by
    rw [hitem]
    simp [List.mem_replicate]
  have hcolon : '\r' ∉ st.nameSeparator.toList := by
    rw [hname]
    simp [List.mem_replicate]
  induction v using members_induction with
  | null => intro level; rw [writeAt]; decide
  | bool b => intro level; rw [writeAt]; cases b <;> decide
  | num n => intro level; rw [writeAt]; exact numberText_no_return n
  | str s => intro level; rw [writeAt]; exact quote_no_return s
  | arr xs ih =>
    have hitems : ∀ level (ys : List Json), (∀ y ∈ ys, y ∈ xs) →
        '\r' ∉ (writeItems st level ys).toList := by
      intro level ys
      induction ys with
      | nil => intro _; rw [writeItems]; decide
      | cons y ys hys =>
        intro h
        have hy := ih y (h y List.mem_cons_self) level
        have hrest := hys fun z hz => h z (List.mem_cons_of_mem _ hz)
        simp [writeItems, hsep, lineBreak_no_return, hy, hrest]
    intro level
    cases xs with
    | nil => rw [writeAt]; decide
    | cons x xs =>
      have hx := ih x List.mem_cons_self (level + 1)
      have hrest := hitems (level + 1) xs fun z hz => List.mem_cons_of_mem _ hz
      simp [writeAt, lineBreak_no_return, hx, hrest]
  | obj fs ih =>
    have hfields : ∀ level (gs : List (String × Json)), (∀ g ∈ gs, g ∈ fs) →
        '\r' ∉ (writeFields st level gs).toList := by
      intro level gs
      induction gs with
      | nil => intro _; rw [writeFields]; decide
      | cons g gs hgs =>
        intro h
        have hg := ih g (h g List.mem_cons_self) level
        have hrest := hgs fun z hz => h z (List.mem_cons_of_mem _ hz)
        obtain ⟨k, x⟩ := g
        simp [writeFields, hsep, hcolon, lineBreak_no_return, quote_no_return, hg, hrest]
    intro level
    rcases fs with - | ⟨⟨k, x⟩, fs⟩
    · rw [writeAt]; decide
    · have hx := ih (k, x) List.mem_cons_self (level + 1)
      have hrest := hfields (level + 1) fs fun z hz => List.mem_cons_of_mem _ hz
      simp [writeAt, hcolon, lineBreak_no_return, quote_no_return, hx, hrest]

theorem unifyLineEndsFrom_of_no_return (h : '\r' ∉ s) (out : List Char) :
    Text.unifyLineEndsFrom out s = out.reverse ++ s := by
  induction s generalizing out with
  | nil => simp [Text.unifyLineEndsFrom]
  | cons c s ih =>
    simp only [List.mem_cons, not_or] at h
    rw [Text.unifyLineEndsFrom, ih h.2]
    · simp [Ne.symm h.1]
    · rintro r rfl
      exact absurd rfl h.1

theorem unifyLineEnds_write (hst : st.Readable) (v : Json) : Text.unifyLineEnds (v.write st) = v.write st := by
  rw [Text.unifyLineEnds, write, unifyLineEndsFrom_of_no_return (writeAt_no_return hst v 0)]
  simp

end ShapeSearch.Json
