import ShapeSearch.Proofs.Evaluation
import ShapeSearch.Proofs.Naming.Tokens
import ShapeSearch.Proofs.Text

/-!
# Files with the name that is looked for

The words of a name are pieces of it, and so they are in its lower-case form too (`Cut.words`, `contains_lower`).
A quick look at a file with the name of the target therefore finds a word of it, if the name has an ASCII letter
or digit at all (`any_tokenize`).  Then the file is evaluated whether or not loose matches are allowed, and no
penalty is put into its breakdown; a name without words is not found (`quickMatch_namesake`).
-/

namespace ShapeSearch

namespace Naming

/-! ## Words and the name they are from -/

variable {s t : List Char}

/-- The pieces of a cut text are pieces of the text, and the first one opens it. -/
theorem Cut.pieces (h : Cut s t) : ∃ w ws, t.splitOnP (!·.isAlphanum) = w :: ws ∧ w <+: s ∧
    (∀ x ∈ w, x.isAlphanum = true) ∧ ∀ v ∈ ws, v <:+: s ∧ ∀ x ∈ v, x.isAlphanum = true := by
  induction h with
  | nil => exact ⟨[], [], rfl, by simp⟩
  | @keep a s t _ ih =>
    obtain ⟨w, ws, hpieces, hopens, hw, hws⟩ := ih
    rw [List.splitOnP_cons_eq_if_modifyHead, hpieces]
    cases ha : a.isAlphanum with
    | true =>
      refine ⟨a :: w, ws, by simp, by simpa using hopens, by simpa [ha] using hw, fun v hv => ?_⟩
      exact ⟨(hws v hv).1.trans (List.infix_cons (List.infix_refl s)), (hws v hv).2⟩
    | false =>
      refine ⟨[], w :: ws, by simp, by simp, by simp, fun v hv => ?_⟩
      rcases List.mem_cons.mp hv with rfl | hv
      · exact ⟨List.infix_cons hopens.isInfix, hw⟩
      · exact ⟨List.infix_cons (hws v hv).1, (hws v hv).2⟩
  | @blank a b s t ha hb _ ih =>
    obtain ⟨w, ws, hpieces, hopens, hw, hws⟩ := ih
    rw [List.splitOnP_cons_eq_if_modifyHead, List.splitOnP_cons_eq_if_modifyHead, hpieces]
    have hblank : (' ').isAlphanum = false := by decide
    refine ⟨[a], w :: ws, by simp [ha, hblank], by simp, by simpa using ha, fun v hv => ?_⟩
    rcases List.mem_cons.mp hv with rfl | hv
    · exact ⟨List.infix_cons hopens.isInfix, hw⟩
    · exact ⟨List.infix_cons (hws v hv).1, (hws v hv).2⟩

theorem Cut.words (h : Cut s t) : ∀ w ∈ wordsOf t, w <:+: s ∧ ∀ x ∈ w, x.isAlphanum = true := by
  obtain ⟨w, ws, hpieces, hopens, hw, hws⟩ := h.pieces
  intro v hv
  rw [wordsOf, hpieces] at hv
  rcases List.mem_cons.mp (List.mem_of_mem_filter hv) with rfl | hv
  · exact ⟨hopens.isInfix, hw⟩
  · exact hws v hv

theorem Cut.any (h : Cut s t) : t.any Char.isAlphanum = s.any Char.isAlphanum := by
  induction h with
  | nil => rfl
  | keep a h ih => rw [List.any_cons, List.any_cons, ih]
  | blank ha hb h ih => simp [ha]

theorem wordsOf_eq_nil : wordsOf s = [] ↔ s.any Char.isAlphanum = false := by
  induction s with
  | nil => simp [wordsOf]
  | cons a s ih =>
    rw [← List.length_eq_zero_iff, length_wordsOf_cons, Nat.add_eq_zero_iff, List.length_eq_zero_iff,
      ih, List.any_cons]
    cases s <;> cases ha : a.isAlphanum <;> simp_all

end Naming

namespace Text

theorem toNat_of_isAlphanum {c : Char} (h : c.isAlphanum) : c.toNat < 128 := by
  simp only [Naming.isAlphanum_eq, Naming.isUpper_eq, Naming.isLower_eq, Naming.isDigit_eq, Bool.or_eq_true,
    Bool.and_eq_true, decide_eq_true_eq] at h
  omega

/-- What has been put out does not depend on how lower case goes on. -/
theorem lowerFrom_append (before pre s out : List Char) :
    ∃ out', lowerFrom before (pre ++ s) out = lowerFrom (pre.reverse ++ before) s out' := by
  induction pre generalizing before out with
  | nil => exact ⟨out, rfl⟩
  | cons c pre ih =>
    rw [List.cons_append, lowerFrom, List.reverse_cons, List.append_assoc]
    split
    · exact ih ..
    · split <;> exact ih ..

theorem lowerFrom_word {w : List Char} (h : ∀ c ∈ w, c.isAlphanum = true) (before s out : List Char) :
    lowerFrom before (w ++ s) out = lowerFrom (w.reverse ++ before) s ((w.map lowerChar).reverse ++ out) := by
  induction w generalizing before out with
  | nil => rfl
  | cons c w ih =>
    have hc := toNat_of_isAlphanum (h c (by simp))
    rw [List.cons_append, lowerFrom, if_neg (by simp; omega), if_neg (by simp; omega),
      ih fun d hd => h d (by simp [hd])]
    simp

theorem lowerFrom_out (before s out : List Char) : out.reverse <+: lowerFrom before s out := by
  induction s generalizing before out with
  | nil => exact List.prefix_rfl
  | cons c s ih =>
    have hmore : ∀ low : List Char, out.reverse <+: lowerFrom (c :: before) s (low ++ out) := fun low =>
      List.IsPrefix.trans ⟨low.reverse, by simp⟩ (ih (c :: before) (low ++ out))
    rw [lowerFrom]
    split
    · exact hmore [_]
    · split
      · exact hmore [_, _]
      · exact hmore [_]

theorem contains_lower {w s : List Char} (h : w <:+: s) (hw : ∀ c ∈ w, c.isAlphanum = true) :
    contains (lower (String.ofList s)) (lower (String.ofList w)) = true := by
  obtain ⟨a, b, rfl⟩ := h
  have hword : lowerFrom [] w [] = w.map lowerChar := by
    have hall := lowerFrom_word hw [] [] []
    rw [List.append_nil] at hall
    rw [hall, lowerFrom]
    simp
  obtain ⟨out, hout⟩ := lowerFrom_append [] a (w ++ b) []
  rw [contains, isPart_iff, lower, lower]
  simp only [String.toList_ofList]
  rw [hword, List.append_assoc, hout, lowerFrom_word hw]
  obtain ⟨rest, hrest⟩ := lowerFrom_out (w.reverse ++ (a.reverse ++ [])) b ((w.map lowerChar).reverse ++ out)
  refine ⟨out.reverse, rest, ?_⟩
  rw [← hrest]
  simp

end Text

/-- A name is found in lower case by its words, if it has one. -/
theorem Naming.any_tokenize (name : String) :
    (tokenize name).any (Text.contains (Text.lower name)) = name.toList.any Char.isAlphanum := by
  have hcut := cut_cutFree 0 name.toList
  have hin : ∀ w ∈ wordsOf (cutFree 0 name.toList),
      Text.contains (Text.lower name) (Text.lower (String.ofList w)) = true := fun w hw => by
    simpa using Text.contains_lower (hcut.words w hw).1 (hcut.words w hw).2
  rw [tokenize_eq, lowerWords, ← hcut.any, List.any_map]
  cases hwords : wordsOf (cutFree 0 name.toList) with
  | nil => rw [wordsOf_eq_nil.mp hwords, List.any_nil]
  | cons w ws =>
    have hsome : (cutFree 0 name.toList).any Char.isAlphanum = true := by
      refine eq_true_of_ne_false fun hnone => ?_
      rw [wordsOf_eq_nil.mpr hnone] at hwords
      cases hwords
    rw [hsome, List.any_cons, Function.comp_apply, hin w (by simp [hwords]), Bool.true_or]

namespace Evaluator

/-- Evaluate a file of which the name has been looked at. -/
def evaluateFile (ev : Evaluator) (w : World) (path : String) (sig : Signature) (matched : Bool) :
    Except Misfit (Option Candidate) := do
  let o ← ev.readable w path
  o.elim (.ok none) fun t => ev.evaluateText w path sig matched t.1 t.2

theorem evaluate_of_quickMatch {ev : Evaluator} {w : World} {path : String} {sig : Signature} {matched : Bool}
    (h : Naming.quickMatch (Path.baseName path) sig = .ok matched) :
    ev.evaluate w path sig = if matched || ev.settings.allowLooseNameMatch.isTruthy then
      ev.evaluateFile w path sig matched else .ok none := by
  have hread : (ev.readable w path >>= fun o => o.elim (.ok none) fun t =>
      ev.evaluateText w path sig matched t.1 t.2) = ev.evaluateFile w path sig matched := rfl
  rw [evaluate, bind_ok h, ← Bool.not_or]
  cases matched || ev.settings.allowLooseNameMatch.isTruthy with
  | false => rfl
  | true =>
    refine Eq.trans (congrArg (ev.readable w path >>= ·) (funext fun o => ?_)) hread
    cases o <;> rfl

theorem quickName_of_evaluateFile {ev : Evaluator} {w : World} {path : String} {sig : Signature} {matched : Bool}
    {c : Candidate} (h : ev.evaluateFile w path sig matched = .ok (some c)) :
      ∃ n, quickNamePoints ev.settings matched = .ok n ∧ c.breakdown.get? "quickName" = some n := by
  obtain ⟨o, -, h⟩ := bind_eq_ok.mp h
  cases o with
  | none => cases h
  | some t =>
    obtain ⟨relativePath, -, h⟩ := bind_eq_ok.mp h
    obtain ⟨d, hscored, h⟩ := bind_eq_ok.mp h
    obtain ⟨low, -, h⟩ := bind_eq_ok.mp h
    split at h
    · exact absurd h discard_ne_some
    · cases h
      obtain ⟨_, _, _, n, _, -, -, -, hn, -, rfl⟩ := scored_eq_ok hscored
      obtain ⟨_, _, ha⟩ := withAliases_eq ev w _
      rw [ha]
      exact ⟨n, hn, by simp⟩

end Evaluator

namespace Naming

/-- Whether the quick look at a name finds the file that has the name of what is looked for. -/
def findsItself (sig : Signature) (target : String) : Bool :=
  sig.name.isNone || target.toList.any Char.isAlphanum ||
    sig.exports.any fun e => Text.contains (Text.lower target) (Text.lower e)

theorem nameTier_of_lower_eq {stem target : String} (hne : target ≠ "") (h : Text.lower stem = Text.lower target) :
    Scoring.nameTier stem target = some "exactMatch" ∨ Scoring.nameTier stem target = some "caseInsensitive" := by
  have hstem : stem ≠ "" := by
    rintro rfl
    exact Text.lower_ne_empty hne h.symm
  rw [Scoring.nameTier, if_neg hstem]
  split
  · exact .inl rfl
  · exact .inr (if_pos h)

theorem quickMatch_of_lower_eq {sig : Signature} {target fileName : String} (hplain : sig.pattern? = none)
    (htarget : sig.targetName = some target) (hstem : Text.lower (Path.stem fileName) = Text.lower target) :
    quickMatch fileName sig = .ok (findsItself sig target) := by
  have hself : Text.contains (Text.lower target) (Text.lower target) = true :=
    Text.isPart_iff.mpr ⟨[], [], by simp⟩
  cases hname : sig.name with
  | none =>
    simp only [Signature.targetName, hname] at htarget
    rw [quickMatch, hname, stemFits, bind_ok rfl, findsItself, hname, htarget, hstem]
    simp [hself]
  | some q =>
    cases q with
    | exact n =>
      simp only [Signature.targetName, hname, Option.some.injEq] at htarget
      rw [quickMatch, hname, stemFits, bind_ok rfl, findsItself, hname, hstem, htarget, any_tokenize]
      rfl
    | pattern p => simp [Signature.pattern?, hname] at hplain

theorem quickMatch_namesake {sig : Signature} {target path : String} (hplain : sig.pattern? = none)
    (htarget : sig.targetName = some target)
    (hstem : Text.lower (Path.stem (Path.baseName path)) = Text.lower target) :
    (target ≠ "" → Scoring.nameTier (Path.stem (Path.baseName path)) target = some "exactMatch" ∨
      Scoring.nameTier (Path.stem (Path.baseName path)) target = some "caseInsensitive") ∧
    quickMatch (Path.baseName path) sig = .ok (findsItself sig target) ∧
    ∀ (ev : Evaluator) (w : World),
      (findsItself sig target = true → ev.evaluate w path sig = ev.evaluateFile w path sig true ∧
        ∀ c, ev.evaluate w path sig = .ok (some c) → c.breakdown.get? "quickName" = some (.float 0.0)) ∧
      (findsItself sig target = false → ev.settings.allowLooseNameMatch.isTruthy = false →
        ev.evaluate w path sig = .ok none) := by
  have hquick := quickMatch_of_lower_eq hplain htarget hstem
  refine ⟨fun hne => nameTier_of_lower_eq hne hstem, hquick,
    fun ev w => ⟨fun hfinds => ?_, fun hmiss hstrict => ?_⟩⟩
  · have heq : ev.evaluate w path sig = ev.evaluateFile w path sig true := by
      rw [hfinds] at hquick
      rw [Evaluator.evaluate_of_quickMatch hquick]
      rfl
    refine ⟨heq, fun c hc => ?_⟩
    obtain ⟨n, hn, hget⟩ := Evaluator.quickName_of_evaluateFile (heq ▸ hc)
    cases hn
    exact hget
  · rw [Evaluator.evaluate_of_quickMatch hquick, hmiss, hstrict]
    rfl

theorem quickMatch_namesake_store : Scoring.nameTier "datastore" "DataStore" = some "caseInsensitive" ∧
    quickMatch "datastore.py" { name := some (.exact "DataStore") } = .ok true := by
  have hbase : Path.baseName "src/datastore.py" = "datastore.py" := by decide +kernel
  have hfinds : findsItself { name := some (.exact "DataStore") } "DataStore" = true := by decide +kernel
  have htarget : Signature.targetName { name := some (.exact "DataStore") } = some "DataStore" := rfl
  have hstem : Text.lower (Path.stem (Path.baseName "src/datastore.py")) = Text.lower "DataStore" := by
    decide +kernel
  refine ⟨by decide +kernel, ?_⟩
  rw [← hfinds, ← hbase]
  exact (quickMatch_namesake (by rfl) htarget hstem).2.1

theorem quickMatch_misses_namesake : Scoring.nameTier (Path.stem "日本.py") "日本" = some "exactMatch" ∧
    (quickMatch "日本.py" { name := some (.exact "日本") }).toOption = some false := by
  decide +kernel

end Naming

end ShapeSearch
