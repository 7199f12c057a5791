import ShapeSearch.Candidate.Standing
import ShapeSearch.Proofs.Fields
import ShapeSearch.Misfit

/-!
# Settings of the right kinds

Settings are kept as they were given, so a lookup can fail.  If each of them is of its kind (`Typed`), the
lookups that a survey makes give texts:

    s.Typed → s.extensionsFor language = .ok (texts)                                (extensionsFor_ok)
    s.Typed → s.skipPatternsFor extension = .ok (texts)                             (skipPatternsFor_ok)

A text is safe if unsafe texts are allowed, or if it holds no blocked text (`Safety.Safe`), and that is what
is computed (`isSafe_typed`).
-/

namespace ShapeSearch

namespace Settings

/-- A list of texts, or a value that counts as none. -/
def TextsOrNothing (v : Option Json) : Prop :=
  (∀ x ∈ v, x.isTruthy = false) ∨ ∃ ts, v = some (.ofTexts ts)

/-- A description of a language with a list of extensions, or nothing. -/
def ListsExtensions (v : Json) : Prop :=
  v.isTruthy = false ∨ ∃ fs, v = .obj fs ∧ TextsOrNothing (Fields.get? fs "extensions")

/-- A description of a language: a table with lists of texts, or nothing. -/
def DescribesLanguage (v : Json) : Prop :=
  v.isTruthy = false ∨ ∃ fs, v = .obj fs ∧ TextsOrNothing (Fields.get? fs "extensions") ∧
    TextsOrNothing (Fields.get? fs "skipPatterns")

/-- The settings that a survey reads are of their kinds. -/
structure Typed (s : Settings) : Prop where
  extensions : ∃ ts, s.extensions = .ofTexts ts
  skipDirectories : ∃ xs, s.skipDirectories = .arr xs
  maxDepth : ∃ d, s.maxDepth.numeric? = some (.int d)
  languages : ∃ fs, s.languages = .obj fs ∧ ∀ f ∈ fs, DescribesLanguage f.2
  blockedTokens : ∃ ts, s.blockedTokens = .ofTexts ts

theorem typed_default : Typed {} where
  extensions := ⟨_, rfl⟩
  skipDirectories := ⟨_, rfl⟩
  maxDepth := ⟨10, rfl⟩
  languages := by
    refine ⟨_, rfl, fun f hf => ?_⟩
    have hlanguage : ∀ extensions skipPatterns timeout,
        DescribesLanguage (Defaults.language extensions skipPatterns timeout) := fun _ _ _ =>
      .inr ⟨_, rfl, .inr ⟨_, rfl⟩, .inr ⟨_, rfl⟩⟩
    simp only [Defaults.languages, List.mem_cons, List.not_mem_nil, or_false] at hf
    rcases hf with rfl | rfl | rfl <;> exact hlanguage _ _ _
  blockedTokens := ⟨_, rfl⟩

theorem holds_ok {v : Option Json} (h : TextsOrNothing v) (text : String) : ∃ b, holds v text = .ok b := by
  rcases h with h | ⟨ts, rfl⟩
  · cases v with
    | none => exact ⟨_, rfl⟩
    | some v =>
      have hv := h v rfl
      cases v with
      | arr xs => exact ⟨_, rfl⟩
      | obj fs => exact ⟨_, rfl⟩
      | str s => exact ⟨_, rfl⟩
      | null => exact ⟨_, rfl⟩
      | bool b => exact ⟨false, by simp [holds, hv]⟩
      | num n => exact ⟨false, by simp [holds, hv]⟩
  · exact ⟨_, rfl⟩

theorem iterateOr_ok {v : Option Json} (h : TextsOrNothing v) :
    ∃ ts : List String, Json.iterateOr v = .ok (ts.map .str) := by
  rcases h with h | ⟨ts, rfl⟩
  · cases v with
    | none => exact ⟨[], rfl⟩
    | some v => exact ⟨[], by simp [Json.iterateOr, h v rfl]⟩
  · cases ts with
    | nil => exact ⟨[], rfl⟩
    | cons t ts => exact ⟨t :: ts, rfl⟩

theorem field?_of_falsy {v : Json} (h : v.isTruthy = false) (k : String) : v.field? k = none := by
  cases v with
  | obj fs =>
    obtain rfl : fs = [] := by simpa [Json.isTruthy] using h
    rfl
  | _ => rfl

theorem isEnabled_returns {v : Json} (h : v.isTruthy = false ∨ ∃ fs, v = .obj fs) : ∃ b, isEnabled v = .ok b := by
  unfold isEnabled
  split
  · exact ⟨_, rfl⟩
  · split <;> exact ⟨_, rfl⟩
  · next hne =>
    rcases h with h | ⟨fs, rfl⟩
    · exact ⟨false, by simp [h]⟩
    · exact absurd rfl (hne fs)

theorem DescribesLanguage.lists {v : Json} (h : DescribesLanguage v) : ListsExtensions v := by
  rcases h with h | ⟨fs, hfs, hext, -⟩
  · exact .inl h
  · exact .inr ⟨fs, hfs, hext⟩

theorem DescribesLanguage.skips {v : Json} (h : DescribesLanguage v) : TextsOrNothing (v.field? "skipPatterns") := by
  rcases h with h | ⟨fs, rfl, -, hskip⟩
  · exact .inl (by simp [field?_of_falsy h])
  · exact hskip

theorem isEnabled_ok {v : Json} (h : ListsExtensions v) :
    ∃ b, isEnabled v = .ok b ∧ (b = true → TextsOrNothing (v.field? "extensions")) := by
  rcases h with h | ⟨fs, rfl, hext⟩
  · obtain ⟨b, hb⟩ := isEnabled_returns (.inl h)
    exact ⟨b, hb, fun _ => .inl (by simp [field?_of_falsy h])⟩
  · obtain ⟨b, hb⟩ := isEnabled_returns (.inr ⟨fs, rfl⟩)
    exact ⟨b, hb, fun _ => hext⟩

theorem claimant_ok (extension : String) {fs : Fields Json} (h : ∀ f ∈ fs, ListsExtensions f.2) :
    ∃ l, claimant extension fs = .ok l := by
  induction fs with
  | nil => exact ⟨none, rfl⟩
  | cons f fs ih =>
    obtain ⟨name, v⟩ := f
    obtain ⟨l, hl⟩ := ih fun g hg => h g (List.mem_cons_of_mem _ hg)
    obtain ⟨on, hon, hext⟩ := isEnabled_ok (h _ List.mem_cons_self)
    rw [claimant, bind_ok hon]
    cases on with
    | false => exact ⟨l, hl⟩
    | true =>
      obtain ⟨claims, hclaims⟩ := holds_ok (hext rfl) extension
      rw [if_pos rfl, bind_ok hclaims]
      cases claims with
      | false => exact ⟨l, hl⟩
      | true => exact ⟨some name, rfl⟩

theorem lowerItems_texts (ts : List String) : lowerItems (ts.map .str) = .ok (ts.map Text.lower) := by
  induction ts with
  | nil => rfl
  | cons t ts ih =>
    rw [List.map_cons, lowerItems, ih]
    rfl

variable {s : Settings}

theorem Typed.languageTable (h : s.Typed) :
    ∃ fs, s.languageTable = .ok fs ∧ ∀ f ∈ fs, DescribesLanguage f.2 := by
  obtain ⟨fs, hfs, hall⟩ := h.languages
  exact ⟨fs, by rw [Settings.languageTable, hfs], hall⟩

theorem Typed.extensionsFor_ok (h : s.Typed) (language : Option String) :
    ∃ ts : List String, s.extensionsFor language = .ok (ts.map .str) := by
  have hall : ∃ ts : List String,
      (do .ok ((← lowerItems (← s.extensions.iterate)).map Json.str)) = Except.ok (ε := Misfit) (ts.map .str) := by
    obtain ⟨ts, hts⟩ := h.extensions
    have hiterate : s.extensions.iterate = .ok (ts.map .str) := by rw [hts]; rfl
    rw [bind_ok hiterate, bind_ok (lowerItems_texts ts)]
    exact ⟨_, rfl⟩
  cases language with
  | none => exact hall
  | some l =>
    by_cases hl : l = ""
    · rw [Settings.extensionsFor, if_pos hl]
      exact hall
    · rw [Settings.extensionsFor, if_neg hl]
      obtain ⟨fs, hfs, hdescribes⟩ := h.languageTable
      rw [languageExtensions, bind_ok hfs]
      cases hget : Fields.get? fs (Text.lower l) with
      | none => exact ⟨[], rfl⟩
      | some v =>
        obtain ⟨on, hon, hext⟩ := isEnabled_ok (hdescribes _ (Fields.mem_of_get? hget)).lists
        simp only
        rw [bind_ok hon]
        cases on with
        | false => exact ⟨[], rfl⟩
        | true => exact iterateOr_ok (hext rfl)

theorem Typed.skipPatternsFor_ok (h : s.Typed) (extension : String) :
    ∃ gs : List String, s.skipPatternsFor extension = .ok (gs.map .str) := by
  obtain ⟨fs, hfs, hdescribes⟩ := h.languageTable
  obtain ⟨l, hl⟩ := claimant_ok (Text.lower extension) fun f hf => (hdescribes f hf).lists
  have hfor : s.languageFor extension = .ok l := by rw [languageFor, bind_ok hfs, hl]
  rw [Settings.skipPatternsFor, bind_ok hfor]
  cases l with
  | none => exact ⟨[], rfl⟩
  | some l =>
    simp only
    rw [bind_ok hfs]
    cases hget : Fields.get? fs l with
    | none => exact ⟨[], rfl⟩
    | some v =>
      have hskip := (hdescribes _ (Fields.mem_of_get? hget)).skips
      exact iterateOr_ok hskip

end Settings

namespace Safety

/-- A text holds a text that is blocked, whatever the case of both. -/
def Blocks (s : Settings) (text : String) : Prop :=
  ∃ tokens token, s.blockedTokens.iterate = .ok tokens ∧ Json.str token ∈ tokens ∧ token ≠ "" ∧
    Text.contains (Text.lower text) (Text.lower token) = true

/-- Unsafe texts are allowed, or the text holds nothing that is blocked. -/
def Safe (s : Settings) (text : String) : Prop :=
  s.allowUnsafe.isTruthy = true ∨ ¬Blocks s text

theorem holdsNone_eq_true {text : List Char} {tokens : List Json} (h : holdsNone text tokens = .ok true) :
    ∀ token, Json.str token ∈ tokens → token ≠ "" → Text.isPart (Text.lower token).toList text = false := by
  induction tokens with
  | nil => simp
  | cons v tokens ih =>
    intro token hmem hne
    cases v with
    | str t =>
      rw [holdsNone] at h
      split at h
      · cases h
      · next hpart =>
        rcases List.mem_cons.mp hmem with heq | hmem
        · cases heq
          simpa [hne] using hpart
        · exact ih h token hmem hne
    | _ =>
      rw [holdsNone] at h
      · split at h
        · cases h
        · exact ih h token ((List.mem_cons.mp hmem).resolve_left (by simp)) hne
      · simp

theorem holdsNone_texts (text : List Char) (ts : List String) : ∃ b, holdsNone text (ts.map .str) = .ok b ∧
    (b = true ↔ ∀ t ∈ ts, t ≠ "" → Text.isPart (Text.lower t).toList text = false) := by
  induction ts with
  | nil => exact ⟨true, rfl, by simp⟩
  | cons t ts ih =>
    obtain ⟨b, hb, hiff⟩ := ih
    rw [List.map_cons, holdsNone]
    split
    · next hpart =>
      simp only [Bool.and_eq_true, decide_eq_true_eq] at hpart
      exact ⟨false, rfl, by simp [hpart]⟩
    · next hpart =>
      refine ⟨b, hb, hiff.trans ?_⟩
      simp only [Bool.and_eq_true, decide_eq_true_eq, not_and, Bool.not_eq_true] at hpart
      rw [List.forall_mem_cons]
      exact ⟨fun h => ⟨hpart, h⟩, fun h => h.2⟩

theorem safe_of_isSafe {s : Settings} {text : String} (h : isSafe s text = .ok true) : Safe s text := by
  unfold isSafe at h
  split at h
  · next hallowed => exact .inl hallowed
  · obtain ⟨tokens, htokens, h⟩ := bind_eq_ok.mp h
    refine .inr ?_
    rintro ⟨tokens', token, htokens', hmem, hne, hpart⟩
    cases htokens.symm.trans htokens'
    have hnone : Text.contains (Text.lower text) (Text.lower token) = false := holdsNone_eq_true h token hmem hne
    rw [hnone] at hpart
    cases hpart

theorem isSafe_typed {s : Settings} (h : ∃ ts, s.blockedTokens = .ofTexts ts) (text : String) :
    ∃ b, isSafe s text = .ok b ∧ (b = true ↔ Safe s text) := by
  obtain ⟨ts, hts⟩ := h
  have hiterate : s.blockedTokens.iterate = .ok (ts.map .str) := by rw [hts]; rfl
  by_cases hallowed : s.allowUnsafe.isTruthy = true
  · exact ⟨true, by rw [isSafe, if_pos hallowed], by simp [Safe, hallowed]⟩
  · obtain ⟨b, hb, hiff⟩ := holdsNone_texts (Text.lower text).toList ts
    refine ⟨b, by rw [isSafe, if_neg hallowed, bind_ok hiterate, hb], hiff.trans ?_⟩
    simp [Safe, hallowed, Blocks, hiterate, Text.contains]

end Safety

end ShapeSearch
