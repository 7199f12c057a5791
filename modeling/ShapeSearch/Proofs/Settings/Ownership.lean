import ShapeSearch.Discovery.Engine
import ShapeSearch.Proofs.Settings.Documents

/-!
# Who owns an extension

A survey for a language looks for its extensions in lower case.  What else is asked about a file is read from the
owner of its extension, and an owner is found only if a language lists the extension in lower case:

    an extension that is looked for is owned ↔ some language claims it                (owned_of_searched)
-/

namespace ShapeSearch.Settings

variable {limit : ℕ} {limits : Json.Limits} {s : Settings} {fs : Fields Json} {x : String}

/-! ## Languages that have been read -/

/-- Languages are a table with distinct names. -/
def NamesLanguages (s : Settings) : Prop :=
  ∃ fs, s.languages = .obj fs ∧ (Fields.keys fs).Nodup

/-- Settings that are read, if any are, name their languages. -/
def Ends (r : Except Misfit Settings) : Prop :=
  ∀ s, r = .ok s → s.NamesLanguages

theorem Ends.bind {α : Type} {r : Except Misfit α} {f : α → Except Misfit Settings}
    (h : ∀ a, r = .ok a → Ends (f a)) : Ends (r >>= f) := by
  intro s hs
  obtain ⟨a, hr, ha⟩ := bind_eq_ok.mp hs
  exact h a hr s ha

theorem ends_ok (h : s.NamesLanguages) : Ends (.ok s) := by
  rintro _ ⟨⟩
  exact h

theorem ends_error (m : Misfit) : Ends (.error m) := by
  rintro _ ⟨⟩

theorem ends_readers (limit : ℕ) (h : s.NamesLanguages) (v : Json) (doc : Fields Json) :
    Ends (readScoring limit s v) ∧ Ends (readSecurity s v) ∧ Ends (readParser s v) ∧
      Ends (readCache s v) ∧ Ends (readTraversal s doc) := by
  unfold readScoring readSecurity readParser readCache readTraversal
  refine ⟨?_, ?_, ?_, ?_, ?_⟩
  all_goals repeat' first | exact ends_ok h | exact ends_error _ | refine Ends.bind fun _ _ => ?_ | split | dsimp only

theorem ends_readLanguages (h : s.NamesLanguages) (doc : Fields Json) : Ends (readLanguages limit s doc) := by
  unfold readLanguages
  split
  · exact ends_ok h
  · refine .bind fun _ _ => .bind fun fs hmerge => ends_ok ?_
    unfold Json.mergeTables at hmerge
    split at hmerge
    · cases hmerge
    · cases hmerge
      exact ⟨_, rfl, Json.nodup_mergeFields (by decide)⟩

theorem ends_ofSection (doc : Fields Json) : Ends (ofSection limit doc) :=
  .bind fun s₁ h₁ => .bind fun s₂ h₂ => .bind fun s₃ h₃ => .bind fun s₄ h₄ => .bind fun s₅ h₅ =>
    have n₁ := (ends_readers limit ⟨_, rfl, by decide⟩ _ doc).1 s₁ h₁
    have n₂ := (ends_readers limit n₁ _ doc).2.1 s₂ h₂
    have n₃ := ends_readLanguages n₂ doc s₃ h₃
    have n₄ := (ends_readers limit n₃ _ doc).2.2.1 s₄ h₄
    (ends_readers limit ((ends_readers limit n₄ _ doc).2.2.2.1 s₅ h₅) .null doc).2.2.2.2

theorem namesLanguages_of_ofJson {d : Json} (h : ofJson d limits = .ok s) : s.NamesLanguages := by
  cases d with
  | null =>
    cases h
    exact ⟨_, rfl, by decide⟩
  | obj doc =>
    simp only [ofJson] at h
    split at h
    · next sec _ =>
      obtain ⟨t, ht, h⟩ := bind_eq_ok.mp h
      obtain ⟨_, -, h⟩ := bind_eq_ok.mp h
      cases h
      cases hsec : ofSection limits.steps sec with
      | error m => simp [hsec, Fault.lift] at ht
      | ok t =>
        obtain rfl : t = s := by simpa [hsec, Fault.lift] using ht
        exact ends_ofSection sec _ hsec
    · cases h
  | _ => cases h

/-! ## Owners -/

theorem not_claims_of_claimant (h : claimant x fs = .ok none) : ∀ f ∈ fs, ¬Claims x f.2 := by
  induction fs with
  | nil => simp
  | cons g fs ih =>
    rintro f hf hclaims
    rw [claimant] at h
    rcases List.mem_cons.mp hf with rfl | hf
    · rw [bind_ok hclaims.1, if_pos rfl, bind_ok hclaims.2] at h
      cases h
    · refine ih ?_ f hf hclaims
      obtain ⟨on, -, h⟩ := bind_eq_ok.mp h
      split at h
      · obtain ⟨b, -, h⟩ := bind_eq_ok.mp h
        split at h
        · cases h
        · exact h
      · exact h

/-- What is asked about an extension is read from one language, which is switched on and lists it: the names that
are passed over, the limit for sizes if it has one, and how exports are read. -/
structure Owned (s : Settings) (x owner : String) : Prop where
  language : s.languageFor x = .ok (some owner)
  description : ∃ fs v, s.languages = .obj fs ∧ Fields.get? fs owner = some v ∧ Claims x v ∧
    s.skipPatternsFor x = Json.iterateOr (v.field? "skipPatterns")
  size : ∀ ps n, owner ≠ "" → s.parserOf owner = .ok ps → sizeOf? (ps.get? "maxFileSize") = .ok (some n) →
    s.maxFileSizeFor x = .ok n
  extractor : ∀ overrides path, Fields.get? overrides x = none → Text.lower (Path.extension path) = x →
    Extractor.forPath s overrides path = Extractor.ofLanguage s owner

theorem owned_of_languageFor {owner : String} (hs : s.NamesLanguages) (hx : Text.lower x = x)
    (h : s.languageFor x = .ok (some owner)) : s.Owned x owner := by
  obtain ⟨fs, hfs, hnodup⟩ := hs
  have htable : s.languageTable = .ok fs := by rw [languageTable, hfs]
  obtain ⟨v, hv, hclaims⟩ : ∃ v, (owner, v) ∈ fs ∧ Claims x v := by
    rw [languageFor, bind_ok htable, hx] at h
    exact mem_of_claimant h
  have hget := (Fields.get?_eq_some_iff hnodup).mpr hv
  refine ⟨h, ⟨fs, v, hfs, hget, hclaims, ?_⟩, fun ps n hne hps hn => ?_, fun overrides path hnone hpath => ?_⟩
  · rw [skipPatternsFor, bind_ok h]
    dsimp only
    rw [bind_ok htable, hget, Option.bind_some]
  · rw [maxFileSizeFor, bind_ok h]
    dsimp only
    rw [if_neg hne, bind_ok hps, bind_ok hn]
  · rw [Extractor.forPath, hpath, hnone]
    dsimp only
    rw [bind_ok h]

theorem holds_of_mem {v : Option Json} {items : List Json} (h : TextsOrNothing v)
    (hitems : Json.iterateOr v = .ok items) (hx : .str x ∈ items) : holds v x = .ok true := by
  rcases h with h | ⟨ts, rfl⟩
  · cases v with
    | none =>
      cases hitems
      cases hx
    | some v =>
      rw [Json.iterateOr, if_neg (by simp [h v rfl])] at hitems
      cases hitems
      cases hx
  · cases ts with
    | nil =>
      cases hitems
      cases hx
    | cons t ts =>
      cases hitems
      exact congrArg Except.ok (List.any_eq_true.mpr ⟨_, hx, by simp [Json.text?]⟩)

/-- An extension that a survey for a language looks for is owned if and only if some language claims it, and that
is so if the language lists its extensions in lower case. -/
theorem owned_of_searched {d : Json} {l name : String} {xs : List String} (hs : ofJson d limits = .ok s)
    (hlists : ∀ fs, s.languages = .obj fs → ∀ f ∈ fs, ListsExtensions f.2) (hl : l ≠ "")
    (hxs : Engine.searchedExtensions s (some l) = .ok xs) (hname : Text.lower (Path.extension name) ∈ xs) :
    ((∃ owner, s.Owned (Text.lower (Path.extension name)) owner) ↔
      ∃ fs, s.languages = .obj fs ∧ ∃ f ∈ fs, Claims (Text.lower (Path.extension name)) f.2) ∧
    ((∀ items e, s.extensionsFor (some l) = .ok items → .str e ∈ items → Text.lower e = e) →
      ∃ owner, s.Owned (Text.lower (Path.extension name)) owner) := by
  have hnames := namesLanguages_of_ofJson hs
  obtain ⟨fs, hfs, -⟩ := id hnames
  have htable : s.languageTable = .ok fs := by rw [languageTable, hfs]
  have hlower := Text.lower_lower (Path.extension name)
  generalize Text.lower (Path.extension name) = x at *
  have hiff : (∃ owner, s.Owned x owner) ↔ ∃ fs, s.languages = .obj fs ∧ ∃ f ∈ fs, Claims x f.2 := by
    constructor
    · rintro ⟨owner, howned⟩
      obtain ⟨gs, v, hgs, hget, hclaims, -⟩ := howned.description
      exact ⟨gs, hgs, _, Fields.mem_of_get? hget, hclaims⟩
    · rintro ⟨gs, hgs, f, hf, hclaims⟩
      obtain rfl := Json.obj.inj (hfs.symm.trans hgs)
      obtain ⟨owner, howner⟩ := claimant_ok x (hlists fs hfs)
      cases owner with
      | none => exact absurd hclaims (not_claims_of_claimant howner f hf)
      | some owner =>
        refine ⟨owner, owned_of_languageFor hnames hlower ?_⟩
        rw [languageFor, bind_ok htable, hlower, howner]
  refine ⟨hiff, fun hcase => hiff.mpr ⟨fs, hfs, ?_⟩⟩
  obtain ⟨items, hitems, hxs⟩ := bind_eq_ok.mp hxs
  replace hcase := fun e => hcase items e hitems
  rw [extensionsFor, if_neg hl, languageExtensions, bind_ok htable] at hitems
  split at hitems
  · cases hitems
    cases hxs
    cases hname
  · next v hget =>
    have hmem := Fields.mem_of_get? hget
    obtain ⟨on, hon, htexts⟩ := isEnabled_ok (hlists fs hfs _ hmem)
    rw [bind_ok hon] at hitems
    split at hitems
    · next htrue =>
      replace htexts := htexts htrue
      obtain ⟨ts, hts⟩ := iterateOr_ok htexts
      cases hts.symm.trans hitems
      cases (lowerItems_texts ts).symm.trans hxs
      obtain ⟨e, he, rfl⟩ := List.mem_map.mp hname
      have hitem : Json.str e ∈ ts.map .str := List.mem_map_of_mem he
      rw [hcase e hitem]
      exact ⟨_, hmem, htrue ▸ hon, holds_of_mem htexts hitems hitem⟩
    · cases hitems
      cases hxs
      cases hname

/-- A document that gives Python another extension. -/
def pythonWith (extension : String) : Json :=
  .obj [("languages", .obj [("python", .obj [("extensions", .ofTexts [extension])])])]

theorem ofJson_pythonWith (extension : String) : ∃ s, ofJson (pythonWith extension) = .ok s ∧
    s.languages = .obj (Json.mergeFields Defaults.languages
      [("python", .obj [("extensions", .ofTexts [extension])])]) ∧
    Engine.searchedExtensions s (some "python") = .ok [Text.lower extension] :=
  ⟨_, rfl, rfl, rfl⟩

theorem owned_of_searched_setup : ∃ s, ofJson (pythonWith ".py") = .ok s ∧
    ∃ owner, s.Owned (Text.lower (Path.extension "setup.PY")) owner := by
  obtain ⟨s, hs, hlanguages, hxs⟩ := ofJson_pythonWith ".py"
  refine ⟨s, hs, (owned_of_searched hs ?_ (by decide) hxs (by decide +kernel)).2 ?_⟩
  · intro fs hfs f hf
    cases hlanguages.symm.trans hfs
    exact (describesLanguage_of_fits
      ((by decide +kernel : ∀ f ∈ Json.mergeFields _ _, fieldsFit languageFits f.2 = true) f hf)).lists
  · intro items e he hmem
    rw [extensionsFor, if_neg (by decide), languageExtensions, languageTable, hlanguages] at he
    cases he
    cases List.mem_singleton.mp hmem
    decide +kernel

theorem not_owned_upper : ∃ s, ofJson (pythonWith ".PY") = .ok s ∧
    Engine.searchedExtensions s (some "python") = .ok [Text.lower (Path.extension "setup.py")] ∧
    ¬∃ owner, s.Owned (Text.lower (Path.extension "setup.py")) owner := by
  obtain ⟨s, hs, hlanguages, hxs⟩ := ofJson_pythonWith ".PY"
  have hpy : Text.lower ".PY" = Text.lower (Path.extension "setup.py") := by decide +kernel
  have hnone : s.languageFor (Text.lower ".PY") = .ok none := by
    rw [languageFor, languageTable, hlanguages]
    exact eq_ok_of_toOption (by decide +kernel)
  rw [← hpy]
  refine ⟨s, hs, hxs, ?_⟩
  rintro ⟨owner, howned⟩
  cases hnone.symm.trans howned.language

end ShapeSearch.Settings
