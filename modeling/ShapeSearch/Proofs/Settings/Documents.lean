import ShapeSearch.Proofs.Settings.Readers
import ShapeSearch.Settings.Reading

/-!
# Settings from documents

A document is read section by section, weights and languages are merged over the defaults, and then a few
things are checked.  If the sections are of their kinds, their numbers can be counted with and what fails a check
can be shown (`shaped`), the document is refused or gives settings that all readers can use:

    shaped limits d → ofJson d limits is refused ∨ ofJson d limits = .ok s ∧ s.Serves     (ofJson_serves)

For other documents this can fail in two ways (`ofJson_of_misfits`): a section of another kind is read
before anything is checked, and what the checks pass over fails when it is used.
-/

namespace ShapeSearch

namespace Fault

variable {ε α β : Type}

/-- A result or a refusal, and nothing else. -/
def Judged (x : Except (Fault ε) α) : Prop :=
  (∃ a, x = .ok a) ∨ ∃ e, x = .error (.refused e)

theorem Judged.bind {x : Except (Fault ε) α} {f : α → Except (Fault ε) β} (hx : Judged x)
    (hf : ∀ a, x = .ok a → Judged (f a)) : Judged (x >>= f) := by
  rcases hx with ⟨a, rfl⟩ | ⟨e, rfl⟩
  · exact hf a rfl
  · exact .inr ⟨e, rfl⟩

theorem showing_of_shown {limits : Json.Limits} {v : Json} (h : (v.shown limits).isOk) (e : ε) :
    showing limits v e = .refused e := by
  rw [showing]
  split
  · rfl
  · next m hm =>
    rw [hm] at h
    cases h

end Fault

/-! ## Merging -/

namespace Json

variable {base changes : List (String × Json)} {n : ℕ}

/-- A property that two tables have together if both have it. -/
def MergeClosed (fits : Json → Bool) : Prop :=
  ∀ b c, fits (.obj b) = true → fits (.obj c) = true → fits (.obj (mergeFields b c)) = true

/-- What holds of the fields of both tables holds of all fields after a merge. -/
theorem mem_mergeFields {fits : String → Json → Bool} (h : ∀ k, MergeClosed (fits k))
    (hbase : ∀ f ∈ base, fits f.1 f.2 = true) (hchanges : ∀ f ∈ changes, fits f.1 f.2 = true) :
    ∀ f ∈ mergeFields base changes, fits f.1 f.2 = true := by
  induction changes generalizing base with
  | nil => simpa [mergeFields] using hbase
  | cons c r ih =>
    obtain ⟨k, v⟩ := c
    have hv : fits k v = true := hchanges _ List.mem_cons_self
    have hmerged : fits k (mergeValue (Fields.get? base k) v) = true := by
      unfold mergeValue
      split
      · next b c hget => exact h k b c (hbase _ (Fields.mem_of_get? hget)) hv
      · exact hv
    rw [mergeFields]
    refine ih (fun f hf => ?_) fun f hf => hchanges f (List.mem_cons_of_mem _ hf)
    rcases Fields.mem_put hf with rfl | hf
    · exact hmerged
    · exact hbase f hf

theorem nodup_mergeFields (h : (Fields.keys base).Nodup) : (Fields.keys (mergeFields base changes)).Nodup := by
  induction changes generalizing base with
  | nil => simpa [mergeFields] using h
  | cons c r ih =>
    rw [mergeFields]
    exact ih (Fields.nodup_put h _ _)

theorem copyFieldSteps_le_iff : copyFieldSteps base ≤ n ↔ ∀ f ∈ base, copySteps f.2 ≤ n := by
  induction base with
  | nil => simp [copyFieldSteps]
  | cons f r ih =>
    rw [copyFieldSteps, max_le_iff, ih, List.forall_mem_cons]

mutual
/-- Putting changes in goes no deeper than copying them. -/
theorem mergeSteps_le (base : List (String × Json)) : ∀ changes : List (String × Json),
    mergeSteps base changes ≤ copyFieldSteps changes
  | [] => Nat.zero_le _
  | (k, v) :: r => by
    rw [mergeSteps, copyFieldSteps]
    exact max_le_max (mergeValueSteps_le (Fields.get? base k) v) (mergeSteps_le base r)

theorem mergeValueSteps_le (old : Option Json) : ∀ v : Json, mergeValueSteps old v ≤ copySteps v
  | .obj changes => by
    unfold mergeValueSteps
    split
    · next b c heq =>
      cases heq
      have hle := mergeSteps_le b changes
      rw [copySteps]
      omega
    · exact le_rfl
  | .null | .bool _ | .num _ | .str _ | .arr _ => by
    unfold mergeValueSteps
    split
    · next h => cases h
    · exact le_rfl
end

theorem mergeTables_ok (hbase : copySteps (.obj base) ≤ n) (hchanges : ∀ f ∈ changes, copySteps f.2 ≤ n) :
    mergeTables n base changes = .ok (mergeFields base changes) := by
  have hle : mergeSteps base changes ≤ n :=
    (mergeSteps_le base changes).trans (copyFieldSteps_le_iff.mpr hchanges)
  rw [mergeTables, if_neg]
  simpa using ⟨hbase, hle⟩

theorem fieldsShown_eq_ok {digits room : ℕ} :
    fieldsShown digits room base = .ok () ↔ ∀ f ∈ base, shownWithin digits room f.2 = .ok () := by
  induction base with
  | nil => simp [fieldsShown]
  | cons f r ih =>
    rw [fieldsShown, bind_eq_ok, List.forall_mem_cons, ← ih]
    constructor
    · rintro ⟨_, hf, hr⟩
      exact ⟨hf, hr⟩
    · rintro ⟨hf, hr⟩
      exact ⟨(), hf, hr⟩

mutual
/-- What is merged from values that can be shown can be shown. -/
theorem fieldsShown_mergeFields {digits room : ℕ} : ∀ changes base : List (String × Json),
    fieldsShown digits room base = .ok () → fieldsShown digits room changes = .ok () →
      fieldsShown digits room (mergeFields base changes) = .ok ()
  | [], _, hbase, _ => by rwa [mergeFields]
  | (k, v) :: r, base, hbase, hchanges => by
    rw [fieldsShown_eq_ok] at hbase
    obtain ⟨hv, hr⟩ := List.forall_mem_cons.mp (fieldsShown_eq_ok.mp hchanges)
    rw [mergeFields]
    refine fieldsShown_mergeFields r _ (fieldsShown_eq_ok.mpr fun f hf => ?_) (fieldsShown_eq_ok.mpr hr)
    rcases Fields.mem_put hf with rfl | hf
    · exact shownWithin_mergeValue v _ (fun o ho => hbase _ (Fields.mem_of_get? ho)) hv
    · exact hbase f hf

theorem shownWithin_mergeValue {digits room : ℕ} : ∀ (v : Json) (old : Option Json),
    (∀ o ∈ old, shownWithin digits room o = .ok ()) → shownWithin digits room v = .ok () →
      shownWithin digits room (mergeValue old v) = .ok ()
  | .obj changes, old, hold, hv => by
    unfold mergeValue
    split
    · next b c heq =>
      cases heq
      have hb := hold _ rfl
      cases room with
      | zero => cases hv
      | succ room =>
        rw [shownWithin] at hb hv ⊢
        exact fieldsShown_mergeFields changes b hb hv
    · exact hv
  | .null, _, _, hv | .bool _, _, _, hv | .num _, _, _, hv | .str _, _, _, hv | .arr _, _, _, hv => by
    unfold mergeValue
    split
    · next heq _ => cases heq
    · exact hv
end

end Json

namespace Settings

open Json (MergeClosed)

variable {fits : String → Json → Bool} {v : Json}

theorem mergeClosed_fieldsFit (h : ∀ k, MergeClosed (fits k)) : MergeClosed (fieldsFit fits) := by
  intro b c hb hc
  exact List.all_eq_true.mpr (Json.mem_mergeFields h (List.all_eq_true.mp hb) (List.all_eq_true.mp hc))

theorem mergeClosed_weightFits : MergeClosed weightFits :=
  fun _ _ _ _ => rfl

theorem mergeClosed_countFits : MergeClosed countFits := by
  intro b c hb
  cases hb

theorem mergeClosed_scoringFits (name : String) : MergeClosed (scoringFits name) := by
  unfold scoringFits
  intro b c
  split
  · exact mergeClosed_fieldsFit (fun _ => mergeClosed_fieldsFit fun _ => mergeClosed_weightFits) b c
  · split
    · intro _ _
      unfold Json.iterateOr
      dsimp only
      split <;> rfl
    · split
      · exact mergeClosed_fieldsFit (fun _ => mergeClosed_weightFits) b c
      · split
        · exact mergeClosed_fieldsFit (fun _ => mergeClosed_countFits) b c
        · exact fun _ _ => rfl

theorem mergeClosed_languageFits (name : String) : MergeClosed (languageFits name) := by
  unfold languageFits
  intro b c
  split
  · intro hb hc
    -- tables stand for no texts unless they are empty
    have hempty : ∀ fs, textsOrNothing (.obj fs) = true → fs = [] := by
      intro fs h
      simpa [textsOrNothing, Json.isTruthy, Json.items?] using h
    rw [hempty b hb, hempty c hc]
    rfl
  · split
    · refine mergeClosed_fieldsFit (fun k b c _ _ => ?_) b c
      simp [parserFits, sizeFits, Json.number?]
    · exact fun _ _ => rfl

variable {limits : Json.Limits}

/-! ## Documents -/

/-- Whether something runs through texts only. -/
def textItems (x : Except Misfit (List Json)) : Bool :=
  x.toOption.any fun xs => xs.all fun v => v.text?.isSome

/-- What the section on unsafe texts may hold under a name. -/
def securityFits (name : String) (v : Json) : Bool :=
  name != "blockedTokens" || textItems (Json.iterateOr (some v))

/-- What the section on kept results may hold under a name: `validate` checks all of it. -/
def anyFits (_ : String) (_ : Json) : Bool :=
  true

/-- What a document may hold under a name. -/
def sectionFits (name : String) (v : Json) : Bool :=
  if name = "scoring" then fieldsFit scoringFits v
  else if name = "security" then fieldsFit securityFits v
  else if name = "languages" then fieldsFit (fun _ => fieldsFit languageFits) v
  else if name = "parser" then fieldsFit parserFits v
  else if name = "cache" then fieldsFit anyFits v
  else if name = "extensions" || name = "skipDirectories" then textItems v.iterate
  else true

def isNumber (v : Json) : Bool :=
  v.number?.isSome

/-- Whether a value passes a check, or else can be shown in the report. -/
def reports (limits : Json.Limits) (passes : Json → Bool) (v : Json) : Bool :=
  passes v || (v.shown limits).isOk

/-- Whether the checks of the weight section can report what it holds under a name. -/
def scoringReports (limits : Json.Limits) (name : String) (v : Json) : Bool :=
  if name = "minCandidateScore" || name = "looseNamePenalty" then reports limits isNumber v
  else if checkedTables.contains name then fieldsFit (fun _ => reports limits isNumber) v
  else true

def cacheReports (limits : Json.Limits) (name : String) (v : Json) : Bool :=
  name != "ttl" || reports limits (fun v => v.numeric?.isSome) v

/-- Whether the checks can report what a document holds under a name. -/
def sectionReports (limits : Json.Limits) (name : String) (v : Json) : Bool :=
  if name = "scoring" then fieldsFit (scoringReports limits) v
  else if name = "cache" then fieldsFit (cacheReports limits) v
  else if name = "maxDepth" then reports limits isDepth v
  else true

/-- Sections that fit, can be reported and are not nested too deep. -/
def sectionsFit (limits : Json.Limits) (doc : Fields Json) : Bool :=
  doc.all fun f => sectionFits f.1 f.2 && sectionReports limits f.1 f.2 && f.2.copySteps ≤ limits.steps

/-- A document whose sections fit. -/
def shaped (limits : Json.Limits) : Json → Bool
  | .obj doc => ((Fields.get? doc "discovery").getD (.obj doc)).fields?.all (sectionsFit limits)
  | _ => true

/-- Settings whose faults can be reported. -/
structure Reportable (limits : Json.Limits) (s : Settings) : Prop where
  score : reports limits isNumber s.minCandidateScore = true
  penalty : reports limits isNumber s.looseNamePenalty = true
  tables : ∃ fs, s.scoring = .obj fs ∧ ∀ f ∈ fs, scoringReports limits f.1 f.2 = true
  lifetime : reports limits (fun v => v.numeric?.isSome) s.cacheLifetime = true
  depth : reports limits isDepth s.maxDepth = true

/-- Settings that all readers can use, or whose faults can be reported. -/
structure Ready (limits : Json.Limits) (s : Settings) : Prop extends s.Sound, Reportable limits s

theorem texts_of_all {xs : List Json} (h : xs.all (fun v => v.text?.isSome)) :
    ∃ ts : List String, xs = ts.map .str := by
  induction xs with
  | nil => exact ⟨[], rfl⟩
  | cons x r ih =>
    rw [List.all_cons, Bool.and_eq_true] at h
    obtain ⟨ts, rfl⟩ := ih h.2
    cases x with
    | str t => exact ⟨t :: ts, rfl⟩
    | _ => cases h.1

theorem texts_of_textItems {x : Except Misfit (List Json)} (h : textItems x) :
    ∃ ts : List String, x = .ok (ts.map .str) := by
  cases x with
  | error m => cases h
  | ok xs =>
    obtain ⟨ts, rfl⟩ := texts_of_all h
    exact ⟨ts, rfl⟩

theorem textsOrNothing_of_fits {v : Option Json} (h : ∀ x ∈ v, textsOrNothing x = true) : TextsOrNothing v := by
  cases v with
  | none => exact .inl (by simp)
  | some v =>
    have hv := h v rfl
    rw [textsOrNothing, Bool.or_eq_true] at hv
    rcases hv with hv | hv
    · exact .inl (by simpa using hv)
    · cases v with
      | arr xs =>
        obtain ⟨ts, rfl⟩ := texts_of_all hv
        exact .inr ⟨ts, rfl⟩
      | _ => cases hv

theorem describesLanguage_of_fits (h : fieldsFit languageFits v) : DescribesLanguage v := by
  cases v with
  | obj fs =>
    have hget : ∀ name, (∀ x, languageFits name x = textsOrNothing x) → TextsOrNothing (Fields.get? fs name) :=
      fun name hname => textsOrNothing_of_fits fun x hx =>
        hname x ▸ List.all_eq_true.mp h _ (Fields.mem_of_get? hx)
    exact .inr ⟨fs, rfl, hget _ fun _ => rfl, hget _ fun _ => rfl⟩
  | _ => exact .inl (by simpa [fieldsFit] using h)

theorem scoringFits_defaults : ∀ f ∈ Defaults.scoring, scoringFits f.1 f.2 = true :=
  List.all_eq_true.mp (by decide +kernel)

theorem languageFits_defaults : ∀ f ∈ Defaults.languages, fieldsFit languageFits f.2 = true :=
  List.all_eq_true.mp (by decide +kernel)

theorem mergeClosed_reports {passes : Json → Bool} (h : ∀ fs, passes (.obj fs) = false) :
    MergeClosed (reports limits passes) := by
  intro b c hb hc
  have hshown : ∀ {fs}, reports limits passes (.obj fs) = true ↔ (Json.obj fs).shown limits = .ok () := by
    intro fs
    rw [reports, h, Bool.false_or]
    cases (Json.obj fs).shown limits <;> simp [Except.isOk, Except.toBool]
  rw [hshown, Json.shown] at hb hc ⊢
  exact Json.shownWithin_mergeValue (.obj c) (some (.obj b)) (by simpa using hb) hc

theorem mergeClosed_scoringReports (name : String) : MergeClosed (scoringReports limits name) := by
  unfold scoringReports
  intro b c
  split
  · exact mergeClosed_reports (fun _ => rfl) b c
  · split
    · exact mergeClosed_fieldsFit (fun _ => mergeClosed_reports fun _ => rfl) b c
    · exact fun _ _ => rfl

theorem scoringReports_defaults : ∀ f ∈ Defaults.scoring, scoringReports limits f.1 f.2 = true :=
  List.all_eq_true.mp rfl

theorem sound_default : Sound {} where
  toTyped := typed_default
  scoring := ⟨_, rfl, scoringFits_defaults⟩
  parsers := ⟨_, rfl, by decide, languageFits_defaults⟩
  parserMaxFileSize := rfl

theorem ready_default : Ready limits {} where
  toSound := sound_default
  score := rfl
  penalty := rfl
  tables := ⟨_, rfl, scoringReports_defaults⟩
  lifetime := rfl
  depth := rfl

variable {s : Settings} {doc fs : Fields Json}

theorem fields_of_fits (h : fieldsFit fits v) (htrue : v.isTruthy) :
    ∃ fs, v = .obj fs ∧ ∀ f ∈ fs, fits f.1 f.2 = true ∧ f.2.copySteps ≤ v.copySteps := by
  cases v with
  | obj fs =>
    refine ⟨fs, rfl, fun f hf => ⟨List.all_eq_true.mp h f hf, ?_⟩⟩
    rw [Json.copySteps]
    exact (Json.copyFieldSteps_le_iff.mp le_rfl f hf).trans (Nat.le_add_left _ 2)
  | _ => simp [fieldsFit, htrue] at h

theorem tableOr_fits (h : fieldsFit fits v) :
    ∃ fs, tableOr (some v) = .ok fs ∧ ∀ f ∈ fs, fits f.1 f.2 = true ∧ f.2.copySteps ≤ v.copySteps := by
  cases htrue : v.isTruthy with
  | true =>
    obtain ⟨fs, rfl, hfs⟩ := fields_of_fits h htrue
    exact ⟨fs, rfl, hfs⟩
  | false =>
    refine ⟨[], ?_, by simp⟩
    cases v with
    | obj fs =>
      have hfs : fs = [] := by simpa [Json.isTruthy] using htrue
      rw [hfs]
      rfl
    | _ => simp [tableOr, htrue]

theorem sectionsFit_get? (h : sectionsFit limits doc) {name : String} (hget : doc.get? name = some v) :
    sectionFits name v = true ∧ sectionReports limits name v = true ∧ v.copySteps ≤ limits.steps := by
  have hv := List.all_eq_true.mp h _ (Fields.mem_of_get? hget)
  rwa [Bool.and_eq_true, Bool.and_eq_true, decide_eq_true_eq, and_assoc] at hv

theorem sectionOr_fits (h : sectionsFit limits doc) (name : String)
    (hname : ∀ v, sectionFits name v = fieldsFit fits v) :
    ∃ fs, sectionOr doc name = .obj fs ∧ ∀ f ∈ fs, fits f.1 f.2 = true ∧ f.2.copySteps ≤ limits.steps := by
  unfold sectionOr
  split
  · next v hget =>
    obtain ⟨hv, -, hsteps⟩ := sectionsFit_get? h hget
    rw [hname] at hv
    split
    · next htrue =>
      obtain ⟨fs, hfs, hall⟩ := fields_of_fits hv htrue
      exact ⟨fs, hfs, fun f hf => ⟨(hall f hf).1, (hall f hf).2.trans hsteps⟩⟩
    · exact ⟨[], rfl, by simp⟩
  · exact ⟨[], rfl, by simp⟩

theorem sectionOr_reports (h : sectionsFit limits doc) (name : String)
    (hname : ∀ v, sectionReports limits name v = fieldsFit fits v) (hfs : sectionOr doc name = .obj fs) :
    ∀ f ∈ fs, fits f.1 f.2 = true := by
  unfold sectionOr at hfs
  split at hfs
  · next v hget =>
    have hv := (sectionsFit_get? h hget).2.1
    rw [hname] at hv
    split at hfs
    · cases hfs
      exact List.all_eq_true.mp hv
    · cases hfs
      simp
  · cases hfs
    simp

theorem sectionField?_obj (fs : Fields Json) (name : String) :
    sectionField? (.obj fs) name = .ok (Fields.get? fs name) := by
  rw [sectionField?, mentions, Fields.has]
  cases h : Fields.get? fs name with
  | none => rfl
  | some v => rfl

theorem copySteps_scoring : (Json.obj Defaults.scoring).copySteps = 7 := by decide

theorem copySteps_languages : (Json.obj Defaults.languages).copySteps = 7 := by decide

theorem readScoring_returns (hroom : 7 ≤ limits.steps) (hs : s.Ready limits)
    (h : ∀ f ∈ fs, scoringFits f.1 f.2 = true ∧ f.2.copySteps ≤ limits.steps)
    (hreports : ∀ f ∈ fs, scoringReports limits f.1 f.2 = true) :
    Returns (Ready limits) (readScoring limits.steps s (.obj fs)) := by
  cases fs with
  | nil => exact ⟨s, rfl, hs⟩
  | cons f r =>
    have htables : ∀ g ∈ (f :: r).filter (fun p => !scalarNames.contains p.1), g ∈ f :: r :=
      fun g hg => List.mem_of_mem_filter hg
    have hmerged := Json.mem_mergeFields mergeClosed_scoringFits scoringFits_defaults
      fun g hg => (h g (htables g hg)).1
    have hreported := Json.mem_mergeFields mergeClosed_scoringReports scoringReports_defaults
      fun g hg => hreports g (htables g hg)
    have hscalar : ∀ (name : String) (old : Json),
        (∀ v, scoringReports limits name v = reports limits isNumber v) →
        reports limits isNumber old = true →
          reports limits isNumber ((Fields.get? (f :: r) name).getD old) = true := by
      intro name old hname hold
      cases hget : Fields.get? (f :: r) name with
      | none => exact hold
      | some v => exact (hname v).symm.trans (hreports _ (Fields.mem_of_get? hget))
    unfold readScoring
    dsimp only
    rw [bind_ok (Json.mergeTables_ok (copySteps_scoring.trans_le hroom) fun g hg => (h g (htables g hg)).2)]
    exact ⟨_, rfl, { hs with
      scoring := ⟨_, rfl, hmerged⟩
      score := hscalar "minCandidateScore" _ (fun _ => rfl) hs.score
      penalty := hscalar "looseNamePenalty" _ (fun _ => rfl) hs.penalty
      tables := ⟨_, rfl, hreported⟩ }⟩

theorem readSecurity_returns (hs : s.Ready limits) (h : ∀ f ∈ fs, securityFits f.1 f.2 = true) :
    Returns (Ready limits) (readSecurity s (.obj fs)) := by
  rw [readSecurity, bind_ok (sectionField?_obj fs _)]
  extract_lets rest
  have hrest : ∀ ts : List String, Returns (Ready limits) (rest (.ofTexts ts)) := by
    intro ts
    have hrequires : mentions (.obj fs) "allowUnsafeRequires" = .ok (Fields.has fs "allowUnsafeRequires") := rfl
    simp only [rest]
    rw [bind_ok hrequires]
    split
    · exact ⟨_, rfl, { hs with blockedTokens := ⟨ts, rfl⟩ }⟩
    · have hunsafe : mentions (.obj fs) "allowUnsafe" = .ok (Fields.has fs "allowUnsafe") := rfl
      rw [bind_ok hunsafe]
      split <;> exact ⟨_, rfl, { hs with blockedTokens := ⟨ts, rfl⟩ }⟩
  cases hget : Fields.get? fs "blockedTokens" with
  | none =>
    obtain ⟨ts, hts⟩ := hs.blockedTokens
    dsimp only
    rw [hts]
    exact hrest ts
  | some t =>
    have ht : textItems (Json.iterateOr (some t)) = true := h _ (Fields.mem_of_get? hget)
    obtain ⟨ts, hts⟩ := texts_of_textItems ht
    dsimp only
    rw [bind_ok hts]
    exact hrest ts

theorem readLanguages_returns (hroom : 7 ≤ limits.steps) (hs : s.Ready limits) (h : sectionsFit limits doc) :
    Returns (Ready limits) (readLanguages limits.steps s doc) := by
  unfold readLanguages
  split
  · exact ⟨s, rfl, hs⟩
  · next v hget =>
    obtain ⟨hv, -, hsteps⟩ := sectionsFit_get? h hget
    have hfits : fieldsFit (fun _ => fieldsFit languageFits) v = true := hv
    obtain ⟨fs, hfs, hall⟩ := tableOr_fits hfits
    have hmerged := Json.mem_mergeFields (fun _ => mergeClosed_fieldsFit mergeClosed_languageFits)
      languageFits_defaults fun f hf => (hall f hf).1
    rw [bind_ok hfs, bind_ok (Json.mergeTables_ok (copySteps_languages.trans_le hroom)
      fun f hf => (hall f hf).2.trans hsteps)]
    exact ⟨_, rfl, { hs with
      languages := ⟨_, rfl, fun f hf => describesLanguage_of_fits (hmerged f hf)⟩
      parsers := ⟨_, rfl, Json.nodup_mergeFields (by decide), hmerged⟩ }⟩

theorem readParser_returns (hs : s.Ready limits) (h : ∀ f ∈ fs, parserFits f.1 f.2 = true) :
    Returns (Ready limits) (readParser s (.obj fs)) := by
  rw [readParser, bind_ok (sectionField?_obj fs _)]
  refine ⟨_, rfl, { hs with parserMaxFileSize := ?_ }⟩
  cases hget : Fields.get? fs "maxFileSize" with
  | none => exact hs.parserMaxFileSize
  | some v => exact h _ (Fields.mem_of_get? hget)

theorem readCache_returns (hs : s.Ready limits) (h : ∀ f ∈ fs, cacheReports limits f.1 f.2 = true) :
    Returns (Ready limits) (readCache s (.obj fs)) := by
  rw [readCache, bind_ok (sectionField?_obj fs _), bind_ok (sectionField?_obj fs _),
    bind_ok (sectionField?_obj fs _)]
  refine ⟨_, rfl, { hs with lifetime := ?_ }⟩
  cases hget : Fields.get? fs "ttl" with
  | none => exact hs.lifetime
  | some v => exact h _ (Fields.mem_of_get? hget)

theorem addMembers_texts (out : List Json) (ts : List String) :
    ∃ xs, addMembers out (ts.map .str) = .ok xs := by
  induction ts generalizing out with
  | nil => exact ⟨out, rfl⟩
  | cons t ts ih => exact ih _

theorem depth_of_isDepth (h : isDepth v) : ∃ d, v.numeric? = some (.int d) := by
  cases v with
  | num n =>
    cases n with
    | int d => exact ⟨d, rfl⟩
    | float x => cases h
  | bool b => exact ⟨_, rfl⟩
  | _ => cases h

/-- The weights stay, faults can be reported, and if the depth passes its check all readers can use what comes
out. -/
theorem readTraversal_returns (hs : s.Ready limits) (h : sectionsFit limits doc) :
    Returns (fun t => t.scoring = s.scoring ∧ Reportable limits t ∧ (isDepth t.maxDepth = true → t.Sound))
      (readTraversal s doc) := by
  have htexts : ∀ name v, doc.get? name = some v → (∀ x, sectionFits name x = textItems x.iterate) →
      ∃ ts : List String, v.iterate = .ok (ts.map .str) := by
    intro name v hget hname
    have hv := (sectionsFit_get? h hget).1
    rw [hname] at hv
    exact texts_of_textItems hv
  have hdepth : reports limits isDepth ((doc.get? "maxDepth").getD s.maxDepth) = true := by
    cases hget : doc.get? "maxDepth" with
    | none => exact hs.depth
    | some v => exact (sectionsFit_get? h hget).2.1
  unfold readTraversal
  extract_lets rest
  have hrest : ∀ es : List String, Returns
      (fun t => t.scoring = s.scoring ∧ Reportable limits t ∧ (isDepth t.maxDepth = true → t.Sound))
      (rest (.ofTexts es)) := by
    intro es
    have hlast : ∀ xs, Returns
        (fun t => t.scoring = s.scoring ∧ Reportable limits t ∧ (isDepth t.maxDepth = true → t.Sound))
        (.ok { s with
          extensions := .ofTexts es
          skipDirectories := .arr xs
          maxDepth := (doc.get? "maxDepth").getD s.maxDepth
          concurrency := (doc.get? "concurrency").getD s.concurrency }) :=
      fun xs => ⟨_, rfl, rfl, { hs.toReportable with depth := hdepth }, fun hdepth => { hs.toSound with
        extensions := ⟨es, rfl⟩, skipDirectories := ⟨xs, rfl⟩, maxDepth := depth_of_isDepth hdepth }⟩
    simp only [rest]
    cases hget : doc.get? "skipDirectories" with
    | none =>
      obtain ⟨xs, hxs⟩ := hs.skipDirectories
      dsimp only
      rw [hxs]
      exact hlast xs
    | some v =>
      obtain ⟨ts, hts⟩ := htexts _ v hget fun _ => rfl
      obtain ⟨xs, hxs⟩ := addMembers_texts [] ts
      dsimp only
      rw [setOf, bind_ok hts, bind_ok hxs]
      exact hlast xs
  cases hget : doc.get? "extensions" with
  | none =>
    obtain ⟨ts, hts⟩ := hs.extensions
    dsimp only
    rw [hts]
    exact hrest ts
  | some v =>
    obtain ⟨ts, hts⟩ := htexts _ v hget fun _ => rfl
    dsimp only
    rw [listOf, bind_ok hts]
    exact hrest ts

theorem ofSection_returns (hroom : 7 ≤ limits.steps) (h : sectionsFit limits doc) :
    Returns (fun t => (∃ fs, t.scoring = .obj fs ∧ ∀ f ∈ fs, scoringFits f.1 f.2 = true) ∧
      Reportable limits t ∧
      (isDepth t.maxDepth = true → t.Sound)) (ofSection limits.steps doc) := by
  obtain ⟨scoring, hscoring, hs⟩ := sectionOr_fits h "scoring" fun _ => rfl
  obtain ⟨security, hsecurity, hsec⟩ := sectionOr_fits h "security" fun _ => rfl
  obtain ⟨parser, hparser, hp⟩ := sectionOr_fits h "parser" fun _ => rfl
  obtain ⟨cache, hcache, -⟩ := sectionOr_fits h "cache" fun _ => rfl
  have hsr := sectionOr_reports h "scoring" (fun _ => rfl) hscoring
  have hcr := sectionOr_reports h "cache" (fun _ => rfl) hcache
  rw [ofSection, hscoring, hsecurity, hparser, hcache]
  refine (readScoring_returns hroom ready_default hs hsr).bind fun _ h₁ => ?_
  refine (readSecurity_returns h₁ fun f hf => (hsec f hf).1).bind fun _ h₂ => ?_
  refine (readLanguages_returns hroom h₂ h).bind fun _ h₃ => ?_
  refine (readParser_returns h₃ fun f hf => (hp f hf).1).bind fun _ h₄ => ?_
  refine (readCache_returns h₄ hcr).bind fun _ h₅ => ?_
  refine (readTraversal_returns h₅ h).mono fun t ht => ⟨?_, ht.2⟩
  rw [ht.1]
  exact h₅.scoring

/-! ## Checks -/

open Fault (Judged)

/-- What fails a check is refused if it can be reported. -/
theorem refused_of_reports {passes : Json → Bool} (h : reports limits passes v) (hv : passes v = false)
    (e : SettingsError) : Fault.showing limits v e = .refused e := by
  rw [reports, hv, Bool.false_or] at h
  exact Fault.showing_of_shown h e

theorem judged_checkNumber {field : String} (h : reports limits isNumber v) : Judged (checkNumber limits field v) := by
  unfold checkNumber
  split
  · exact .inl ⟨(), rfl⟩
  · next hnone =>
    exact .inr ⟨_, congrArg _ (refused_of_reports h (by rw [isNumber, hnone]; rfl) _)⟩

theorem judged_checkWeights {report : String → Json → Fault SettingsError}
    (h : ∀ f ∈ fs, isNumber f.2 = false → ∃ e, report f.1 f.2 = .refused e) :
    Judged (checkWeights report fs) := by
  induction fs with
  | nil => exact .inl ⟨(), rfl⟩
  | cons f r ih =>
    obtain ⟨hf, hr⟩ := List.forall_mem_cons.mp h
    unfold checkWeights
    split
    · exact ih hr
    · next hnone =>
      obtain ⟨e, he⟩ := hf (by rw [isNumber, hnone]; rfl)
      exact .inr ⟨e, congrArg _ he⟩

theorem tableOr_returns {v : Option Json} (h : ∀ x ∈ v, fieldsFit fits x = true) :
    ∃ ws, tableOr v = .ok ws ∧ ∀ f ∈ ws, fits f.1 f.2 = true := by
  cases v with
  | none => exact ⟨[], rfl, by simp⟩
  | some v =>
    obtain ⟨ws, hws, hall⟩ := tableOr_fits (h v rfl)
    exact ⟨ws, hws, fun f hf => (hall f hf).1⟩

theorem judged_checkTable {name : String}
    (h : ∀ v ∈ fs.get? name, fieldsFit (fun _ => reports limits isNumber) v = true) :
    Judged (checkTable limits fs name) := by
  obtain ⟨ws, hws, hall⟩ := tableOr_returns h
  rw [checkTable, hws]
  exact judged_checkWeights fun f hf hnumber => ⟨_, refused_of_reports (hall f hf) hnumber _⟩

theorem judged_checkPaths {polarity : String} (h : ∀ v ∈ fs.get? "paths", pathsFit v = true) :
    Judged (checkPaths fs polarity) := by
  have hlast : ∀ paths : Fields Json, (∀ f ∈ paths, fieldsFit (fun _ => weightFits) f.2 = true) →
      Judged (do
        let ws ← Fault.lift (tableOr (paths.get? polarity))
        checkWeights (fun k _ => .refused (.pathWeightNotANumber polarity k)) ws) := by
    intro paths hpaths
    obtain ⟨ws, hws, -⟩ := tableOr_returns (v := paths.get? polarity) fun v hv => hpaths _ (Fields.mem_of_get? hv)
    rw [hws]
    exact judged_checkWeights fun f _ _ => ⟨_, rfl⟩
  unfold checkPaths
  cases hget : fs.get? "paths" with
  | none => exact hlast [] (by simp)
  | some v =>
    have hv := h v hget
    rw [pathsFit, Bool.and_eq_true] at hv
    cases v with
    | obj paths => exact hlast paths (List.all_eq_true.mp hv.2)
    | _ => cases hv.1

/-- With weights of the right kinds, and faults that can be reported, the checks pass or the settings are refused. -/
theorem judged_validate (h : ∃ fs, s.scoring = .obj fs ∧ ∀ f ∈ fs, scoringFits f.1 f.2 = true)
    (hs : Reportable limits s) : Judged (s.validate limits) := by
  obtain ⟨fs, hfs, hfit⟩ := h
  obtain ⟨gs, hgs, hreports⟩ := hs.tables
  cases hfs.symm.trans hgs
  have htable : ∀ name, (∀ v, scoringReports limits name v = fieldsFit (fun _ => reports limits isNumber) v) →
      Judged (checkTable limits fs name) := fun name hname =>
    judged_checkTable fun v hv => hname v ▸ hreports _ (Fields.mem_of_get? hv)
  have hpaths : ∀ polarity, Judged (checkPaths fs polarity) := fun polarity =>
    judged_checkPaths fun v hv => hfit _ (Fields.mem_of_get? hv)
  unfold validate
  refine (judged_checkNumber hs.score).bind fun _ _ => (judged_checkNumber hs.penalty).bind fun _ _ => ?_
  rw [hfs]
  refine (htable _ fun _ => rfl).bind fun _ _ => (htable _ fun _ => rfl).bind fun _ _ => ?_
  refine (htable _ fun _ => rfl).bind fun _ _ => (htable _ fun _ => rfl).bind fun _ _ => ?_
  refine (htable _ fun _ => rfl).bind fun _ _ => (hpaths _).bind fun _ _ => (hpaths _).bind fun _ _ => ?_
  split
  · next hnone =>
    exact .inr ⟨_, congrArg _ (refused_of_reports hs.lifetime (by simpa using hnone) _)⟩
  · split
    · next hdepth =>
      exact .inr ⟨_, congrArg _ (refused_of_reports hs.depth (by simpa using hdepth) _)⟩
    · split
      · exact .inr ⟨_, rfl⟩
      · exact .inl ⟨(), rfl⟩

theorem isDepth_of_validate (h : s.validate limits = .ok ()) : isDepth s.maxDepth = true := by
  unfold validate at h
  obtain ⟨_, -, h⟩ := bind_eq_ok.mp h
  obtain ⟨_, -, h⟩ := bind_eq_ok.mp h
  cases hscoring : s.scoring with
  | obj fs =>
    rw [hscoring] at h
    iterate 7 obtain ⟨_, -, h⟩ := bind_eq_ok.mp h
    split at h
    · cases h
    · split at h
      · cases h
      · next hdepth => simpa using hdepth
  | _ =>
    rw [hscoring] at h
    cases h

/-- A document whose sections fit is refused, or it gives settings that answer whatever they are asked.  The
defaults need seven steps to be copied. -/
theorem ofJson_serves {d : Json} {limits : Json.Limits} (hroom : 7 ≤ limits.steps) (h : shaped limits d = true) :
    (∃ e, ofJson d limits = .error (.refused e)) ∨ ∃ s, ofJson d limits = .ok s ∧ s.Serves := by
  cases d with
  | null => exact .inr ⟨{}, rfl, sound_default.serves⟩
  | obj doc =>
    rw [shaped] at h
    simp only [ofJson]
    cases hsec : (Fields.get? doc "discovery").getD (.obj doc) with
    | obj sec =>
      rw [hsec] at h
      have hfit : sectionsFit limits sec = true := h
      obtain ⟨s, hs, hscoring, hreports, hsound⟩ := ofSection_returns hroom hfit
      dsimp only
      rw [hs]
      rcases judged_validate hscoring hreports with ⟨u, hu⟩ | ⟨e, he⟩
      · refine .inr ⟨s, ?_, (hsound (isDepth_of_validate hu)).serves⟩
        rw [Fault.lift, bind_ok rfl, bind_ok hu]
      · refine .inl ⟨e, ?_⟩
        rw [Fault.lift, bind_ok rfl, he]
        rfl
    | _ => exact .inl ⟨_, rfl⟩
  | _ => exact .inl ⟨_, rfl⟩

/-- A document with weights, a language and limits of its own. -/
def ownDocument : Json := .obj [("discovery", .obj [
  ("scoring", .obj [("paths", .obj [("positive", Defaults.table [("/api/", 20)])]),
    ("methods", Defaults.table [("maxMentions", 3)]), ("minCandidateScore", .ofInt 10)]),
  ("security", .obj [("blockedTokens", .ofTexts ["eval("])]),
  ("languages", .obj [("ruby", .obj [("extensions", .ofTexts [".rb"]),
    ("parser", Defaults.table [("maxFileSize", 4096)])])]),
  ("extensions", .ofTexts [".py", ".rb"]), ("maxDepth", .ofInt 4)])]

theorem ofJson_serves_own : ∃ s, ofJson ownDocument = .ok s ∧ s.Serves := by
  have hshaped : shaped .usual ownDocument = true := by decide +kernel
  rcases ofJson_serves (by decide) hshaped with ⟨e, he⟩ | hs
  · have hok : (ofJson ownDocument).isOk = true := by decide +kernel
    rw [he] at hok
    cases hok
  · exact hs

/-- A document with a list for the weights. -/
def listedWeights : Json := .obj [("scoring", .arr [.ofInt 1])]

/-- A document with a number for the extensions of a language. -/
def numberedExtensions : Json := .obj [("languages", .obj [("python", .obj [("extensions", .ofInt 5)])])]

/-- Other documents run into a misfit when they are read, or later when a language is looked up. -/
theorem ofJson_of_misfits : ofJson listedWeights = .error (.misfit .notATable) ∧
    ∃ s, ofJson numberedExtensions = .ok s ∧ s.languageFor ".py" = .error .wrongKind :=
  ⟨rfl, _, rfl, eq_error_of_failure? (by decide +kernel)⟩

end Settings

end ShapeSearch
