import ShapeSearch.Candidate.Standing
import ShapeSearch.Feedback
import ShapeSearch.Proofs.Settings
import ShapeSearch.Proofs.Suggestion

/-!
# Settings that all readers can use

Scores, bonuses, limits and lookups read the settings as they were given.  `Sound` says of what kind and size
they have to be for all of that to come to an end with a result, whatever is asked (`Sound.serves`):

    s.Sound → s.Serves

Weights may be of any size that floats can be counted with: below `slight`, so that a weight can be taken a
slight number of times.  One thing can still go wrong (`Breaks`): a match of the name asked for is broken.
-/

namespace ShapeSearch

/-! ## Numbers that can be counted with -/

namespace Number

/-- A slight size: the product of two numbers below it is moderate. -/
def slight : ℕ := 2 ^ 500

theorem slight_mul_slight : slight * slight = moderate := by
  decide +kernel

theorem slight_le : slight ≤ moderate := by
  decide +kernel

theorem slight_le_limit : slight ≤ floatLimit :=
  slight_le.trans (by have := moderate_le; omega)

/-- A finite number of a slight size. -/
def isSlight (n : Number) : Bool :=
  n.truncate?.any fun k => k.natAbs < slight

theorem isBelow_of_isSlight {n : Number} (h : n.isSlight) : n.isBelow slight = true := by
  cases n with
  | float x => rfl
  | int n => simpa [isSlight, truncate?, exact, isBelow] using h

variable {a b : Number} {j k : ℕ}

theorem sub_below (ha : a.isBelow k) (hb : b.isBelow k) (hk : k ≤ floatLimit) :
    Returns (fun c => c.isBelow (2 * k) = true) (a.sub b) := by
  unfold sub
  split
  · rw [isBelow_int] at ha hb
    exact ⟨_, rfl, isBelow_int.mpr (by omega)⟩
  · exact onFloats_returns Float.sub ha hb hk

/-- A float stays one: no whole number is below zero in size. -/
theorem add_float (ha : a.isBelow 0) (hb : b.isBelow k) (hk : k ≤ floatLimit) :
    Returns (fun c => c.isBelow 0 = true) (a.add b) := by
  have hfloats : a.add b = onFloats Float.add a b := by
    cases a with
    | int n => simp [isBelow] at ha
    | float x => cases b <;> rfl
  rw [hfloats]
  exact onFloats_returns Float.add (isBelow_mono ha (Nat.zero_le k)) hb hk

theorem quotient_returns (ha : a.isBelow k) (hk : k ≤ floatLimit) {d : ℕ} (hd : 0 < d) :
    Returns (fun _ => True) (a.quotient d) := by
  cases a with
  | float x => exact ⟨_, rfl, trivial⟩
  | int n =>
    have hlimit : n.natAbs < floatLimit * d :=
      lt_of_lt_of_le (isBelow_int.mp ha) (hk.trans (Nat.le_mul_of_pos_right _ hd))
    rw [quotient, if_pos hlimit]
    exact ⟨_, rfl, trivial⟩

theorem sumFrom_returns {xs : List Number} (hxs : ∀ x ∈ xs, x.isBelow k = true) (ha : a.isBelow j)
    (h : j + xs.length * k ≤ floatLimit) : Returns (fun _ => True) (sumFrom a xs) := by
  induction xs generalizing a j with
  | nil => exact ⟨a, rfl, trivial⟩
  | cons x r ih =>
    rw [List.length_cons, Nat.add_mul, Nat.one_mul] at h
    exact (add_returns ha (hxs x List.mem_cons_self) (by omega)).bind fun c hc =>
      ih (fun y hy => hxs y (List.mem_cons_of_mem x hy)) hc (by omega)

end Number

open Number (slight moderate)

/-! ## What the settings have to be -/

namespace Settings

/-- A weight that can be counted with; anything but a number counts as nothing. -/
def weightFits (v : Json) : Bool :=
  v.number?.all (Number.isBelow slight)

/-- A number that can be counted with, a limit among others. -/
def countFits (v : Json) : Bool :=
  v.numeric?.any Number.isSlight

/-- A table whose fields fit, or nothing. -/
def fieldsFit (fits : String → Json → Bool) : Json → Bool
  | .obj fs => fs.all fun f => fits f.1 f.2
  | v => !v.isTruthy

/-- The tables for the two polarities of paths. -/
def pathsFit (v : Json) : Bool :=
  v.fields?.isSome && fieldsFit (fun _ => fieldsFit fun _ => weightFits) v

/-- The weight tables that are checked when settings are read. -/
def checkedTables : List String := ["fileName", "extensions", "typeHints", "exports", "target"]

/-- The weight tables that are not. -/
def uncheckedTables : List String := ["methods", "names", "recency", "feedback"]

/-- What the weight section may hold under a name. -/
def scoringFits (name : String) (v : Json) : Bool :=
  if name = "paths" then pathsFit v
  else if name = "custom" then (Json.iterateOr (some v)).isOk
  else if checkedTables.contains name then fieldsFit (fun _ => weightFits) v
  else if uncheckedTables.contains name then fieldsFit (fun _ => countFits) v
  else true

/-- A list of texts, or a value that counts as none. -/
def textsOrNothing (v : Json) : Bool :=
  !v.isTruthy || v.items?.any fun xs => xs.all fun x => x.text?.isSome

/-- A limit for sizes: no infinite number. -/
def sizeFits (v : Json) : Bool :=
  v.number?.all fun n => !(Number.int 0).lt n || n.truncate?.isSome

/-- What the parser section of a language may hold under a name. -/
def parserFits (name : String) (v : Json) : Bool :=
  name != "maxFileSize" || sizeFits v

/-- What the description of a language may hold under a name. -/
def languageFits (name : String) (v : Json) : Bool :=
  if name = "extensions" || name = "skipPatterns" then textsOrNothing v
  else if name = "parser" then fieldsFit parserFits v
  else true

/-- Settings that all readers can use. -/
structure Sound (s : Settings) : Prop extends s.Typed where
  scoring : ∃ fs, s.scoring = .obj fs ∧ ∀ f ∈ fs, scoringFits f.1 f.2 = true
  parsers : ∃ fs, s.languages = .obj fs ∧ (Fields.keys fs).Nodup ∧
    ∀ f ∈ fs, fieldsFit languageFits f.2 = true
  parserMaxFileSize : sizeFits s.parserMaxFileSize = true

variable {s : Settings}

theorem Sound.weights (h : s.Sound) (name : String) {fits : Json → Bool}
    (hname : ∀ ws, scoringFits name (.obj ws) = ws.all fun w => fits w.2) :
    ∃ ws, s.weights name = .ok ws ∧ ∀ w ∈ ws, fits w.2 = true := by
  obtain ⟨fs, hfs, hall⟩ := h.scoring
  rw [Settings.weights, hfs]
  simp only
  split
  · next ws hget =>
    have htable := hall _ (Fields.mem_of_get? hget)
    rw [hname] at htable
    exact ⟨ws, rfl, fun w hw => List.all_eq_true.mp htable w hw⟩
  · exact ⟨[], rfl, by simp⟩

theorem weightFits_of_countFits {v : Json} (h : countFits v) : weightFits v = true := by
  cases v with
  | num n => exact Number.isBelow_of_isSlight h
  | _ => rfl

end Settings

open Settings (weightFits countFits)

/-! ## Counting points -/

/-- A computation that gives a result with a property, or else a match is broken and `B` holds. -/
def Yields {α : Type} (B : Prop) (P : α → Prop) (x : Except Misfit α) : Prop :=
  Returns P x ∨ x = .error .brokenGroup ∧ B

section Yields

variable {α β : Type} {B : Prop} {P : α → Prop} {Q : β → Prop}

variable {x : Except Misfit α}

theorem Returns.yields (h : Returns P x) : Yields B P x :=
  .inl h

theorem Yields.bind {f : α → Except Misfit β} (hx : Yields B P x) (hf : ∀ a, P a → Yields B Q (f a)) :
    Yields B Q (x >>= f) := by
  rcases hx with ⟨a, rfl, ha⟩ | ⟨rfl, hB⟩
  · exact hf a ha
  · exact .inr ⟨rfl, hB⟩

theorem Yields.because (hx : Yields True P x) (hB : x = .error .brokenGroup → B) : Yields B P x :=
  hx.imp_right fun hbroken => ⟨hbroken.1, hB hbroken.1⟩

end Yields

namespace Pattern.Compiled

variable {B : Prop} (p : Compiled)

theorem matchesIn_yields {s : String} (h : p.matchesIn s = .error .brokenGroup → B) :
    Yields B (fun _ => True) (p.matchesIn s) := by
  refine Yields.because ?_ h
  rw [matchesIn]
  split
  · split
    · exact .inr ⟨rfl, trivial⟩
    · exact .inl ⟨true, rfl, trivial⟩
  · exact .inl ⟨false, rfl, trivial⟩

theorem countFrom_yields (fuel : ℕ) (advance : Bool) (c : Cursor) (n : ℕ) :
    Yields True (fun _ => True) (p.countFrom fuel advance c n) := by
  induction fuel generalizing advance c n with
  | zero => exact .inl ⟨n, rfl, trivial⟩
  | succ fuel ih =>
    rw [countFrom]
    split
    · exact .inl ⟨n, rfl, trivial⟩
    · split
      · exact .inr ⟨rfl, trivial⟩
      · exact ih _ _ _

theorem countUpTo_yields {n : ℕ} {s : List Char} (h : p.countUpTo n s = .error .brokenGroup → B) :
    Yields B (fun _ => True) (p.countUpTo n s) :=
  Yields.because ((p.countFrom_yields _ _ _ _).bind fun _ _ => .inl ⟨_, rfl, trivial⟩) h

end Pattern.Compiled

namespace Weights

theorem get?_fits {ws : Fields Json} {fits : Json → Bool} (h : ∀ w ∈ ws, fits w.2 = true) (name : String) :
    ∀ v ∈ ws.get? name, fits v = true :=
  fun _ hv => h _ (Fields.mem_of_get? hv)

theorem limit_returns {v : Option Json} (h : ∀ x ∈ v, countFits x = true) {k : ℤ} (hk : k.natAbs < slight) :
    Returns (fun n => n.natAbs < slight) (limit v k) := by
  have hslight : (orElse v (.int k)).isSlight = true := by
    have hother : (Number.int k).isSlight = true := by
      simpa [Number.isSlight, Number.truncate?, Number.exact] using hk
    rw [orElse]
    cases v with
    | none => exact hother
    | some v =>
      have hfits := h v rfl
      cases v with
      | num n => exact hfits
      | _ => exact hother
  rw [limit, Json.wholePart]
  rw [Number.isSlight] at hslight
  cases hn : (orElse v (.int k)).truncate? with
  | none => simp [hn] at hslight
  | some n => exact ⟨n, rfl, by simpa [hn] using hslight⟩

end Weights

namespace Scoring

open Weights (isBelow_orZero get?_fits limit_returns)

variable {s : Settings} {c : Candidate} {sig : Signature} {content : String}

/-- A match of the name asked for is broken: in the name of the file or in its text. -/
def Breaks (c : Candidate) (sig : Signature) (content : String) : Prop :=
  ∃ p, nameMentions sig = some p ∧ (p.matchesIn (Path.stem c.fileName) = .error .brokenGroup ∨
    p.matchesIn c.fileName = .error .brokenGroup ∨ ∃ n, p.countUpTo n content.toList = .error .brokenGroup)

theorem weight_moderate {ws : Fields Json} (h : ∀ w ∈ ws, weightFits w.2 = true) (name : String) :
    (Weights.orZero (ws.get? name)).isBelow moderate = true :=
  Number.isBelow_mono (isBelow_orZero (get?_fits h name)) Number.slight_le

theorem addParts_returns {hay : List Char} {ws : List (String × Json)} (h : ∀ w ∈ ws, weightFits w.2 = true)
    {t : Number} (ht : t.isBelow 0) : Returns (fun n => n.isBelow 0 = true) (addParts hay t ws) := by
  induction ws generalizing t with
  | nil => exact ⟨t, rfl, ht⟩
  | cons w r ih =>
    have hr := fun v hv => h v (List.mem_cons_of_mem w hv)
    have hw : (Weights.orZero (some w.2)).isBelow slight = true :=
      isBelow_orZero fun _ hx => by
        cases hx
        exact h w List.mem_cons_self
    rw [addParts]
    split
    · exact (Number.add_float ht hw Number.slight_le_limit).bind fun _ hu => ih hr hu
    · exact ih hr ht

theorem polarity_returns {paths : Fields Json}
    (h : ∀ g ∈ paths, Settings.fieldsFit (fun _ => weightFits) g.2 = true) (name : String) :
    Returns (fun ws => ∀ w ∈ ws, weightFits w.2 = true) (polarity paths name) := by
  unfold polarity
  split
  · next ws hget => exact ⟨ws, rfl, List.all_eq_true.mp (h _ (Fields.mem_of_get? hget))⟩
  · next v hne hget =>
    have hv := h _ (Fields.mem_of_get? hget)
    cases v with
    | obj ws => exact absurd rfl (hne ws)
    | _ =>
      rw [if_neg (by simpa [Settings.fieldsFit] using hv)]
      exact ⟨[], rfl, by simp⟩
  · exact ⟨[], rfl, by simp⟩

theorem pathPoints_returns (hs : s.Sound) : Returns (fun n => n.isBelow moderate = true) (pathPoints s c) := by
  obtain ⟨paths, hpaths, hfit⟩ := hs.weights "paths" fun _ => rfl
  rw [pathPoints, bind_ok hpaths]
  refine (polarity_returns hfit _).bind fun positive hpositive => ?_
  refine (addParts_returns hpositive rfl).bind fun total htotal => ?_
  refine (polarity_returns hfit _).bind fun negative hnegative => ?_
  exact (addParts_returns hnegative htotal).mono fun _ hn => Number.isBelow_mono hn (Nat.zero_le _)

theorem extensionPoints_returns (hs : s.Sound) :
    Returns (fun n => n.isBelow moderate = true) (extensionPoints s c) := by
  obtain ⟨ws, hws, hfit⟩ := hs.weights "extensions" fun _ => rfl
  rw [extensionPoints, bind_ok hws]
  exact ⟨_, rfl, weight_moderate hfit _⟩

theorem fileNamePoints_yields (hs : s.Sound) :
    Yields (Breaks c sig content) (fun n => n.isBelow moderate = true) (fileNamePoints s c sig) := by
  obtain ⟨ws, hws, hfit⟩ := hs.weights "fileName" fun _ => rfl
  rw [fileNamePoints, bind_ok hws]
  cases hp : sig.pattern? with
  | some p =>
    have hmentions : nameMentions sig = some p := by rw [nameMentions, hp]
    refine (p.matchesIn_yields fun h => ⟨p, hmentions, .inl h⟩).bind fun fits _ => ?_
    have hlast : ∀ fits : Bool, Yields (Breaks c sig content) (fun n => n.isBelow moderate = true)
        (.ok (if fits then Weights.orZero (ws.get? "regexMatch") else .float 0.0)) := by
      intro fits
      cases fits with
      | true => exact .inl ⟨_, rfl, weight_moderate hfit _⟩
      | false => exact .inl ⟨_, rfl, rfl⟩
    cases fits with
    | true => exact hlast true
    | false => exact (p.matchesIn_yields fun h => ⟨p, hmentions, .inr (.inl h)⟩).bind fun fits _ => hlast fits
  | none =>
    dsimp only
    split
    · exact .inl ⟨_, rfl, weight_moderate hfit _⟩
    · exact .inl ⟨_, rfl, rfl⟩

theorem typeHintPoints_returns (hs : s.Sound) :
    Returns (fun n => n.isBelow moderate = true) (typeHintPoints s sig content) := by
  obtain ⟨ws, hws, hfit⟩ := hs.weights "typeHints" fun _ => rfl
  unfold typeHintPoints
  split
  · exact ⟨_, rfl, rfl⟩
  · split
    · rw [bind_ok hws]
      exact ⟨_, rfl, weight_moderate hfit _⟩
    · exact ⟨_, rfl, rfl⟩

/-- A slight weight can be taken a slight number of times. -/
theorem mul_slight {a : Number} {n : ℤ} (ha : a.isBelow slight) (hn : n.natAbs < slight) :
    Returns (fun n => n.isBelow moderate = true) (a.mul (.int n)) := by
  rw [← Number.slight_mul_slight]
  exact Number.mul_below ha (Number.isBelow_int.mpr hn) Number.slight_le_limit Number.slight_le_limit

theorem methodPoints_returns (hs : s.Sound) (hm : sig.methods.length < slight) :
    Returns (fun n => n.isBelow moderate = true) (methodPoints s sig content) := by
  obtain ⟨ws, hws, hfit⟩ := hs.weights "methods" fun _ => rfl
  unfold methodPoints
  split
  · exact ⟨_, rfl, rfl⟩
  · rw [bind_ok hws]
    refine (limit_returns (get?_fits hfit _) (by simpa using hm)).bind fun cap hcap => ?_
    have hmentioned := List.length_filter_le (fun m => (mention m).occursIn content) sig.methods
    exact mul_slight (isBelow_orZero fun v hv => Settings.weightFits_of_countFits (get?_fits hfit _ v hv))
      (by omega)

theorem exportPoints_returns (hs : s.Sound) :
    Returns (fun n => n.isBelow moderate = true) (exportPoints s sig content) := by
  obtain ⟨ws, hws, hfit⟩ := hs.weights "exports" fun _ => rfl
  have hmax : ∀ (a b : Number), a.isBelow moderate = true → b.isBelow moderate = true →
      (a.maxFirst b).isBelow moderate = true := by
    intro a b ha hb
    rw [Number.maxFirst]
    split <;> assumption
  have hnamed : ∀ b : Bool, (if b then (Number.float 0.0).maxFirst (Weights.orZero (ws.get? "namedExport"))
      else .float 0.0).isBelow moderate = true := by
    intro b
    cases b with
    | true => exact hmax _ _ rfl (weight_moderate hfit _)
    | false => rfl
  rw [exportPoints, bind_ok hws]
  -- what the text holds does not matter: of the weights that count, the best is one of them
  generalize defaultExport.occursIn content = isDefault
  generalize anyExport.occursIn content = isAny
  extract_lets first named best
  have hfirst : named.isBelow moderate = true := by
    simp only [named]
    split
    · exact hnamed _
    · rfl
  have hbest : best.isBelow moderate = true := by
    cases isDefault with
    | true => exact hmax _ _ hfirst (weight_moderate hfit _)
    | false => exact hfirst
  split
  · exact ⟨_, rfl, weight_moderate hfit _⟩
  · exact ⟨_, rfl, hbest⟩

theorem namePoints_yields (hs : s.Sound) :
    Yields (Breaks c sig content) (fun n => n.isBelow moderate = true) (namePoints s sig content) := by
  obtain ⟨ws, hws, hfit⟩ := hs.weights "names" fun _ => rfl
  rw [namePoints, bind_ok hws]
  cases hp : nameMentions sig with
  | none => exact .inl ⟨_, rfl, rfl⟩
  | some p =>
    refine (limit_returns (get?_fits hfit _) (by decide +kernel)).yields.bind fun cap hcap => ?_
    refine (p.countUpTo_yields fun h => ⟨p, hp, .inr (.inr ⟨_, h⟩)⟩).bind fun count _ => .inl ?_
    exact mul_slight (isBelow_orZero fun v hv => Settings.weightFits_of_countFits (get?_fits hfit _ v hv))
      (by omega)

/-- The settings hold no rules, but something that can be run through. -/
theorem customPoints_returns (hs : s.Sound) :
    Returns (fun n => n.isBelow moderate = true) (customPoints { settings := s } c sig content) := by
  obtain ⟨fs, hfs, hfit⟩ := hs.scoring
  have hiterate : ∃ xs, Json.iterateOr (Fields.get? fs "custom") = .ok xs := by
    cases hget : Fields.get? fs "custom" with
    | none => exact ⟨[], rfl⟩
    | some v =>
      have hv : (Json.iterateOr (some v)).isOk = true := hfit _ (Fields.mem_of_get? hget)
      cases hx : Json.iterateOr (some v) with
      | error m => simp [hx, Except.isOk, Except.toBool] at hv
      | ok xs => exact ⟨xs, rfl⟩
  obtain ⟨xs, hxs⟩ := hiterate
  unfold customPoints
  simp only [hfs]
  rw [bind_ok hxs]
  exact ⟨_, rfl, rfl⟩

theorem points_yields (hs : s.Sound) (hm : sig.methods.length < slight) (f : Factor) :
    Yields (Breaks c sig content) (fun n => n.isBelow moderate = true)
      (points { settings := s } f c sig content) := by
  cases f with
  | path => exact (pathPoints_returns hs).yields
  | extension => exact (extensionPoints_returns hs).yields
  | fileName => exact fileNamePoints_yields hs
  | typeHints => exact (typeHintPoints_returns hs).yields
  | methods => exact (methodPoints_returns hs hm).yields
  | exports => exact (exportPoints_returns hs).yields
  | names => exact namePoints_yields hs
  | custom => exact (customPoints_returns hs).yields

/-- Each factor puts one more number into the breakdown. -/
theorem breakdownFrom_yields (hs : s.Sound) (hm : sig.methods.length < slight) {fs : List Factor}
    {out : Fields Number} (hfs : (fs.map Factor.key).Nodup) (hnew : ∀ f ∈ fs, f.key ∉ Fields.keys out)
    (hout : ∀ p ∈ out, p.2.isBelow (1 + moderate) = true) :
    Yields (Breaks c sig content)
      (fun b => b.length = out.length + fs.length ∧ ∀ p ∈ b, p.2.isBelow (1 + moderate) = true)
      (breakdownFrom { settings := s } c sig content fs out) := by
  induction fs generalizing out with
  | nil => exact .inl ⟨out, rfl, rfl, hout⟩
  | cons f r ih =>
    rw [List.map_cons, List.nodup_cons] at hfs
    rw [breakdownFrom]
    refine (points_yields hs hm f).bind fun n hn => ?_
    have hnone := Fields.get?_eq_none_iff.mpr (hnew f List.mem_cons_self)
    have hle := Number.moderate_le
    have hgt := Number.moderate_gt
    refine (Number.add_returns (j := 1) (by rw [hnone]; rfl) hn (by omega)).yields.bind fun sum hsum => ?_
    rw [Fields.put_of_not_mem (hnew f List.mem_cons_self)]
    have hlength : (out ++ [(f.key, sum)]).length + r.length = out.length + (f :: r).length := by
      simp only [List.length_append, List.length_cons, List.length_nil]
      omega
    rw [← hlength]
    refine ih hfs.2 ?_ ?_
    · intro g hg hmem
      rw [Fields.keys, List.map_append, List.mem_append] at hmem
      rcases hmem with hold | hself
      · exact hnew g (List.mem_cons_of_mem f hg) hold
      · exact hfs.1 (List.mem_map.mpr ⟨g, hg, by simpa using hself⟩)
    · intro p hp
      rcases List.mem_append.mp hp with hp | hp
      · exact hout p hp
      · rw [List.mem_singleton.mp hp]
        exact hsum

theorem score_yields (hs : s.Sound) (hm : sig.methods.length < slight) :
    Yields (Breaks c sig content) (fun _ => True) (score { settings := s } c sig content) := by
  have hkeys : (Factor.all.map Factor.key).Nodup := by decide
  refine (breakdownFrom_yields hs hm hkeys (by simp [Fields.keys]) (by simp)).bind fun b hb => ?_
  have hsum : Returns (fun _ => True) (sumOf b) := by
    have hle := Number.moderate_le
    have hgt := Number.moderate_gt
    have hlength : (b.map (·.2)).length = 8 := by rw [List.length_map, hb.1]; rfl
    refine Number.sumFrom_returns (k := 1 + moderate) ?_ (j := 1) rfl ?_
    · intro x hx
      obtain ⟨p, hp, rfl⟩ := List.mem_map.mp hx
      exact hb.2 p hp
    · rw [hlength]
      omega
  exact (hsum.bind fun _ _ => ⟨_, rfl, trivial⟩).yields

end Scoring

/-! ## Bonuses -/

namespace Recency

variable {s : Settings}

theorem weightOr_fits {ws : Fields Json} (h : ∀ w ∈ ws, countFits w.2 = true) (name : String) :
    countFits (weightOr ws name) = true := by
  have hzero : countFits (.ofInt 0) = true := by decide +kernel
  unfold weightOr
  split
  · next v hget =>
    split
    · exact h _ (Fields.mem_of_get? hget)
    · exact hzero
  · exact hzero

theorem positive_returns {v : Json} (h : countFits v) :
    Returns (fun n => ∀ m ∈ n, m.isBelow slight = true) (positive v) := by
  rw [countFits] at h
  unfold positive
  split
  · next n hn =>
    rw [hn] at h
    refine ⟨_, rfl, fun m hm => ?_⟩
    split at hm
    · cases hm
    · cases hm
      exact Number.isBelow_of_isSlight h
  · next hn => simp [hn] at h

theorem hoursBetween_returns {mtime now : Number} (hmtime : mtime.isBelow moderate)
    (hnow : now.isBelow moderate) : Returns (fun _ => True) (hoursBetween mtime now) := by
  have hle := Number.moderate_le
  refine (Number.sub_below hnow hmtime (by omega)).bind fun d hd => ?_
  exact (Number.quotient_returns hd (by omega) (by decide)).bind fun _ _ => ⟨_, rfl, trivial⟩

theorem decay_returns {most halfLife : Number} (hmost : most.isBelow slight)
    (hhalf : halfLife.isBelow slight) (hours : Float) :
    Returns (fun _ => True) (decay most halfLife hours) :=
  (Number.toFloat_returns hhalf Number.slight_le_limit).bind fun _ _ =>
    (Number.mul_below hmost (k := 0) rfl Number.slight_le_limit (Nat.zero_le _)).mono fun _ _ => trivial

theorem bonus_returns (hs : s.Sound) {mtime : Option Number} {now : Number}
    (hmtime : ∀ t ∈ mtime, t.isBelow moderate = true) (hnow : now.isBelow moderate) :
    Returns (fun _ => True) (bonus s mtime now) := by
  obtain ⟨ws, hws, hfit⟩ := hs.weights "recency" fun _ => rfl
  rw [bonus, bind_ok hws]
  cases mtime with
  | none => exact ⟨_, rfl, trivial⟩
  | some t =>
    refine (positive_returns (weightOr_fits hfit _)).bind fun most hmost => ?_
    cases most with
    | none => exact ⟨_, rfl, trivial⟩
    | some most =>
      refine (positive_returns (weightOr_fits hfit _)).bind fun halfLife hhalf => ?_
      cases halfLife with
      | none => exact ⟨_, rfl, trivial⟩
      | some halfLife =>
        exact (hoursBetween_returns (hmtime t rfl) hnow).bind fun hours _ =>
          decay_returns (hmost most rfl) (hhalf halfLife rfl) hours

end Recency

namespace Feedback

theorem floatWeight_returns {ws : Fields Json} (h : ∀ w ∈ ws, countFits w.2 = true) (name : String) :
    Returns (fun _ => True) (floatWeight ws name) := by
  have hfloat : ∀ v, countFits v = true → Returns (fun _ => True) v.asFloat := by
    intro v hv
    cases v with
    | num n => exact Number.toFloat_returns (Number.isBelow_of_isSlight hv) Number.slight_le_limit
    | bool b => exact ⟨_, rfl, trivial⟩
    | _ => cases hv
  have hweight : countFits ((ws.get? name).getD (.ofInt 0)) = true := by
    cases hget : ws.get? name with
    | none => decide +kernel
    | some v => exact h _ (Fields.mem_of_get? hget)
  exact (hfloat _ hweight).bind fun _ _ => ⟨_, rfl, trivial⟩

theorem points_returns {s : Settings} (hs : s.Sound) (f : Feedback) (sig : Signature) (path : String) :
    Returns (fun _ => True) (f.points s sig path) := by
  obtain ⟨ws, hws, hfit⟩ := hs.weights "feedback" fun _ => rfl
  rw [points, bind_ok hws]
  dsimp only
  split
  · exact floatWeight_returns hfit _
  · split
    · exact floatWeight_returns hfit _
    · exact ⟨_, rfl, trivial⟩

end Feedback

/-! ## Languages and sizes -/

namespace Settings

variable {s : Settings}

/-- A language that is switched on and lists an extension. -/
def Claims (extension : String) (v : Json) : Prop :=
  isEnabled v = .ok true ∧ holds (v.field? "extensions") extension = .ok true

theorem mem_of_claimant {extension l : String} {fs : List (String × Json)}
    (h : claimant extension fs = .ok (some l)) : ∃ v, (l, v) ∈ fs ∧ Claims extension v := by
  induction fs with
  | nil => cases h
  | cons f fs ih =>
    obtain ⟨name, v⟩ := f
    have hrest : claimant extension fs = .ok (some l) → ∃ u, (l, u) ∈ (name, v) :: fs ∧ Claims extension u := by
      intro hl
      obtain ⟨u, hu, hclaims⟩ := ih hl
      exact ⟨u, List.mem_cons_of_mem _ hu, hclaims⟩
    rw [claimant] at h
    obtain ⟨on, hon, h⟩ := bind_eq_ok.mp h
    cases on with
    | false => exact hrest h
    | true =>
      obtain ⟨claims, hclaims, h⟩ := bind_eq_ok.mp h
      cases claims with
      | false => exact hrest h
      | true =>
        cases h
        exact ⟨v, List.mem_cons_self, hon, hclaims⟩

theorem fields_of_isEnabled {v : Json} (h : isEnabled v = .ok true) : ∃ fs, v = .obj fs := by
  cases v with
  | obj fs => exact ⟨fs, rfl⟩
  | _ =>
    rw [isEnabled] at h
    · split at h <;> cases h
    · simp
    · simp

theorem sizeOf?_returns {v : Option Json} (h : ∀ x ∈ v, sizeFits x = true) :
    Returns (fun _ => True) (sizeOf? v) := by
  unfold sizeOf?
  split
  · next n hn =>
    obtain ⟨x, hx, hxn⟩ := Option.bind_eq_some_iff.mp hn
    have hfits := h x hx
    rw [sizeFits, hxn] at hfits
    split
    · next hlt =>
      cases ht : n.truncate? with
      | none => simp [hlt, ht] at hfits
      | some k => exact ⟨_, rfl, trivial⟩
    · exact ⟨_, rfl, trivial⟩
  · exact ⟨_, rfl, trivial⟩

theorem Typed.languageFor_returns (h : s.Typed) (extension : String) :
    Returns (fun _ => True) (s.languageFor extension) := by
  obtain ⟨fs, hfs, hall⟩ := h.languageTable
  obtain ⟨l, hl⟩ := claimant_ok (Text.lower extension) fun f hf => (hall f hf).lists
  rw [languageFor, bind_ok hfs]
  exact ⟨l, hl, trivial⟩

theorem Sound.parserOf_returns (h : s.Sound) {extension l : String}
    (hl : s.languageFor extension = .ok (some l)) :
    Returns (fun ps => ∀ p ∈ ps, p.1 = "maxFileSize" → sizeFits p.2 = true) (s.parserOf l) := by
  obtain ⟨fs, hfs, hnodup, hfit⟩ := h.parsers
  have htable : s.languageTable = .ok fs := by rw [languageTable, hfs]
  rw [languageFor, bind_ok htable] at hl
  obtain ⟨v, hv, hon, -⟩ := mem_of_claimant hl
  obtain ⟨lang, rfl⟩ := fields_of_isEnabled hon
  rw [parserOf, bind_ok htable, (Fields.get?_eq_some_iff hnodup).mpr hv]
  dsimp only
  cases hget : Fields.get? lang "parser" with
  | none => exact ⟨[], rfl, by simp⟩
  | some p =>
    have hfits : fieldsFit parserFits p = true :=
      List.all_eq_true.mp (hfit _ hv) _ (Fields.mem_of_get? hget)
    cases p with
    | obj ps =>
      refine ⟨ps, rfl, fun p hp hname => ?_⟩
      simpa [parserFits, hname] using List.all_eq_true.mp hfits p hp
    | _ => exact ⟨[], if_neg (by simpa [fieldsFit] using hfits), by simp⟩

theorem Sound.maxFileSizeFor_returns (h : s.Sound) (extension : String) :
    Returns (fun _ => True) (s.maxFileSizeFor extension) := by
  obtain ⟨l, hl, -⟩ := h.languageFor_returns extension
  rw [maxFileSizeFor, bind_ok hl]
  extract_lets rest
  have hrest : ∀ own, Returns (fun _ => True) (rest own) := by
    intro own
    cases own with
    | some n => exact ⟨n, rfl, trivial⟩
    | none =>
      refine (sizeOf?_returns (by simpa using h.parserMaxFileSize)).bind fun size _ => ?_
      cases size with
      | some n => exact ⟨n, rfl, trivial⟩
      | none => exact ⟨_, rfl, trivial⟩
  cases l with
  | none => exact hrest none
  | some l =>
    dsimp only
    split
    · exact hrest none
    · refine (h.parserOf_returns hl).bind fun ps hps => ?_
      have hsize := sizeOf?_returns fun x hx => hps _ (Fields.mem_of_get? hx) rfl
      exact hsize.bind fun own _ => hrest own

/-- What the settings are asked for is answered, whatever the file, the text and the signature. -/
structure Serves (s : Settings) : Prop where
  score : ∀ c sig content, sig.methods.length < slight →
    (∃ r, Scoring.score { settings := s } c sig content = .ok r) ∨
      Scoring.score { settings := s } c sig content = .error .brokenGroup ∧ Scoring.Breaks c sig content
  bonus : ∀ mtime now, (∀ t ∈ mtime, t.isBelow moderate = true) → now.isBelow moderate = true →
    ∃ n, Recency.bonus s mtime now = .ok n
  feedback : ∀ f sig path, ∃ n, Feedback.points f s sig path = .ok n
  isSafe : ∀ text, ∃ b, Safety.isSafe s text = .ok b
  maxFileSizeFor : ∀ extension, ∃ n, s.maxFileSizeFor extension = .ok n
  languageFor : ∀ extension, ∃ l, s.languageFor extension = .ok l
  extensionsFor : ∀ language, ∃ ts : List String, s.extensionsFor language = .ok (ts.map .str)
  skipPatternsFor : ∀ extension, ∃ gs : List String, s.skipPatternsFor extension = .ok (gs.map .str)

theorem Sound.serves (h : s.Sound) : s.Serves where
  score _ _ _ hm := (Scoring.score_yields h hm).imp_left fun hr => hr.imp fun _ hr => hr.1
  bonus _ _ hmtime hnow := (Recency.bonus_returns h hmtime hnow).imp fun _ hr => hr.1
  feedback f sig path := (Feedback.points_returns h f sig path).imp fun _ hr => hr.1
  isSafe text := (Safety.isSafe_typed h.blockedTokens text).imp fun _ hr => hr.1
  maxFileSizeFor extension := (h.maxFileSizeFor_returns extension).imp fun _ hr => hr.1
  languageFor extension := (h.languageFor_returns extension).imp fun _ hr => hr.1
  extensionsFor language := h.extensionsFor_ok language
  skipPatternsFor extension := h.skipPatternsFor_ok extension

end Settings

end ShapeSearch
