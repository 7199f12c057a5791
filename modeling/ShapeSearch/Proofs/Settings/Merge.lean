import ShapeSearch.Proofs.Settings.Documents

/-!
# Leaves of merged tables

Merging puts the leaves of the changes in the place of what the base has there, and nothing else: a leaf of the
merged table is one of the changes, or one of the base on whose path the changes say nothing
(`at?_mergeValue`).  In every table the names of the base come first (`names_mergeValue`), and a table into
which the changes have been merged takes them in (`mergeValue_idem`).

    merge limit base changes = .ok merged, if base can be copied and the changes do not go too deep   (merge_leaves)
-/

namespace ShapeSearch

namespace Json

variable {base changes : List (String × Json)} {limit : Nat}

/-- The value at the end of a path of names. -/
def at? (v : Json) : List String → Option Json
  | [] => some v
  | k :: p => (v.field? k).bind fun u => at? u p

def IsLeaf (v : Json) : Prop := v.fields? = none

def namesOf (v : Option Json) : List String :=
  ((v.bind fields?).map Fields.keys).getD []

/-- No leaf stands on a path or at its end. -/
def OpenAlong (v : Json) (p : List String) : Prop :=
  ∀ q, q <+: p → ∀ u, v.at? q = some u → ¬u.IsLeaf

/-! ## One level -/

theorem get?_mergeFields (h : (Fields.keys changes).Nodup) (k : String) :
    Fields.get? (mergeFields base changes) k =
      (Fields.get? changes k).elim (Fields.get? base k) fun v => some (mergeValue (Fields.get? base k) v) := by
  induction changes generalizing base with
  | nil => rw [mergeFields]; rfl
  | cons c r ih =>
    obtain ⟨j, v⟩ := c
    obtain ⟨hj, hr⟩ := List.nodup_cons.mp h
    rw [mergeFields, ih hr, Fields.get?]
    by_cases hjk : j = k
    · subst hjk
      rw [Fields.get?_eq_none_iff.mpr hj, if_pos rfl]
      simp
    · rw [if_neg hjk, Fields.get?_put_of_ne _ _ (Ne.symm hjk)]

theorem keys_mergeFields (h : (Fields.keys changes).Nodup) :
    Fields.keys (mergeFields base changes) =
      Fields.keys base ++ (Fields.keys changes).filter (· ∉ Fields.keys base) := by
  induction changes generalizing base with
  | nil => simp [mergeFields, Fields.keys]
  | cons c r ih =>
    obtain ⟨j, v⟩ := c
    obtain ⟨hj, hr⟩ := List.nodup_cons.mp h
    have hcons : Fields.keys ((j, v) :: r) = j :: Fields.keys r := rfl
    rw [mergeFields, ih hr, Fields.keys_put, hcons]
    split
    · next hmem => rw [List.filter_cons_of_neg (by simpa using hmem)]
    · next hmem =>
      rw [List.filter_cons_of_pos (by simpa using hmem), List.append_assoc, List.singleton_append]
      congr 2
      refine List.filter_congr fun x hx => ?_
      have hne : x ≠ j := fun hxj => hj (hxj ▸ hx)
      simp [hne]

/-- A table that has taken every change in is left as it is. -/
theorem mergeFields_of_taken (h : ∀ f ∈ changes,
      ∃ u, Fields.get? base f.1 = some u ∧ mergeValue (some u) f.2 = u) :
    mergeFields base changes = base := by
  induction changes with
  | nil => rw [mergeFields]
  | cons c r ih =>
    obtain ⟨⟨u, hget, hu⟩, hr⟩ := List.forall_mem_cons.mp h
    rw [mergeFields, hget, hu, Fields.put_of_get? hget, ih hr]

/-! ## All levels -/

theorem mergeValue_of_isLeaf {v : Json} (h : v.IsLeaf) (old : Option Json) : mergeValue old v = v := by
  unfold mergeValue
  split
  · cases h
  · rfl

theorem mergeValue_cases (old : Option Json) (v : Json) :
    (∃ b c, old = some (.obj b) ∧ v = .obj c ∧ mergeValue old v = .obj (mergeFields b c)) ∨
      mergeValue old v = v ∧ (v.IsLeaf ∨ ∀ o ∈ old, o.IsLeaf) := by
  by_cases hv : v.IsLeaf
  · exact .inr ⟨mergeValue_of_isLeaf hv old, .inl hv⟩
  · cases v with
    | obj c =>
      cases old with
      | none => exact .inr ⟨rfl, .inr (by simp)⟩
      | some o =>
        cases o with
        | obj b => exact .inl ⟨b, c, rfl, rfl, rfl⟩
        | _ => exact .inr ⟨rfl, .inr (by simp [IsLeaf, fields?])⟩
    | _ => exact absurd rfl hv

theorem mergeValue_self {v : Json} (h : v.Distinct) : mergeValue (some v) v = v := by
  induction h with
  | obj hn _ ih =>
    rw [mergeValue, mergeFields_of_taken fun f hf => ⟨f.2, (Fields.get?_eq_some_iff hn).mpr hf, ih f hf⟩]
  | _ => rfl

theorem get?_mergeFields_of_mem (hn : (Fields.keys changes).Nodup) {f : String × Json} (hf : f ∈ changes) :
    Fields.get? (mergeFields base changes) f.1 = some (mergeValue (Fields.get? base f.1) f.2) := by
  rw [get?_mergeFields hn, (Fields.get?_eq_some_iff hn).mpr hf]
  rfl

theorem mergeValue_idem {v : Json} (h : v.Distinct) (old : Option Json) :
    mergeValue (some (mergeValue old v)) v = mergeValue old v := by
  induction h generalizing old with
  | @obj c hn hd ih =>
    rcases mergeValue_cases old (.obj c) with ⟨b, _, -, ⟨⟩, hmerged⟩ | ⟨hself, -⟩
    · rw [hmerged, mergeValue, mergeFields_of_taken fun f hf => ⟨_, get?_mergeFields_of_mem hn hf, ih f hf _⟩]
    · rw [hself, mergeValue_self (.obj hn hd)]
  | _ => exact (mergeValue_of_isLeaf (by rfl) _).trans (mergeValue_of_isLeaf (by rfl) _).symm

/-- What has been merged is nested as deep as the changes. -/
theorem copySteps_le_mergeValue {v : Json} (h : v.Distinct) (old : Option Json) :
    copySteps v ≤ copySteps (mergeValue old v) := by
  induction h generalizing old with
  | @obj c hn _ ih =>
    rcases mergeValue_cases old (.obj c) with ⟨b, _, -, ⟨⟩, hmerged⟩ | ⟨hself, -⟩
    · have hle : copyFieldSteps c ≤ copyFieldSteps (mergeFields b c) :=
        copyFieldSteps_le_iff.mpr fun f hf => (ih f hf _).trans
          (copyFieldSteps_le_iff.mp le_rfl _ (Fields.mem_of_get? (get?_mergeFields_of_mem hn hf)))
      rw [hmerged, copySteps, copySteps]
      omega
    · rw [hself]
  | _ => exact (congrArg copySteps (mergeValue_of_isLeaf (by rfl) old)).ge

/-! ## Paths -/

theorem at?_of_isLeaf {v : Json} (h : v.IsLeaf) (k : String) (p : List String) : v.at? (k :: p) = none := by
  cases v with
  | obj fs => cases h
  | _ => rfl

theorem openAlong_cons {fs : List (String × Json)} {k : String} {p : List String} :
    (obj fs).OpenAlong (k :: p) ↔ ∀ u, Fields.get? fs k = some u → u.OpenAlong p := by
  constructor
  · intro h u hu q hq w hw
    refine h (k :: q) (List.prefix_cons_inj k |>.mpr hq) w ?_
    simpa [at?, field?, hu] using hw
  · intro h q hq w hw
    cases q with
    | nil =>
      cases hw
      simp [IsLeaf, fields?]
    | cons j q =>
      obtain ⟨rfl, hrest⟩ := List.cons_prefix_cons.mp hq
      obtain ⟨u, hu, hw⟩ := Option.bind_eq_some_iff.mp hw
      exact h u hu q hrest w hw

/-- The leaves after a merge are those of the changes, and those of the base that no change is in the way of. -/
theorem at?_mergeValue {u v : Json} (hu : u.Distinct) (hv : v.IsLeaf) (old : Option Json) (p : List String) :
    (mergeValue old u).at? p = some v ↔ u.at? p = some v ∨
      u.at? p = none ∧ u.OpenAlong p ∧ (old.bind fun o => o.at? p) = some v := by
  induction p generalizing old u with
  | nil =>
    rcases mergeValue_cases old u with ⟨b, c, -, rfl, hmerged⟩ | ⟨hself, -⟩
    · rw [hmerged]
      constructor
      · rintro ⟨⟩
        cases hv
      · rintro (⟨⟨⟩⟩ | ⟨⟨⟩, -⟩)
        cases hv
    · rw [hself]
      simp [at?]
  | cons k p ih =>
    rcases mergeValue_cases old u with ⟨b, c, rfl, rfl, hmerged⟩ | ⟨hself, hleaf⟩
    · cases hu with
      | obj hn hd =>
        rw [hmerged, openAlong_cons]
        simp only [at?, field?, Option.bind_some, get?_mergeFields hn]
        cases hget : Fields.get? c k with
        | none => simp
        | some w =>
          have hw := hd _ (Fields.mem_of_get? hget)
          simpa using ih hw (Fields.get? b k)
    · rw [hself]
      refine ⟨.inl, fun h => h.resolve_right ?_⟩
      rintro ⟨-, hopen, hold⟩
      rcases hleaf with hleaf | hleaf
      · exact hopen [] List.nil_prefix u rfl hleaf
      · obtain ⟨o, ho, hat⟩ := Option.bind_eq_some_iff.mp hold
        rw [at?_of_isLeaf (hleaf o ho)] at hat
        cases hat

/-- In every table the names of the base come first, and then the new ones in the order of the changes. -/
theorem names_mergeValue {u : Json} (hu : u.Distinct) (old : Option Json) {p : List String} (hp : u.OpenAlong p) :
    namesOf ((mergeValue old u).at? p) = namesOf (old.bind fun o => o.at? p) ++
      (namesOf (u.at? p)).filter (· ∉ namesOf (old.bind fun o => o.at? p)) := by
  induction p generalizing old u with
  | nil =>
    rcases mergeValue_cases old u with ⟨b, c, rfl, rfl, hmerged⟩ | ⟨hself, hleaf⟩
    · cases hu with
      | obj hn _ =>
        rw [hmerged]
        exact keys_mergeFields hn
    · have hold : namesOf (old.bind fun o => o.at? []) = [] := by
        rcases hleaf with hleaf | hleaf
        · exact absurd hleaf (hp [] List.nil_prefix u rfl)
        · cases old with
          | none => rfl
          | some o => simp [namesOf, at?, show o.fields? = none from hleaf o rfl]
      simp [hself, hold]
  | cons k p ih =>
    rcases mergeValue_cases old u with ⟨b, c, rfl, rfl, hmerged⟩ | ⟨hself, hleaf⟩
    · cases hu with
      | obj hn hd =>
        rw [openAlong_cons] at hp
        rw [hmerged]
        simp only [at?, field?, Option.bind_some, get?_mergeFields hn]
        cases hget : Fields.get? c k with
        | none => simp [namesOf]
        | some w =>
          have hw := hd _ (Fields.mem_of_get? hget)
          exact ih hw (Fields.get? b k) (hp w hget)
    · have hold : (old.bind fun o => o.at? (k :: p)) = none := by
        rcases hleaf with hleaf | hleaf
        · exact absurd hleaf (hp [] List.nil_prefix u rfl)
        · cases old with
          | none => rfl
          | some o => exact at?_of_isLeaf (hleaf o rfl) k p
      rw [hself, hold]
      simp [namesOf]

/-! ## Merging two tables -/

theorem merge_obj (base changes : List (String × Json)) :
    merge limit (.obj base) (.obj changes) =
      if copySteps (.obj base) ≤ limit ∧ mergeSteps base changes ≤ limit then
        .ok (.obj (mergeFields base changes))
      else .error .tooDeep := by
  by_cases h : copySteps (.obj base) ≤ limit ∧ mergeSteps base changes ≤ limit
  · rw [if_pos h]
    show (mergeTables limit base changes >>= _) = _
    rw [mergeTables, if_neg (by simpa using h)]
    rfl
  · rw [if_neg h]
    show (mergeTables limit base changes >>= _) = _
    rw [mergeTables, if_pos (by simpa [Nat.not_le, imp_iff_or_not, or_comm] using h)]
    rfl

/-- A table that takes changes in as it is can be merged with them if it can be copied. -/
theorem merge_of_taken (h : mergeFields base changes = base) (hle : mergeSteps base changes ≤ copySteps (.obj base)) :
    merge limit (.obj base) (.obj changes) = .ok (.obj base) ↔ copySteps (.obj base) ≤ limit := by
  rw [merge_obj, h]
  constructor
  · intro hok
    split at hok
    · next hfits => exact hfits.1
    · cases hok
  · intro hbase
    rw [if_pos ⟨hbase, hle.trans hbase⟩]

theorem merge_leaves (limit : Nat) (hb : (obj base).Distinct) (hc : (obj changes).Distinct) :
    ((∃ merged, merge limit (.obj base) (.obj changes) = .ok merged) ↔
      copySteps (.obj base) ≤ limit ∧ mergeSteps base changes ≤ limit) ∧
    (merge limit (.obj base) (.obj changes) = .error .tooDeep ↔
      limit < copySteps (.obj base) ∨ limit < mergeSteps base changes) ∧
    (∀ merged, merge limit (.obj base) (.obj changes) = .ok merged →
      (∀ p v, v.IsLeaf → (merged.at? p = some v ↔ (obj changes).at? p = some v ∨
        (obj changes).at? p = none ∧ (obj changes).OpenAlong p ∧ (obj base).at? p = some v)) ∧
      (∀ p, (obj changes).OpenAlong p → namesOf (merged.at? p) = namesOf ((obj base).at? p) ++
        (namesOf ((obj changes).at? p)).filter (· ∉ namesOf ((obj base).at? p))) ∧
      (merge limit merged (.obj changes) = .ok merged ↔ copySteps merged ≤ limit)) ∧
    (merge limit (.obj base) (.obj []) = .ok (.obj base) ↔ copySteps (.obj base) ≤ limit) ∧
    (merge limit (.obj base) (.obj base) = .ok (.obj base) ↔ copySteps (.obj base) ≤ limit) := by
  have hsteps : ∀ fs : List (String × Json), copyFieldSteps fs ≤ copySteps (.obj fs) := fun fs => by
    rw [copySteps]
    omega
  refine ⟨?_, ?_, ?_, merge_of_taken (by rw [mergeFields]) (by simp [mergeSteps]), ?_⟩
  · rw [merge_obj]
    split <;> simp_all
  · rw [merge_obj, ← Nat.not_le, ← Nat.not_le, ← not_and_or]
    split <;> simp_all
  · intro merged hmerged
    rw [merge_obj] at hmerged
    split at hmerged
    · cases hmerged
      have hidem : mergeFields (mergeFields base changes) changes = mergeFields base changes :=
        obj.inj (mergeValue_idem hc (some (.obj base)))
      refine ⟨fun p v hv => at?_mergeValue hc hv (some (.obj base)) p,
        fun p hp => names_mergeValue hc (some (.obj base)) hp, merge_of_taken hidem ?_⟩
      exact (mergeSteps_le _ _).trans ((hsteps changes).trans (copySteps_le_mergeValue hc (some (.obj base))))
    · cases hmerged
  · exact merge_of_taken (obj.inj (mergeValue_self hb)) ((mergeSteps_le _ _).trans (hsteps base))

theorem merge_leaves_table : ∃ merged,
    merge Limits.usual.steps (obj [("a", obj [("x", null)])]) (obj [("b", null), ("a", str "y")]) = .ok merged ∧
      merged.at? ["a"] = some (str "y") ∧ merged.at? ["a", "x"] ≠ some null ∧
      namesOf (merged.at? []) = ["a", "b"] := by
  have hopen : (obj [("b", null), ("a", str "y")]).OpenAlong [] := by
    intro q hq u hu
    cases List.prefix_nil.mp hq
    cases hu
    simp [IsLeaf, fields?]
  have hbase : (obj [("a", obj [("x", null)])]).Distinct :=
    .obj (by decide) (by simpa using .obj (by decide) (by simpa using .null))
  have hchanges : (obj [("b", null), ("a", str "y")]).Distinct :=
    .obj (by decide) (by simpa using ⟨.null, .str _⟩)
  obtain ⟨hreturns, -, hleaves, -⟩ := merge_leaves Limits.usual.steps hbase hchanges
  obtain ⟨merged, hmerged⟩ := hreturns.mpr (by decide)
  obtain ⟨hleaf, hnames, -⟩ := hleaves merged hmerged
  refine ⟨merged, hmerged, (hleaf ["a"] (str "y") rfl).mpr (.inl rfl), fun h => ?_, hnames [] hopen⟩
  rcases (hleaf ["a", "x"] null rfl).mp h with h | ⟨-, h, -⟩
  · cases h
  · exact h ["a"] (by simp) (str "y") rfl rfl

/-- Tables inside one another. -/
def buried : Nat → Json
  | 0 => .obj []
  | n + 1 => .obj [("a", buried n)]

theorem copySteps_buried (n : Nat) : copySteps (buried n) = 2 * n + 2 := by
  induction n with
  | zero => rfl
  | succ n ih => simp [buried, copySteps, copyFieldSteps, ih]; omega

/-- A leaf that takes the place of a table is not put in if the table is nested too deep to be copied. -/
theorem merge_over_buried : ((obj [("a", .ofNat 1)]).at? ["a"] = some (.ofNat 1) ∧ (ofNat 1).IsLeaf) ∧
    ¬∃ merged, merge Limits.usual.steps (buried 549) (.obj [("a", .ofNat 1)]) = .ok merged ∧
      merged.at? ["a"] = some (.ofNat 1) := by
  refine ⟨⟨rfl, rfl⟩, ?_⟩
  rintro ⟨merged, hmerged, -⟩
  rw [buried, merge_obj, if_neg] at hmerged
  · cases hmerged
  · rw [← buried, copySteps_buried]
    decide

end Json

end ShapeSearch
