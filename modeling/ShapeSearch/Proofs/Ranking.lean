import Mathlib.Data.List.Nodup
import Mathlib.Data.List.TakeWhile
import ShapeSearch.Discovery.Engine
import ShapeSearch.Proofs.Resolution

/-!
# Ranking and choosing

Ranked candidates stand by score and then by path, and `choose` goes through the groups of equal score
until one of them has a choice.  Together the two find one optimum: among the candidates that can be
chosen the highest score, then the most valuable export, then the least path.

    (cs.map path).Nodup → cs.Perm ds → rank cs = rank ds                         (rank_eq_of_perm)
    … → (choose s sig (rank cs)).1 = some ch → Beats s sig ch c                  (choose_rank_optimal)
    … → resolving succeeds ↔ some candidate has an export that passes            (resolve_rank_optimum)
-/

namespace ShapeSearch.Ranking

open Resolution (Rated Passes)

/-! ## The order of candidates -/

section Order

variable {a b c : Candidate}

theorem precedes_iff (ha : a.score.isDefined) (hb : b.score.isDefined) :
    precedes a b = true ↔
      b.score.line < a.score.line ∨ (a.score.line = b.score.line ∧ a.path ≤ b.path) := by
  simp only [precedes, Bool.or_eq_true, Bool.and_eq_true, decide_eq_true_eq,
    Number.lt_iff_line hb ha, Number.eq_iff_line ha hb]

theorem precedes_trans (ha : a.score.isDefined) (hb : b.score.isDefined)
    (hc : c.score.isDefined) (hab : precedes a b) (hbc : precedes b c) :
    precedes a c = true := by
  rw [precedes_iff ha hb] at hab
  rw [precedes_iff hb hc] at hbc
  rw [precedes_iff ha hc]
  rcases hab with hab | ⟨hab, hp⟩
  · rcases hbc with hbc | ⟨hbc, -⟩
    · exact .inl (hbc.trans hab)
    · exact .inl (hbc ▸ hab)
  · rcases hbc with hbc | ⟨hbc, hq⟩
    · exact .inl (hab ▸ hbc)
    · exact .inr ⟨hab.trans hbc, String.le_trans hp hq⟩

theorem precedes_total (ha : a.score.isDefined) (hb : b.score.isDefined) :
    (precedes a b || precedes b a) = true := by
  rw [Bool.or_eq_true, precedes_iff ha hb, precedes_iff hb ha]
  rcases lt_trichotomy a.score.line b.score.line with h | h | h
  · exact .inr (.inl h)
  · rcases String.le_total a.path b.path with hp | hp
    · exact .inl (.inr ⟨h, hp⟩)
    · exact .inr (.inr ⟨h.symm, hp⟩)
  · exact .inl (.inl h)

end Order

theorem rank_perm (cs : List Candidate) : (rank cs).Perm cs :=
  List.mergeSort_perm cs precedes

variable {c : Candidate} {cs : List Candidate} {s : Settings} {sig : Signature}

@[simp] theorem mem_rank : c ∈ rank cs ↔ c ∈ cs :=
  (rank_perm cs).mem_iff

/-- Ranked candidates stand in order.  The order is total only on candidates with a defined score, so it
is sorted by on those. -/
theorem rank_pairwise (h : ∀ c ∈ cs, c.score.isDefined = true) :
    (rank cs).Pairwise fun a b => precedes a b = true := by
  let ds : List { c : Candidate // c.score.isDefined = true } := cs.attachWith _ h
  have hds : ds.map Subtype.val = cs := List.attachWith_map_subtype_val h
  have htrans : ∀ a b c : { c : Candidate // c.score.isDefined = true },
      precedes a.1 b.1 = true → precedes b.1 c.1 = true → precedes a.1 c.1 = true :=
    fun a b c => precedes_trans a.2 b.2 c.2
  have hsort : (ds.mergeSort fun a b => precedes a.1 b.1).Pairwise fun a b => precedes a.1 b.1 = true :=
    List.pairwise_mergeSort htrans (fun a b => precedes_total a.2 b.2) ds
  have hmap : (ds.mergeSort fun a b => precedes a.1 b.1).map Subtype.val = rank cs := by
    rw [rank, ← hds]
    exact List.map_mergeSort fun a _ b _ => rfl
  rw [← hmap, List.pairwise_map]
  exact hsort

/-- Some export of a candidate passes. -/
def Eligible (s : Settings) (sig : Signature) (c : Candidate) : Prop :=
  ∃ e ∈ c.exports, Passes s sig e

/-- The rating of a candidate, if an export can be chosen from it. -/
def rating (s : Settings) (sig : Signature) (c : Candidate) : Option Number.Line :=
  match attempt s sig c with
  | .ok x => some x.points.total.line
  | .error _ => none

theorem resolve_of_attempt {x : Resolution.Resolved} (h : attempt s sig c = .ok x) :
    Resolution.resolve s c.exports sig = .ok (some x) := by
  unfold attempt at h
  split at h
  · cases h
  · split at h
    · cases h
    · cases h
    · next hx =>
      cases h
      exact hx

/-- What an attempt gives for a candidate whose exports can be rated. -/
theorem attempt_cases (hr : ∀ e ∈ c.exports, Rated s sig e) :
    ((∃ why, attempt s sig c = .error why) ∧ ¬ Eligible s sig c) ∨
      ∃ x, attempt s sig c = .ok x ∧ Resolution.Chosen s sig c.exports (some x) ∧
        Resolution.resolve s c.exports sig = .ok (some x) ∧ Eligible s sig c := by
  unfold attempt
  cases hw : s.weights "target" with
  | error m =>
    -- without weights nothing can be validated
    have hv : ∀ e, Resolution.validate s e sig = .error m := by
      intro e
      simp [Resolution.validate, hw, bind, Except.bind]
    left
    constructor
    · split
      · exact ⟨_, rfl⟩
      · exact ⟨_, by simp only [Resolution.resolve, hw, bind, Except.bind]; rfl⟩
    · rintro ⟨e, -, -, p, hp⟩
      rw [hv e] at hp
      cases hp
  | ok ws =>
    obtain ⟨out, ho, hc⟩ := Resolution.resolve_chosen hw hr
    cases out with
    | none =>
      left
      constructor
      · rw [ho]
        split
        · exact ⟨_, rfl⟩
        · exact ⟨_, rfl⟩
      · rintro ⟨e, he, hp⟩
        have hn : Resolution.rating s sig e = none := hc.first e he
        have hs := (hr e he).rating_isSome_iff.mpr hp
        rw [hn] at hs
        cases hs
    | some x =>
      right
      have hmem : x.entry ∈ c.exports := hc.first.mem
      have hne : c.exports.isEmpty = false := by
        rw [List.isEmpty_eq_false_iff]
        exact List.ne_nil_of_mem hmem
      refine ⟨x, by simp [hne, ho], hc, ho, x.entry, hmem, ?_⟩
      exact (hr _ hmem).passes_iff.mpr ⟨_, hc.worth x rfl⟩

/-! ## The loop over a group -/

/-- What has been kept of the candidates seen so far: the first of those with the highest rating, with
the export chosen from it. -/
structure Kept (s : Settings) (sig : Signature) (seen : List Candidate) (best : Option Choice) :
    Prop where
  first : FirstBest (rating s sig) seen (best.map Choice.candidate)
  resolved : ∀ ch, best = some ch → attempt s sig ch.candidate = .ok ch.resolved
  defined : ∀ ch, best = some ch → ch.resolved.points.total.isDefined = true

theorem Kept.nil (s : Settings) (sig : Signature) : Kept s sig [] none :=
  ⟨firstBest_nil _, by simp, by simp⟩

section Loop

variable {s : Settings} {sig : Signature} {seen : List Candidate} {best : Option Choice}

theorem rating_of_attempt {c : Candidate} {x : Resolution.Resolved} (h : attempt s sig c = .ok x) :
    rating s sig c = some x.points.total.line := by
  rw [rating, h]

theorem Kept.better {c : Candidate} {x : Resolution.Resolved} (h : Kept s sig seen best)
    (ha : attempt s sig c = .ok x) (hd : x.points.total.isDefined) :
    Kept s sig (seen ++ [c]) (Ranking.better best ⟨c, x⟩) := by
  have hx := rating_of_attempt ha
  cases best with
  | none =>
    have hf : FirstBest (rating s sig) (seen ++ [c]) (some c) := h.first.snoc_first hx
    exact ⟨hf, by simp [Ranking.better, ha], by simp [Ranking.better, hd]⟩
  | some b =>
    have hb := rating_of_attempt (h.resolved b rfl)
    have hbd := h.defined b rfl
    cases hlt : b.resolved.points.total.lt x.points.total with
    | true =>
      have hbest : Ranking.better (some b) ⟨c, x⟩ = some ⟨c, x⟩ := by simp [Ranking.better, hlt]
      rw [hbest]
      have hf : FirstBest (rating s sig) (seen ++ [c]) (some c) :=
        FirstBest.snoc_lt h.first hb hx ((Number.lt_iff_line hbd hd).mp hlt)
      exact ⟨hf, by simp [ha], by simp [hd]⟩
    | false =>
      have hbest : Ranking.better (some b) ⟨c, x⟩ = some b := by simp [Ranking.better, hlt]
      rw [hbest]
      have hf : FirstBest (rating s sig) (seen ++ [c]) (some b.candidate) :=
        FirstBest.snoc_ge h.first hb hx ((Number.not_lt_iff_line hbd hd).mp hlt)
      exact ⟨hf, by simp [h.resolved b rfl], by simp [hbd]⟩

theorem tryAll_kept (l : List Candidate) :
    ∀ (seen : List Candidate) (best : Option Choice) (reasons : Fields String),
      Kept s sig seen best → (∀ c ∈ l, ∀ e ∈ c.exports, Rated s sig e) →
      Kept s sig (seen ++ l) (tryAll s sig l best reasons).1 := by
  induction l with
  | nil =>
    intro seen best reasons h _
    simpa [tryAll] using h
  | cons c r ih =>
    intro seen best reasons h hr
    have hrest : ∀ d ∈ r, ∀ e ∈ d.exports, Rated s sig e := fun d hd => hr d (List.mem_cons_of_mem c hd)
    rw [List.append_cons]
    rcases attempt_cases (hr c List.mem_cons_self) with ⟨⟨why, ha⟩, -⟩ | ⟨x, ha, hc, -, -⟩
    · have hn : rating s sig c = none := by rw [rating, ha]
      simp only [tryAll, ha]
      exact ih _ _ _ ⟨h.first.snoc_none hn, h.resolved, h.defined⟩ hrest
    · simp only [tryAll, ha]
      exact ih _ _ _ (h.better ha (hc.defined x rfl)) hrest

end Loop

/-! ## The loop over the groups -/

/-- A choice is at least as good as a candidate: the candidate has no choice of its own, or a lower
score, or an equal score and a less valuable export, or both are equal and its path is not smaller. -/
def Beats (s : Settings) (sig : Signature) (ch : Choice) (c : Candidate) : Prop :=
  ∀ x, attempt s sig c = .ok x →
    c.score.lt ch.candidate.score = true ∨ (c.score.eq ch.candidate.score = true ∧
      (x.points.total.lt ch.resolved.points.total = true ∨
        (x.points.total.eq ch.resolved.points.total = true ∧ ch.candidate.path ≤ c.path)))

/-- After the group of the first candidate only lower scores follow. -/
theorem line_lt_of_mem_dropWhile {r : List Candidate} (hc : c.score.isDefined)
    (hr : ∀ d ∈ r, d.score.isDefined = true) (hs : (c :: r).Pairwise fun a b => precedes a b = true) {d : Candidate}
    (hd : d ∈ r.dropWhile fun d => d.score.eq c.score) : d.score.line < c.score.line := by
  induction r with
  | nil => simp at hd
  | cons a r ih =>
    have hs' := List.pairwise_cons.mp hs
    have hac := (precedes_iff hc (hr a List.mem_cons_self)).mp (hs'.1 a List.mem_cons_self)
    rw [List.dropWhile_cons] at hd
    split at hd
    · refine ih (fun d hd => hr d (List.mem_cons_of_mem a hd)) ?_ hd
      exact hs.sublist (List.Sublist.cons_cons c (List.sublist_cons_self a r))
    · next hne =>
      have hlt : a.score.line < c.score.line := by
        rcases hac with hac | ⟨hac, -⟩
        · exact hac
        · exact absurd ((Number.eq_iff_line (hr a List.mem_cons_self) hc).mpr hac.symm) hne
      rcases List.mem_cons.mp hd with rfl | hd
      · exact hlt
      · have had := (List.pairwise_cons.mp hs'.2).1 d hd
        rw [precedes_iff (hr a List.mem_cons_self) (hr d (List.mem_cons_of_mem a hd))] at had
        rcases had with had | ⟨had, -⟩
        · exact had.trans hlt
        · exact had ▸ hlt

theorem line_eq_of_mem_takeWhile {r : List Candidate} (hc : c.score.isDefined)
    (hr : ∀ d ∈ r, d.score.isDefined = true) {d : Candidate}
    (hd : d ∈ c :: r.takeWhile fun d => d.score.eq c.score) :
    d.score.line = c.score.line := by
  rcases List.mem_cons.mp hd with rfl | hd
  · rfl
  · have hmem : d ∈ r := (List.takeWhile_prefix _).subset hd
    have heq : d.score.eq c.score = true := by
      have := List.all_takeWhile (p := fun d : Candidate => d.score.eq c.score) (l := r)
      exact List.all_eq_true.mp this d hd
    exact (Number.eq_iff_line (hr d hmem) hc).mp heq

/-- In a group of equal score in order, what the loop keeps beats all members. -/
theorem Kept.beats {group : List Candidate} {ch : Choice} (h : Kept s sig group (some ch))
    (hd : ∀ c ∈ group, c.score.isDefined = true) (hr : ∀ c ∈ group, ∀ e ∈ c.exports, Rated s sig e)
    (hs : group.Pairwise fun a b => precedes a b = true) (heq : ∀ c ∈ group, c.score.line = ch.candidate.score.line)
    (hc : c ∈ group) : Beats s sig ch c := by
  intro x hx
  have hmem : ch.candidate ∈ group := h.first.mem
  have hxd : x.points.total.isDefined = true := by
    rcases attempt_cases (hr c hc) with ⟨⟨why, ha⟩, -⟩ | ⟨y, ha, hy, -, -⟩
    · rw [ha] at hx; cases hx
    · rw [ha] at hx; cases hx; exact hy.defined x rfl
  have hcd := h.defined ch rfl
  refine .inr ⟨(Number.eq_iff_line (hd c hc) (hd _ hmem)).mpr (heq c hc), ?_⟩
  rw [Number.lt_iff_line hxd hcd, Number.eq_iff_line hxd hcd]
  obtain ⟨pre, post, t, hsplit, ht, hpre, hpost⟩ := h.first
  rw [rating_of_attempt (h.resolved ch rfl), Option.some.injEq] at ht
  subst ht
  rw [hsplit] at hc hs
  rcases List.mem_append.mp hc with hc | hc
  · exact .inl (hpre c hc _ (rating_of_attempt hx))
  · rcases List.mem_cons.mp hc with rfl | hc
    · rw [h.resolved ch rfl] at hx
      cases hx
      exact .inr ⟨rfl, String.le_refl _⟩
    · rcases (hpost c hc _ (rating_of_attempt hx)).lt_or_eq with hlt | hle
      · exact .inl hlt
      · -- of equals the kept one stands first, so its path is not larger
        have hcg : c ∈ group := hsplit ▸ List.mem_append_right pre (List.mem_cons_of_mem _ hc)
        have hpc := (List.pairwise_cons.mp (List.pairwise_append.mp hs).2.1).1 c hc
        rw [precedes_iff (hd _ hmem) (hd c hcg)] at hpc
        rcases hpc with hpc | ⟨-, hpc⟩
        · exact absurd (heq c hcg) hpc.ne
        · exact .inr ⟨hle, hpc⟩

/-- What is chosen among candidates: nothing if none is eligible, else a choice that beats them all. -/
def Optimal (s : Settings) (sig : Signature) (l : List Candidate) : Option Choice → Prop
  | none => ∀ c ∈ l, ¬ Eligible s sig c
  | some ch => ch.candidate ∈ l ∧ attempt s sig ch.candidate = .ok ch.resolved ∧
      ∀ c ∈ l, Beats s sig ch c

section Groups

variable {s : Settings} {sig : Signature} {group rest : List Candidate}

/-- A group without eligible candidates leaves the choice to those after it. -/
theorem Optimal.after (hr : ∀ c ∈ group, ∀ e ∈ c.exports, Rated s sig e)
    (hnone : ∀ c ∈ group, ¬ Eligible s sig c) {out : Option Choice} (h : Optimal s sig rest out) :
    Optimal s sig (group ++ rest) out := by
  cases out with
  | none =>
    intro c hc
    rcases List.mem_append.mp hc with hc | hc
    · exact hnone c hc
    · exact h c hc
  | some ch =>
    obtain ⟨hm, ha, hb⟩ := h
    refine ⟨List.mem_append_right group hm, ha, fun c hc => ?_⟩
    rcases List.mem_append.mp hc with hc | hc
    · intro x hx
      rcases attempt_cases (hr c hc) with ⟨⟨why, ha⟩, -⟩ | ⟨y, -, -, -, he⟩
      · rw [ha] at hx; cases hx
      · exact absurd he (hnone c hc)
    · exact hb c hc

/-- The choice of a group of equal score stands against all lower scores after it. -/
theorem Optimal.of_kept {ch : Choice} (h : Kept s sig group (some ch))
    (hd : ∀ c ∈ group ++ rest, c.score.isDefined = true)
    (hr : ∀ c ∈ group, ∀ e ∈ c.exports, Rated s sig e)
    (hs : group.Pairwise fun a b => precedes a b = true)
    (heq : ∀ c ∈ group, c.score.line = ch.candidate.score.line)
    (hlow : ∀ c ∈ rest, c.score.line < ch.candidate.score.line) :
    Optimal s sig (group ++ rest) (some ch) := by
  have hmem : ch.candidate ∈ group := h.first.mem
  refine ⟨List.mem_append_left rest hmem, h.resolved ch rfl, fun c hc => ?_⟩
  rcases List.mem_append.mp hc with hg | hg
  · exact h.beats (fun c hc => hd c (List.mem_append_left rest hc)) hr hs heq hg
  · intro x _
    left
    rw [Number.lt_iff_line (hd c hc) (hd _ (List.mem_append_left rest hmem))]
    exact hlow c hg

theorem Kept.not_eligible (h : Kept s sig group none)
    (hr : ∀ c ∈ group, ∀ e ∈ c.exports, Rated s sig e) : ∀ c ∈ group, ¬ Eligible s sig c := by
  intro c hc
  rcases attempt_cases (hr c hc) with ⟨-, hne⟩ | ⟨x, ha, -⟩
  · exact hne
  · have hn : rating s sig c = none := h.first c hc
    rw [rating_of_attempt ha] at hn
    cases hn

end Groups

/-- The loop over the groups finds the optimum of candidates in order.  Every round consumes at least one
candidate, so as many rounds as there are candidates are enough. -/
theorem tryGroups_optimal (n : Nat) :
    ∀ (l : List Candidate) (reasons : Fields String), l.length ≤ n →
      (l.Pairwise fun a b => precedes a b = true) → (∀ c ∈ l, c.score.isDefined = true) →
      (∀ c ∈ l, ∀ e ∈ c.exports, Rated s sig e) →
      Optimal s sig l (tryGroups s sig n l reasons).1 := by
  induction n with
  | zero =>
    intro l reasons hn _ _ _
    rw [List.eq_nil_of_length_eq_zero (Nat.le_zero.mp hn)]
    simp [tryGroups, Optimal]
  | succ n ih =>
    intro l reasons hn hs hd hr
    cases l with
    | nil => simp [tryGroups, Optimal]
    | cons c r =>
      have hcd := hd c List.mem_cons_self
      have hrd : ∀ d ∈ r, d.score.isDefined = true := fun d h => hd d (List.mem_cons_of_mem c h)
      have hlow : ∀ d ∈ r.dropWhile fun d => d.score.eq c.score, d.score.line < c.score.line :=
        fun d h => line_lt_of_mem_dropWhile hcd hrd hs h
      have heq : ∀ d ∈ c :: r.takeWhile fun d => d.score.eq c.score, d.score.line = c.score.line :=
        fun d h => line_eq_of_mem_takeWhile hcd hrd h
      have hlen : (r.dropWhile fun d => d.score.eq c.score).length ≤ n := by
        have := (List.dropWhile_sublist (fun d : Candidate => d.score.eq c.score) (l := r)).length_le
        simp only [List.length_cons] at hn
        omega
      have hsplit : c :: r = (c :: r.takeWhile fun d => d.score.eq c.score) ++
          r.dropWhile fun d => d.score.eq c.score := by
        rw [List.cons_append, List.takeWhile_append_dropWhile]
      rw [tryGroups]
      rw [hsplit] at hs hd hr ⊢
      generalize (c :: r.takeWhile fun d => d.score.eq c.score) = group at *
      generalize (r.dropWhile fun d => d.score.eq c.score) = rest at *
      have hgr : ∀ d ∈ group, ∀ e ∈ d.exports, Rated s sig e :=
        fun d h => hr d (List.mem_append_left rest h)
      have hkept := tryAll_kept group [] none reasons (Kept.nil s sig) hgr
      rw [List.nil_append] at hkept
      cases htry : tryAll s sig group none reasons with
      | mk best reasons' =>
        rw [htry] at hkept
        cases best with
        | some ch =>
          have hline : ch.candidate.score.line = c.score.line := heq _ hkept.first.mem
          refine Optimal.of_kept hkept hd hgr (List.pairwise_append.mp hs).1 ?_ ?_
          · intro d h
            rw [hline, heq d h]
          · intro d h
            rw [hline]
            exact hlow d h
        | none =>
          refine Optimal.after hgr (hkept.not_eligible hgr) ?_
          exact ih rest reasons' hlen (List.pairwise_append.mp hs).2.1
            (fun d h => hd d (List.mem_append_right group h))
            (fun d h => hr d (List.mem_append_right group h))

/-! ## The optimum -/

/-- Scores are exact numbers that can be compared: those of the candidates, those of their exports, and
the sums that results carry. -/
structure ExactScores (s : Settings) (sig : Signature) (cs : List Candidate) : Prop where
  score : ∀ c ∈ cs, c.score.isDefined = true
  rated : ∀ c ∈ cs, ∀ e ∈ c.exports, Rated s sig e
  total : ∀ c ∈ cs, ∀ x, attempt s sig c = .ok x → ∃ r, resultOf ⟨c, x⟩ sig = .ok r

theorem choose_rank_optimal (h : ExactScores s sig cs) : Optimal s sig (rank cs) (choose s sig (rank cs)).1 :=
  tryGroups_optimal _ (rank cs) [] (Nat.le_refl _) (rank_pairwise h.score)
    (fun c hc => h.score c (mem_rank.mp hc)) (fun c hc => h.rated c (mem_rank.mp hc))

theorem resolve_eq_ok_iff {eng : Engine} {w : World} {ranked : List Candidate} {r : SearchResult} :
    (eng.resolve w ranked sig).1 = .ok (r, c) ↔
      ∃ x, (choose eng.settings sig ranked).1 = some ⟨c, x⟩ ∧ resultOf ⟨c, x⟩ sig = .ok r := by
  unfold Engine.resolve
  cases hc : choose eng.settings sig ranked with
  | mk best reasons =>
    cases best with
    | none =>
      simp only [reduceCtorEq, false_and, exists_false, iff_false]
      split <;> simp
    | some ch =>
      obtain ⟨d, y⟩ := ch
      cases hr : resultOf ⟨d, y⟩ sig with
      | error m =>
        simp only [hr, reduceCtorEq, false_iff, not_exists, not_and, Option.some.injEq, Choice.mk.injEq]
        rintro x ⟨rfl, rfl⟩
        simp [hr]
      | ok r' =>
        simp only [hr, Except.ok.injEq, Prod.mk.injEq, Option.some.injEq, Choice.mk.injEq]
        constructor
        · rintro ⟨rfl, rfl⟩
          exact ⟨y, ⟨rfl, rfl⟩, hr⟩
        · rintro ⟨x, ⟨rfl, rfl⟩, hx⟩
          rw [hr] at hx
          exact ⟨Except.ok.inj hx, rfl⟩

/-- The first export of greatest worth, in terms of the worth of single exports. -/
theorem chosen_split {es : List ExportEntry} {x : Resolution.Resolved} (hr : ∀ e ∈ es, Rated s sig e)
    (h : Resolution.Chosen s sig es (some x)) :
    ∃ pre post, es = pre ++ x.entry :: post ∧
      (∀ e ∈ pre, ∀ t, Resolution.worth s sig e = .ok (some t) → t.lt x.points.total = true) ∧
      ∀ e ∈ post, ∀ t, Resolution.worth s sig e = .ok (some t) → x.points.total.lt t = false := by
  obtain ⟨pre, post, v, hsplit, hv, hpre, hpost⟩ := h.first
  have hd := h.defined x rfl
  rw [Resolution.rating, h.worth x rfl, Option.some.injEq] at hv
  subst hv
  have hdef : ∀ e ∈ es, ∀ t, Resolution.worth s sig e = .ok (some t) → t.isDefined = true := by
    intro e he t ht
    obtain ⟨o, ho, hdo⟩ := hr e he
    rw [ho] at ht
    exact hdo t (Except.ok.inj ht)
  refine ⟨pre, post, hsplit, fun e he t ht => ?_, fun e he t ht => ?_⟩
  · have hmem : e ∈ es := hsplit ▸ List.mem_append_left _ he
    rw [Number.lt_iff_line (hdef e hmem t ht) hd]
    exact hpre e he _ (by rw [Resolution.rating, ht])
  · have hmem : e ∈ es := hsplit ▸ List.mem_append_right _ (List.mem_cons_of_mem _ he)
    rw [Number.not_lt_iff_line hd (hdef e hmem t ht)]
    exact hpost e he _ (by rw [Resolution.rating, ht])

/-- Resolving ranked candidates finds the lexicographic optimum.  It succeeds if and only if a candidate
has an export that passes.  The candidate chosen has the highest score among those, then the most
valuable export, then the least path; and the export chosen from it is the first of greatest worth. -/
theorem resolve_rank_optimum (eng : Engine) (w : World) (sig : Signature) (cs : List Candidate)
    (hp : (cs.map (·.path)).Nodup) (hx : ExactScores eng.settings sig cs) :
    ((∃ r c, (eng.resolve w (eng.rank cs).1 sig).1 = .ok (r, c)) ↔
      ∃ c ∈ cs, c.exports ≠ [] ∧ ∃ e ∈ c.exports, Passes eng.settings sig e) ∧
    ∀ r c, (eng.resolve w (eng.rank cs).1 sig).1 = .ok (r, c) →
      c ∈ cs ∧ ∃ x, Resolution.resolve eng.settings c.exports sig = .ok (some x) ∧
        resultOf ⟨c, x⟩ sig = .ok r ∧
        (∀ d ∈ cs, d ≠ c → (∃ e ∈ d.exports, Passes eng.settings sig e) →
          ∃ y, Resolution.resolve eng.settings d.exports sig = .ok (some y) ∧
            (d.score.lt c.score = true ∨ (d.score.eq c.score = true ∧
              (y.points.total.lt x.points.total = true ∨
                (y.points.total.eq x.points.total = true ∧ c.path < d.path))))) ∧
        Resolution.worth eng.settings sig x.entry = .ok (some x.points.total) ∧
        ∃ pre post, c.exports = pre ++ x.entry :: post ∧
          (∀ e ∈ pre, ∀ t, Resolution.worth eng.settings sig e = .ok (some t) →
            t.lt x.points.total = true) ∧
          ∀ e ∈ post, ∀ t, Resolution.worth eng.settings sig e = .ok (some t) →
            x.points.total.lt t = false := by
  have hopt := choose_rank_optimal hx
  show ((∃ r c, (eng.resolve w (rank cs) sig).1 = .ok (r, c)) ↔ _) ∧
    ∀ r c, (eng.resolve w (rank cs) sig).1 = .ok (r, c) → _
  constructor
  · constructor
    · rintro ⟨r, c, h⟩
      obtain ⟨x, hch, -⟩ := resolve_eq_ok_iff.mp h
      rw [hch] at hopt
      have hmem := mem_rank.mp hopt.1
      rcases attempt_cases (hx.rated c hmem) with ⟨⟨why, ha⟩, -⟩ | ⟨y, -, -, -, e, he, hpass⟩
      · rw [hopt.2.1] at ha; cases ha
      · exact ⟨c, hmem, List.ne_nil_of_mem he, e, he, hpass⟩
    · rintro ⟨c, hc, -, e, he, hpass⟩
      cases hch : (choose eng.settings sig (rank cs)).1 with
      | none =>
        rw [hch] at hopt
        exact absurd ⟨e, he, hpass⟩ (hopt c (mem_rank.mpr hc))
      | some ch =>
        obtain ⟨d, x⟩ := ch
        rw [hch] at hopt
        obtain ⟨r, hr⟩ := hx.total d (mem_rank.mp hopt.1) x hopt.2.1
        exact ⟨r, d, resolve_eq_ok_iff.mpr ⟨x, hch, hr⟩⟩
  · intro r c h
    obtain ⟨x, hch, hr⟩ := resolve_eq_ok_iff.mp h
    rw [hch] at hopt
    obtain ⟨hm, ha, hbeats⟩ := hopt
    have hmem := mem_rank.mp hm
    rcases attempt_cases (hx.rated c hmem) with ⟨⟨why, ha'⟩, -⟩ | ⟨x', ha', hchosen, hres, -⟩
    · rw [ha] at ha'; cases ha'
    · simp only at ha
      rw [ha] at ha'
      cases ha'
      refine ⟨hmem, x, hres, hr, fun d hd hne hpass => ?_, hchosen.worth x rfl,
        chosen_split (hx.rated c hmem) hchosen⟩
      rcases attempt_cases (hx.rated d hd) with ⟨-, hne'⟩ | ⟨y, hay, -, hresy, -⟩
      · exact absurd hpass hne'
      · refine ⟨y, hresy, ?_⟩
        rcases hbeats d (mem_rank.mpr hd) y hay with hlt | ⟨heq, hlt | ⟨hteq, hle⟩⟩
        · exact .inl hlt
        · exact .inr ⟨heq, .inl hlt⟩
        · -- candidates with one path are one candidate, so the path is strictly less
          refine .inr ⟨heq, .inr ⟨hteq, String.not_le.mp fun hge => ?_⟩⟩
          exact hne (List.inj_on_of_nodup_map hp hd hmem (String.le_antisymm hge hle))

/-- Two files of one score; the second also exports its class directly, which is worth more. -/
def rivals : List Candidate :=
  let info : ExportInfo := { name := some "Store", kind := "class", methods := ["get", "put"] }
  let named : ExportEntry := ⟨some "Store", ⟨.named, some "Store"⟩, info⟩
  [{ path := "/a.py", fileName := "a.py", relativePath := "a.py", score := .int 7,
     metadata := some [named] },
   { path := "/b.py", fileName := "b.py", relativePath := "b.py", score := .int 7,
     metadata := some [named, ⟨some "Store", ⟨.direct, none⟩, info⟩] }]

def storeSignature : Signature := { type := some .classDef, methods := ["get"] }

def plainEngine : Engine :=
  { root := "/", settings := {}, maxConcurrency := 8, aliases := none, feedback := none,
    cache := { file := none, lifetime := .ofInt 0, enabled := false, memory := { capacity := 1 } },
    modules := { capacity := 1 } }

theorem rivals_exact : ExactScores {} storeSignature rivals where
  score := by simp [rivals]
  rated := by
    intro c hc e he
    simp only [rivals, List.mem_cons, List.not_mem_nil, or_false] at hc
    rcases hc with rfl | rfl
    · simp only [Candidate.exports, Option.getD_some, List.mem_singleton] at he
      subst he
      exact ⟨some (.int 15), rfl, by simp⟩
    · simp only [Candidate.exports, Option.getD_some, List.mem_cons, List.not_mem_nil, or_false] at he
      rcases he with rfl | rfl
      · exact ⟨some (.int 15), rfl, by simp⟩
      · exact ⟨some (.int 20), rfl, by simp⟩
  total := by
    intro c hc x hx
    simp only [rivals, List.mem_cons, List.not_mem_nil, or_false] at hc
    rcases hc with rfl | rfl
    all_goals
      have hx' : Except.ok _ = Except.ok x := hx
      cases hx'
      exact ⟨_, rfl⟩

/-- Of the two rivals the second is chosen. -/
theorem resolve_rank_rivals :
    (rivals.map (·.path)).Nodup ∧ ExactScores plainEngine.settings storeSignature rivals ∧
      ∃ r c, (plainEngine.resolve {} (plainEngine.rank rivals).1 storeSignature).1 = .ok (r, c) ∧
        c.path = "/b.py" := by
  have hp : (rivals.map (·.path)).Nodup := by decide
  obtain ⟨hiff, hbest⟩ := resolve_rank_optimum plainEngine {} storeSignature rivals hp rivals_exact
  obtain ⟨r, c, h⟩ := hiff.mpr ⟨rivals[0], by simp [rivals], by simp [rivals, Candidate.exports],
    _, List.mem_cons_self, rfl, _, rfl⟩
  refine ⟨hp, rivals_exact, r, c, h, ?_⟩
  obtain ⟨hc, x, hx, -, hall, -⟩ := hbest r c h
  simp only [rivals, List.mem_cons, List.not_mem_nil, or_false] at hc
  rcases hc with rfl | rfl
  · -- the first cannot have been chosen: the second has an export that is worth more
    obtain ⟨y, hy, hlt⟩ := hall rivals[1] (by simp [rivals]) (by simp [rivals])
      ⟨_, List.mem_cons_self, rfl, _, rfl⟩
    have hx' : Except.ok (some _) = Except.ok (some x) := hx
    have hy' : Except.ok (some _) = Except.ok (some y) := hy
    cases hx'
    cases hy'
    exact absurd hlt (by decide)
  · rfl

end ShapeSearch.Ranking
