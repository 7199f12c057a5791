import Mathlib.Data.List.Basic
import ShapeSearch.Proofs.Agreement
import ShapeSearch.Proofs.Number.Line

/-!
# The export chosen from a file

`Resolution.resolve` keeps the best export seen so far and lets another take its place only if that is
worth strictly more.  So it ends with the first of the exports that are worth most:

    resolve s es sig = .ok out → Chosen s sig es out                       (resolve_chosen)

The same loop runs over the candidates of equal score, so `FirstBest` is stated for any list and any way
of rating its members.
-/

namespace ShapeSearch

open Number (Line)

/-! ## Keeping the first maximum -/

section FirstBest

variable {α : Type} (v : α → Option Line)

/-- What is kept of a list whose members may have a rating: nothing if none has one, else a member with
the highest rating, and the first of these. -/
def FirstBest (l : List α) : Option α → Prop
  | none => ∀ a ∈ l, v a = none
  | some a => ∃ pre post x, l = pre ++ a :: post ∧ v a = some x ∧
      (∀ b ∈ pre, ∀ y, v b = some y → y < x) ∧ ∀ b ∈ post, ∀ y, v b = some y → y ≤ x

theorem firstBest_nil : FirstBest v [] none := by
  simp [FirstBest]

variable {v}

variable {l : List α} {a b : α} {y x : Line}

theorem FirstBest.mem (h : FirstBest v l (some a)) : a ∈ l := by
  obtain ⟨pre, post, x, rfl, -⟩ := h
  simp

theorem FirstBest.le (h : FirstBest v l (some a)) (hb : b ∈ l) (hy : v b = some y) :
    ∃ x, v a = some x ∧ y ≤ x := by
  obtain ⟨pre, post, x, rfl, hx, hpre, hpost⟩ := h
  refine ⟨x, hx, ?_⟩
  rcases List.mem_append.mp hb with hb | hb
  · exact (hpre b hb y hy).le
  · rcases List.mem_cons.mp hb with rfl | hb
    · rw [hx] at hy
      exact (Option.some.inj hy).ge
    · exact hpost b hb y hy

theorem FirstBest.snoc_none {best : Option α} (h : FirstBest v l best) (ha : v a = none) :
    FirstBest v (l ++ [a]) best := by
  cases best with
  | none =>
    intro b hb
    rcases List.mem_append.mp hb with hb | hb
    · exact h b hb
    · rw [List.mem_singleton.mp hb, ha]
  | some b =>
    obtain ⟨pre, post, x, rfl, hx, hpre, hpost⟩ := h
    refine ⟨pre, post ++ [a], x, by simp, hx, hpre, fun c hc y hy => ?_⟩
    rcases List.mem_append.mp hc with hc | hc
    · exact hpost c hc y hy
    · rw [List.mem_singleton.mp hc, ha] at hy
      cases hy

theorem FirstBest.snoc_first (h : FirstBest v l none) (ha : v a = some x) : FirstBest v (l ++ [a]) (some a) := by
  refine ⟨l, [], x, rfl, ha, fun b hb y hy => ?_, by simp⟩
  rw [h b hb] at hy
  cases hy

theorem FirstBest.snoc_lt (h : FirstBest v l (some b)) (hb : v b = some y) (ha : v a = some x) (hlt : y < x) :
    FirstBest v (l ++ [a]) (some a) := by
  refine ⟨l, [], x, rfl, ha, fun c hc z hz => ?_, by simp⟩
  obtain ⟨y', hy', hle⟩ := h.le hc hz
  rw [hb, Option.some.injEq] at hy'
  exact lt_of_le_of_lt (hy' ▸ hle) hlt

theorem FirstBest.snoc_ge (h : FirstBest v l (some b)) (hb : v b = some y) (ha : v a = some x) (hge : x ≤ y) :
    FirstBest v (l ++ [a]) (some b) := by
  obtain ⟨pre, post, z, rfl, hz, hpre, hpost⟩ := h
  rw [hb, Option.some.injEq] at hz
  subst hz
  refine ⟨pre, post ++ [a], y, by simp, hb, hpre, fun c hc w hw => ?_⟩
  rcases List.mem_append.mp hc with hc | hc
  · exact hpost c hc w hw
  · rw [List.mem_singleton.mp hc, ha, Option.some.injEq] at hw
    exact hw ▸ hge

end FirstBest

namespace Resolution

open Matching

/-! ## What an export is worth -/

/-- An export passes: it has the shape that is asked for, and it agrees with the signature. -/
def Passes (s : Settings) (sig : Signature) (e : ExportEntry) : Prop :=
  hasShape e sig = true ∧ ∃ p, validate s e sig = .ok (some p)

/-- What an export is worth: the points of its validation, and on top of them the weight for the way it
is reached.  Nothing if it does not pass. -/
def worth (s : Settings) (sig : Signature) (e : ExportEntry) : Except Misfit (Option Number) := do
  if ← checkShape e sig then
    match ← validate s e sig with
    | none => .ok none
    | some p =>
      .ok (some (← Weights.addAll p.total ((accessWeight (← s.weights "target") e sig).map (·.2))))
  else .ok none

/-- An export can be rated: what it is worth can be worked out, and lies on the number line. -/
def Rated (s : Settings) (sig : Signature) (e : ExportEntry) : Prop :=
  ∃ r, worth s sig e = .ok r ∧ ∀ t, r = some t → t.isDefined = true

/-- The rating of an export, if it passes. -/
def rating (s : Settings) (sig : Signature) (e : ExportEntry) : Option Line :=
  match worth s sig e with
  | .ok (some t) => some t.line
  | _ => none

theorem addAll_append (t : Number) (xs ys : List Json) :
    Weights.addAll t (xs ++ ys) = (Weights.addAll t xs).bind fun u => Weights.addAll u ys := by
  induction xs generalizing t with
  | nil => rfl
  | cons v r ih =>
    simp only [List.cons_append, Weights.addAll]
    cases v.numeric? with
    | none => rfl
    | some n =>
      simp only [bind, Except.bind]
      cases t.add n with
      | error m => rfl
      | ok u => exact ih u

theorem attempt_eq_worth (s : Settings) (sig : Signature) (e : ExportEntry) :
    (attempt s e sig).map (·.map (·.points.total)) = worth s sig e := by
  unfold attempt worth validate Points.of Weights.total
  simp only [bind, Except.bind]
  cases checkShape e sig with
  | error m => rfl
  | ok fits =>
    cases fits with
    | false => rfl
    | true =>
    simp only [if_true]
    cases hw : s.weights "target" with
    | error m => rfl
    | ok ws =>
      cases ha : agreement s ws e sig with
      | error m => simp [ha, Except.map]
      | ok r =>
        cases r with
        | none => simp [ha, Except.map]
        | some b =>
          simp only [ha, List.map_append, addAll_append, Except.bind]
          cases Weights.addAll (.int 0) (b.map (·.2)) with
          | error m => rfl
          | ok t =>
            cases h : Weights.addAll t ((accessWeight ws e sig).map (·.2)) with
            | error m => simp [h, Except.map]
            | ok u => simp [h, Except.map]

section Rating

variable {s : Settings} {sig : Signature} {e : ExportEntry}

theorem Rated.passes_iff (h : Rated s sig e) : Passes s sig e ↔ ∃ t, worth s sig e = .ok (some t) := by
  obtain ⟨r, hr, -⟩ := h
  rw [hr]
  obtain ⟨fits, hfits, hr⟩ := bind_eq_ok.mp hr
  unfold Passes
  rw [(checkShape_eq_ok.mp hfits).2]
  cases fits with
  | false =>
    simp only [Bool.false_eq_true, if_false, Except.ok.injEq] at hr
    simp [← hr]
  | true =>
    simp only [if_true, bind, Except.bind] at hr
    cases hv : validate s e sig with
    | error m => simp [hv] at hr
    | ok p =>
      cases p with
      | none =>
        simp only [hv, Except.ok.injEq] at hr
        simp [← hr]
      | some p =>
        simp only [hv] at hr
        split at hr
        · cases hr
        · split at hr
          · cases hr
          · simp only [Except.ok.injEq] at hr
            simp [← hr]

/-- An export that can be rated passes if and only if it has a rating. -/
theorem Rated.rating_isSome_iff (h : Rated s sig e) : (rating s sig e).isSome = true ↔ Passes s sig e := by
  rw [h.passes_iff]
  obtain ⟨r, hr, -⟩ := h
  unfold rating
  cases r <;> simp [hr]

theorem attempt_cases (h : Rated s sig e) :
    (attempt s e sig = .ok none ∧ rating s sig e = none) ∨
      ∃ x, attempt s e sig = .ok (some x) ∧ x.entry = e ∧ x.points.total.isDefined = true ∧
        worth s sig e = .ok (some x.points.total) ∧ rating s sig e = some x.points.total.line := by
  obtain ⟨r, hr, hd⟩ := h
  have heq := attempt_eq_worth s sig e
  rw [hr] at heq
  cases ha : attempt s e sig with
  | error m => simp [ha, Except.map] at heq
  | ok o =>
    cases o with
    | none =>
      left
      simp only [ha, Except.map, Option.map_none, Except.ok.injEq] at heq
      refine ⟨rfl, ?_⟩
      unfold rating
      rw [hr, ← heq]
    | some x =>
      right
      simp only [ha, Except.map, Option.map_some, Except.ok.injEq] at heq
      subst heq
      refine ⟨x, rfl, ?_, hd _ rfl, hr, by rw [rating, hr]⟩
      -- the entry of an attempt is the one that was tried
      obtain ⟨fits, -, ha⟩ := bind_eq_ok.mp ha
      split at ha
      · simp only [bind, Except.bind] at ha
        split at ha
        · cases ha
        · split at ha
          · cases ha
          · split at ha
            · cases ha
            · split at ha
              · cases ha
              · simp only [Except.ok.injEq, Option.some.injEq] at ha
                rw [← ha]
      · cases ha

end Rating

/-! ## The loop over the exports -/

/-- What has been chosen among the exports seen so far: the first of those with the highest rating, with
its own points. -/
structure Chosen (s : Settings) (sig : Signature) (seen : List ExportEntry) (best : Option Resolved) :
    Prop where
  first : FirstBest (rating s sig) seen (best.map Resolved.entry)
  worth : ∀ x, best = some x → worth s sig x.entry = .ok (some x.points.total)
  defined : ∀ x, best = some x → x.points.total.isDefined = true

theorem Chosen.nil (s : Settings) (sig : Signature) : Chosen s sig [] none :=
  ⟨firstBest_nil _, by simp, by simp⟩

variable {s : Settings} {sig : Signature}

theorem Chosen.skip {seen : List ExportEntry} {best : Option Resolved} {e : ExportEntry} (h : Chosen s sig seen best)
    (he : rating s sig e = none) : Chosen s sig (seen ++ [e]) best :=
  ⟨h.first.snoc_none he, h.worth, h.defined⟩

theorem Chosen.better {seen : List ExportEntry} {best : Option Resolved} {x : Resolved} (h : Chosen s sig seen best)
    (hd : x.points.total.isDefined) (hw : Resolution.worth s sig x.entry = .ok (some x.points.total)) :
    Chosen s sig (seen ++ [x.entry]) (Resolution.better best x) := by
  have hx : rating s sig x.entry = some x.points.total.line := by rw [rating, hw]
  cases best with
  | none =>
    have hf : FirstBest (rating s sig) (seen ++ [x.entry]) (some x.entry) := h.first.snoc_first hx
    exact ⟨hf, by simp [Resolution.better, hw], by simp [Resolution.better, hd]⟩
  | some b =>
    have hb : rating s sig b.entry = some b.points.total.line := by rw [rating, h.worth b rfl]
    have hbd := h.defined b rfl
    cases hlt : b.points.total.lt x.points.total with
    | true =>
      have hbest : Resolution.better (some b) x = some x := by simp [Resolution.better, hlt]
      rw [hbest]
      have hf : FirstBest (rating s sig) (seen ++ [x.entry]) (some x.entry) :=
        FirstBest.snoc_lt h.first hb hx ((Number.lt_iff_line hbd hd).mp hlt)
      exact ⟨hf, by simp [hw], by simp [hd]⟩
    | false =>
      have hbest : Resolution.better (some b) x = some b := by simp [Resolution.better, hlt]
      rw [hbest]
      have hf : FirstBest (rating s sig) (seen ++ [x.entry]) (some b.entry) :=
        FirstBest.snoc_ge h.first hb hx ((Number.not_lt_iff_line hbd hd).mp hlt)
      exact ⟨hf, by simp [h.worth b rfl], by simp [hbd]⟩

theorem resolveFrom_chosen (es : List ExportEntry) :
    ∀ (seen : List ExportEntry) (best : Option Resolved), Chosen s sig seen best →
      (∀ e ∈ es, Rated s sig e) →
      ∃ out, resolveFrom s sig es best = .ok out ∧ Chosen s sig (seen ++ es) out := by
  induction es with
  | nil =>
    intro seen best h _
    exact ⟨best, rfl, by simpa using h⟩
  | cons e r ih =>
    intro seen best h hr
    have hrest : ∀ e ∈ r, Rated s sig e := fun a ha => hr a (List.mem_cons_of_mem e ha)
    rw [List.append_cons]
    rcases attempt_cases (hr e List.mem_cons_self) with ⟨ha, hn⟩ | ⟨x, ha, rfl, hd, hw, -⟩
    · simp only [resolveFrom, ha, bind, Except.bind]
      exact ih _ _ (h.skip hn) hrest
    · simp only [resolveFrom, ha, bind, Except.bind]
      exact ih _ _ (h.better hd hw) hrest

theorem resolve_chosen {es : ExportMetadata} {ws : Fields Json} (hws : s.weights "target" = .ok ws)
    (hr : ∀ e ∈ es, Rated s sig e) : ∃ out, resolve s es sig = .ok out ∧ Chosen s sig es out := by
  obtain ⟨out, ho, hc⟩ := resolveFrom_chosen es [] none (Chosen.nil s sig) hr
  refine ⟨out, ?_, by simpa using hc⟩
  simp only [resolve, hws, bind, Except.bind]
  exact ho

end Resolution

end ShapeSearch
