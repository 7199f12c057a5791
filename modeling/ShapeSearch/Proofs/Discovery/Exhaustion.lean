import Mathlib.Data.List.Forall2
import ShapeSearch.Proofs.Ranking

/-!
# Why nothing was found

When no candidate can be chosen, the error shows the first candidates, each with the reason why it was not
chosen.  The reasons are written down while candidates are tried, under their paths, so they are complete
only if every candidate has been tried (`Recorded`):

    Recorded s sig seen reasons → … → Recorded s sig (seen ++ l) out             (tryGroups_recorded)

A reason tells the truth (`Explains`): there are no exports, or validating them failed, or it is the
mismatch of the first export.
-/

namespace ShapeSearch

namespace Ranking

open Matching (unloaded)

/-! ## The reason for one candidate -/

/-- Why a candidate was not chosen: it has no exports; or its exports could not be validated, because a
number was too large or a match broken; or none of them fits, and the first constraint that the first of
them fails is named. -/
def Explains (s : Settings) (sig : Signature) (c : Candidate) (why : String) : Prop :=
  match c.exports with
  | [] => why = unloaded ++ (LoadError.noMetadata c.path).message ++ ")"
  | e :: r =>
    (∃ m, Resolution.resolve s (e :: r) sig = .error m ∧ (m = .tooLarge ∨ m = .brokenGroup) ∧
      why = "validation failed (" ++ m.message ++ ")") ∨
    (Resolution.resolve s (e :: r) sig = .ok none ∧ Matching.mismatch e sig = some why ∧ why ≠ "")

theorem opens_append (a b c : String) : a.toList <+: (a ++ b ++ c).toList := by
  rw [String.toList_append, String.toList_append, List.append_assoc]
  exact List.prefix_append _ _

section Reason

variable {s : Settings} {sig : Signature} {c : Candidate} {why : String}

theorem reasonFor_cons {e : ExportEntry} {r : ExportMetadata} (h : Matching.mismatch e sig = some why) :
    reasonFor (e :: r) sig = why := by
  have hne : why ≠ "" := fun heq => Matching.mismatch_ne_empty (heq ▸ h)
  rw [reasonFor, List.findSome?_cons, h]
  simp [Matching.nonEmpty, hne]

theorem explains_of_attempt (hw : s.NumericWeights) (h : attempt s sig c = .error why) :
    Explains s sig c why := by
  unfold attempt at h
  unfold Explains
  cases hx : c.exports with
  | nil =>
    rw [hx] at h
    exact (Except.error.inj h).symm
  | cons e r =>
    rw [hx] at h
    have hgives : Gives (fun _ => True) (Resolution.resolve s (e :: r) sig) :=
      Resolution.resolve_gives hw (e :: r)
    cases hres : Resolution.resolve s (e :: r) sig with
    | error m =>
      rw [hres] at h hgives
      exact .inl ⟨m, hres, hgives, (Except.error.inj h).symm⟩
    | ok out =>
      rw [hres] at h
      cases out with
      | some x => cases h
      | none =>
        obtain ⟨text, htext⟩ := Resolution.mismatch_of_resolve_none hres e List.mem_cons_self
        have heq : text = why := by
          rw [← reasonFor_cons (r := r) htext]
          exact Except.error.inj h
        subst heq
        exact .inr ⟨hres, htext, fun hempty => Matching.mismatch_ne_empty (hempty ▸ htext)⟩

/-- A text that has none of the words of a reason is no reason. -/
theorem Explains.ne {t : String} (h : Explains s sig c why)
    (hmark : ∀ mark ∈ Matching.afterLabel ++ Matching.openings, ¬ mark.toList <:+: t.toList)
    (hload : ¬ unloaded.toList <+: t.toList) (hfail : ¬ "validation failed (".toList <+: t.toList) :
    why ≠ t := by
  rintro rfl
  unfold Explains at h
  split at h
  · rw [h] at hload
    exact hload (opens_append _ _ _)
  · rcases h with ⟨m, -, -, hm⟩ | ⟨-, hmis, -⟩
    · rw [hm] at hfail
      exact hfail (opens_append _ _ _)
    · exact Matching.mismatch_ne_of_unmarked hmark hmis

/-- A reason opens with the words for a failure to load exactly if there are no exports, unless the first
export is itself called by these words. -/
theorem Explains.unloaded_iff (h : Explains s sig c why)
    (hlabel : ∀ e ∈ c.exports.head?, ¬ unloaded.toList <+: (Matching.label e).toList) :
    unloaded.toList <+: why.toList ↔ c.exports = [] := by
  unfold Explains at h
  split at h
  · next hx =>
    rw [h]
    exact ⟨fun _ => hx, fun _ => opens_append _ _ _⟩
  · next e r hx =>
    rw [hx] at hlabel ⊢
    refine ⟨fun hp => ?_, fun hnil => by cases hnil⟩
    rcases h with ⟨m, -, -, hm⟩ | ⟨-, hmis, -⟩
    · -- of two openings of one text one opens the other, and here neither does
      rw [hm] at hp
      rcases List.prefix_or_prefix_of_prefix hp (opens_append _ _ _) with h | h
      · exact absurd h (by decide)
      · exact absurd h (by decide)
    · exact absurd (Matching.unloaded_prefix_label hmis hp) (hlabel e rfl)

end Reason

/-! ## The loops -/

/-- For every candidate seen so far the reason why it was not chosen is written down under its path. -/
def Recorded (s : Settings) (sig : Signature) (seen : List Candidate) (reasons : Fields String) : Prop :=
  ∀ c ∈ seen, ∃ why, attempt s sig c = .error why ∧ reasons.get? c.path = some why

section Loops

variable {s : Settings} {sig : Signature} {seen : List Candidate} {reasons : Fields String}

theorem Recorded.put {c : Candidate} {why : String} (h : Recorded s sig seen reasons)
    (hc : attempt s sig c = .error why) (hnew : c.path ∉ seen.map (·.path)) :
    Recorded s sig (seen ++ [c]) (reasons.put c.path why) := by
  intro d hd
  rcases List.mem_append.mp hd with hd | hd
  · obtain ⟨why', ha, hr⟩ := h d hd
    have hne : d.path ≠ c.path := fun heq => hnew (heq ▸ List.mem_map_of_mem hd)
    exact ⟨why', ha, (Fields.get?_put_of_ne reasons why hne).trans hr⟩
  · rw [List.mem_singleton.mp hd]
    exact ⟨why, hc, Fields.get?_put_self _ _ _⟩

theorem tryAll_isSome (l : List Candidate) :
    ∀ (b : Choice) (reasons : Fields String), (tryAll s sig l (some b) reasons).1 ≠ none := by
  induction l with
  | nil => exact fun b reasons h => by cases h
  | cons c r ih =>
    intro b reasons
    rw [tryAll]
    split
    · rw [better]
      split
      · exact ih _ _
      · exact ih _ _
    · exact ih _ _

theorem tryAll_recorded (l : List Candidate) :
    ∀ (seen : List Candidate) (reasons out : Fields String), Recorded s sig seen reasons →
      ((seen ++ l).map (·.path)).Nodup → tryAll s sig l none reasons = (none, out) →
      Recorded s sig (seen ++ l) out := by
  induction l with
  | nil =>
    intro seen reasons out h _ htry
    cases htry
    simpa using h
  | cons c r ih =>
    intro seen reasons out h hn htry
    rw [tryAll] at htry
    split at htry
    · exact absurd (congrArg Prod.fst htry) (tryAll_isSome r _ _)
    · next why hc =>
      rw [List.append_cons] at hn ⊢
      have hnew : c.path ∉ seen.map (·.path) := by
        rw [List.map_append, List.map_append] at hn
        have hpre := (List.nodup_append.mp hn).1
        exact fun hmem => (List.nodup_append.mp hpre).2.2 _ hmem _ (List.mem_singleton_self _) rfl
      exact ih _ _ _ (h.put hc hnew) hn htry

/-- If the loop over the groups ends without a choice, all candidates have been tried.  Every round
consumes at least one candidate, so as many rounds as there are candidates are enough. -/
theorem tryGroups_recorded (n : Nat) :
    ∀ (l seen : List Candidate) (reasons out : Fields String), l.length ≤ n →
      Recorded s sig seen reasons → ((seen ++ l).map (·.path)).Nodup →
      tryGroups s sig n l reasons = (none, out) → Recorded s sig (seen ++ l) out := by
  induction n with
  | zero =>
    intro l seen reasons out hlen h _ htry
    rw [List.eq_nil_of_length_eq_zero (Nat.le_zero.mp hlen)] at htry ⊢
    cases htry
    simpa using h
  | succ n ih =>
    intro l seen reasons out hlen h hn htry
    cases l with
    | nil =>
      cases htry
      simpa using h
    | cons c r =>
      have hsplit : seen ++ c :: r = (seen ++ c :: r.takeWhile fun d => d.score.eq c.score) ++
          r.dropWhile fun d => d.score.eq c.score := by
        rw [List.append_assoc, List.cons_append, List.takeWhile_append_dropWhile]
      have hrest : (r.dropWhile fun d => d.score.eq c.score).length ≤ n := by
        have := (List.dropWhile_sublist (fun d : Candidate => d.score.eq c.score) (l := r)).length_le
        simp only [List.length_cons] at hlen
        omega
      rw [hsplit] at hn ⊢
      rw [tryGroups] at htry
      split at htry
      · cases htry
      · next reasons' hgroup =>
        have hgn := (List.nodup_append.mp (List.map_append ▸ hn)).1
        exact ih _ _ _ _ hrest (tryAll_recorded _ seen reasons reasons' h hgn hgroup) hn htry

theorem choose_recorded {ranked : List Candidate} {out : Fields String}
    (hn : (ranked.map (·.path)).Nodup) (h : choose s sig ranked = (none, out)) :
    Recorded s sig ranked out :=
  tryGroups_recorded _ ranked [] [] out (Nat.le_refl _) (by simp [Recorded]) hn h

end Loops

end Ranking

namespace Engine

open Matching (unloaded)

/-! ## Near misses -/

/-- A near miss shows a candidate as it is, and tells why it was not chosen. -/
structure Tells (s : Settings) (sig : Signature) (c : Candidate) (m : NearMiss) : Prop where
  path : m.path = c.path
  score : m.score = c.score
  breakdown : m.breakdown = c.breakdown
  reason : Ranking.Explains s sig c m.reason
  unloaded_iff : (∀ e ∈ c.exports.head?, ¬ unloaded.toList <+: (Matching.label e).toList) →
    (unloaded.toList <+: m.reason.toList ↔ c.exports = [])
  attempted : m.reason ≠ "not attempted"
  specific : m.reason ≠ "no export matches the signature"

variable {eng : Engine} {w : World} {ranked : List Candidate} {sig : Signature} {err : NotFound}

theorem resolve_eq_notFound (h : (eng.resolve w ranked sig).1 = .error (.notFound err)) :
    ∃ reasons limit, Ranking.choose eng.settings sig ranked = (none, reasons) ∧
      missLimit eng.settings = .ok limit ∧ err.nearMisses = nearMisses limit ranked reasons := by
  unfold resolve at h
  split at h
  · simp only at h
    split at h <;> cases h
  · next reasons hchoose =>
    simp only at h
    split at h
    · next err' hfound =>
      cases h
      obtain ⟨limit, hlimit, hfound⟩ := bind_eq_ok.mp hfound
      obtain ⟨lines, -, hfound⟩ := bind_eq_ok.mp hfound
      cases hfound
      exact ⟨reasons, limit, hchoose, hlimit, rfl⟩
    · cases h

theorem tells_of_explains {s : Settings} {c : Candidate} {why : String}
    (h : Ranking.Explains s sig c why) : Tells s sig c ⟨c.path, c.score, c.breakdown, why⟩ where
  path := rfl
  score := rfl
  breakdown := rfl
  reason := h
  unloaded_iff := h.unloaded_iff
  attempted := h.ne (by decide) (by decide) (by decide)
  specific := h.ne (by decide) (by decide) (by decide)

/-- When nothing is found, the near misses are the first candidates in order, as many as are asked for,
and each of them tells the truth about its candidate. -/
theorem nearMisses_of_notFound (hn : (ranked.map (·.path)).Nodup) (hw : eng.settings.NumericWeights)
    (h : (eng.resolve w ranked sig).1 = .error (.notFound err)) :
    ∃ limit, missLimit eng.settings = .ok limit ∧
      List.Forall₂ (Tells eng.settings sig) (ranked.take (max limit 0).toNat) err.nearMisses := by
  obtain ⟨reasons, limit, hchoose, hlimit, hmisses⟩ := resolve_eq_notFound h
  have hrec := Ranking.choose_recorded hn hchoose
  have hmax : (max limit 0).toNat = limit.toNat := by omega
  refine ⟨limit, hlimit, ?_⟩
  rw [hmisses, hmax, nearMisses, List.forall₂_map_right_iff, List.forall₂_same]
  intro c hc
  obtain ⟨why, hattempt, hreason⟩ := hrec c (List.mem_of_mem_take hc)
  rw [hreason]
  exact tells_of_explains (Ranking.explains_of_attempt hw hattempt)

/-- The reasons of the near misses that an outcome shows. -/
def shownReasons : Except Failure (SearchResult × Candidate) → List String
  | .error (.notFound err) => err.nearMisses.map (·.reason)
  | _ => []

theorem notFound_of_shownReasons {r : Except Failure (SearchResult × Candidate)} {why : String}
    {whys : List String} (h : shownReasons r = why :: whys) :
    ∃ err, r = .error (.notFound err) ∧ err.nearMisses.map (·.reason) = why :: whys := by
  unfold shownReasons at h
  split at h
  · next err => exact ⟨err, rfl, h⟩
  · cases h

/-- An engine with a weight that no float can hold. -/
def heavyEngine : Engine :=
  { Ranking.plainEngine with
    settings := { scoring := .obj [("target", .obj [("typeMatch", .ofNat (Nat.pow 10 400))])] } }

def directExport (name kind : String) : ExportEntry :=
  ⟨some name, ⟨.direct, none⟩, { name := some name, kind }⟩

/-- A file without exports, one whose second export fits, and one whose only export does not. -/
def strangers : List Candidate :=
  [{ path := "/a.py", fileName := "a.py", relativePath := "/a.py", score := .int 3 },
   { path := "/b.py", fileName := "b.py", relativePath := "/b.py", score := .int 2,
     metadata := some [directExport "f" "function", directExport "A" "class"] },
   { path := "/c.py", fileName := "c.py", relativePath := "/c.py", score := .int 1,
     metadata := some [directExport "f" "function"] }]

def classX : Signature := { type := some .classDef, exports := some "X" }

theorem numericWeights_heavy : heavyEngine.settings.NumericWeights := by
  refine ⟨_, rfl, fun p hp => ?_⟩
  rw [List.mem_singleton.mp hp]
  rfl

theorem shownReasons_strangers : shownReasons (heavyEngine.resolve {} strangers classX).1 =
    ["could not be loaded (No export metadata for /a.py)",
     "validation failed (int too large to convert to float)", "f is a function, expected class"] := by
  decide +kernel

theorem nearMisses_of_notFound_strangers :
    (strangers.map (·.path)).Nodup ∧ heavyEngine.settings.NumericWeights ∧
      ∃ err, (heavyEngine.resolve {} strangers classX).1 = .error (.notFound err) ∧
        List.Forall₂ (Tells heavyEngine.settings classX) strangers err.nearMisses := by
  have hn : (strangers.map (·.path)).Nodup := by decide
  obtain ⟨err, herr, -⟩ := notFound_of_shownReasons shownReasons_strangers
  obtain ⟨limit, hlimit, hall⟩ := nearMisses_of_notFound hn numericWeights_heavy herr
  refine ⟨hn, numericWeights_heavy, err, herr, ?_⟩
  obtain rfl : 3 = limit := Except.ok.inj hlimit
  exact hall

/-- With a weight that is too large, the reason of the second file is not the mismatch of its first
export. -/
theorem reason_of_heavy_weight :
    (strangers.map (·.path)).Nodup ∧ heavyEngine.settings.NumericWeights ∧
      (∃ j, Signature.normalize j = .ok classX) ∧
      ∃ err, (heavyEngine.resolve {} strangers classX).1 = .error (.notFound err) ∧
        (strangers[1].exports.head?.bind fun e => Matching.mismatch e classX) =
          some "f is a function, expected class" ∧
        err.nearMisses[1]?.map (·.reason) =
          some "validation failed (int too large to convert to float)" := by
  obtain ⟨err, herr, hreasons⟩ := notFound_of_shownReasons shownReasons_strangers
  refine ⟨by decide, numericWeights_heavy,
    ⟨.obj [("type", .str "class"), ("exports", .str "X")], rfl⟩, err, herr, by decide, ?_⟩
  rw [← List.getElem?_map, hreasons]
  rfl

end Engine

end ShapeSearch
