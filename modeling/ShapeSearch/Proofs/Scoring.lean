import Mathlib.Algebra.BigOperators.Group.List.Basic
import ShapeSearch.Proofs.Fields
import ShapeSearch.Proofs.Number.Finite
import ShapeSearch.Scoring

/-!
# Factors stand apart

A factor reads one weight table (`Factor.table`), and no two factors read the same.  So other weights in one
table move the points of one factor:

    g ≠ f → sc'.points g c sig text = sc.points g c sig text                            (points_eq)

A breakdown has one entry for each factor, in order, whatever the other factors give (`breakdownFrom_eq_ok`).
-/

namespace ShapeSearch

/-- The weight table that a factor reads. -/
def Factor.table : Factor → String
  | .path => "paths"
  | .extension => "extensions"
  | f => f.key

theorem Factor.table_ne {f g : Factor} (h : g ≠ f) : g.table ≠ f.table := by
  cases f <;> cases g <;> first | exact absurd rfl h | decide

theorem Factor.mem_all (f : Factor) : f ∈ all := by
  cases f <;> decide

/-- The same settings but for one weight table. -/
def Settings.DifferIn (table : String) (s s' : Settings) : Prop :=
  ∃ ws ws', s.scoring = .obj ws ∧ s' = { s with scoring := .obj ws' } ∧
    ∀ name, name ≠ table → Fields.get? ws' name = Fields.get? ws name

theorem Settings.DifferIn.weights_eq {table name : String} {s s' : Settings} (h : DifferIn table s s')
    (hname : name ≠ table) : s'.weights name = s.weights name := by
  obtain ⟨ws, ws', hs, rfl, hget⟩ := h
  simp only [weights, hs, hget name hname]

namespace Scoring

variable {sc sc' : Scoring} {f : Factor} {c : Candidate} {sig : Signature} {content : String}

theorem customPoints_eq {table : String} (h : sc.settings.DifferIn table sc'.settings)
    (hscorers : sc'.scorers = sc.scorers) (htable : "custom" ≠ table) :
    sc'.customPoints c sig content = sc.customPoints c sig content := by
  obtain ⟨ws, ws', hs, hs', hget⟩ := h
  simp only [customPoints, hs, hs', hget _ htable, hscorers]

/-- A factor does not see the table of another one. -/
theorem points_eq (h : sc.settings.DifferIn f.table sc'.settings) (hscorers : sc'.scorers = sc.scorers)
    {g : Factor} (hg : g ≠ f) : sc'.points g c sig content = sc.points g c sig content := by
  have htable := Factor.table_ne hg
  have hweights := h.weights_eq htable
  cases g with
  | custom => exact customPoints_eq h hscorers htable
  | _ =>
    simp only [Factor.table, Factor.key] at hweights
    simp only [points, pathPoints, extensionPoints, fileNamePoints, typeHintPoints, methodPoints, exportPoints,
      namePoints, hweights]

/-! ## Breakdowns -/

/-- A table with a number for each factor. -/
def tabled (v : Factor → Number) : Fields Number :=
  Factor.all.map fun g => (g.key, v g)

/-- What a breakdown shows for a factor: its points, added to nothing. -/
def shown (sc : Scoring) (c : Candidate) (sig : Signature) (content : String) (f : Factor) : Number :=
  ((sc.points f c sig content).bind (Number.int 0).add).toOption.getD 0

/-- A breakdown goes on with one entry for each factor. -/
theorem breakdownFrom_eq_ok (fs : List Factor) : ∀ (out b : Fields Number),
    (out.keys ++ fs.map Factor.key).Nodup → sc.breakdownFrom c sig content fs out = .ok b →
      b = out ++ fs.map fun g => (g.key, sc.shown c sig content g) := by
  induction fs with
  | nil =>
    intro out b _ h
    cases h
    simp
  | cons g fs ih =>
    intro out b hd h
    obtain ⟨n, hn, h⟩ := bind_eq_ok.mp h
    obtain ⟨sum, hsum, h⟩ := bind_eq_ok.mp h
    have hnew : g.key ∉ out.keys := fun hmem => (List.nodup_append.mp hd).2.2 _ hmem _ (by simp) rfl
    rw [Fields.get?_eq_none_iff.mpr hnew, Option.getD_none] at hsum
    have hshown : sc.shown c sig content g = sum := by
      rw [shown, hn, Except.bind, show (Number.int 0).add n = .ok sum from hsum]
      rfl
    rw [Fields.put_of_not_mem hnew] at h
    rw [ih _ b (by simpa [Fields.keys] using hd) h, List.map_cons, hshown, List.append_assoc]
    rfl

theorem breakdown_of_score {s : Score} (hfactors : sc.factors = Factor.all) (h : sc.score c sig content = .ok s) :
    s.breakdown = tabled (sc.shown c sig content) := by
  obtain ⟨b, hb, h⟩ := bind_eq_ok.mp h
  obtain ⟨t, -, h⟩ := bind_eq_ok.mp h
  cases h
  rw [hfactors] at hb
  exact breakdownFrom_eq_ok _ [] b (by decide) hb

section Frame

variable {v v' : Factor → Number} (h : ∀ g, g ≠ f → v' g = v g)
include h

theorem tabled_frame : tabled v' = (tabled v).put f.key (v' f) := by
  cases f <;> simp [tabled, Factor.all, Factor.key, Fields.put, h]

/-- Sums over all factors differ by what one of them gives. -/
theorem sum_frame :
    ((tabled v').map (·.2.line)).sum + (v f).line = ((tabled v).map (·.2.line)).sum + (v' f).line := by
  have hrest : (Factor.all.erase f).map (v' · |>.line) = (Factor.all.erase f).map (v · |>.line) :=
    List.map_congr_left fun g hg => by rw [h g ((List.Nodup.mem_erase_iff (by decide)).mp hg).1]
  have hsum : ∀ v : Factor → Number, ((tabled v).map (·.2.line)).sum =
      (v f).line + ((Factor.all.erase f).map (v · |>.line)).sum := fun v => by
    rw [tabled, List.map_map]
    exact (List.sum_map_erase (v · |>.line) f.mem_all).symm
  rw [hsum, hsum, hrest]
  ac_rfl

end Frame

/-- The weights of one table move the points of the factor that reads it, and nothing else.  If the totals are
sums on the number line, they differ by what this factor differs. -/
theorem score_frame (hs : sc.settings.DifferIn f.table sc'.settings)
    (hfactors : sc.factors = Factor.all ∧ sc'.factors = Factor.all) (hscorers : sc'.scorers = sc.scorers) :
    (∀ g, g ≠ f → sc'.points g c sig content = sc.points g c sig content) ∧
    ∀ s s' : Score, sc.score c sig content = .ok s → sc'.score c sig content = .ok s' →
      s.breakdown.keys = Factor.all.map Factor.key ∧ s'.breakdown.keys = s.breakdown.keys ∧
      (∀ k, k ≠ f.key → s'.breakdown.get? k = s.breakdown.get? k) ∧
      ∃ n n', s.breakdown.get? f.key = some n ∧ s'.breakdown.get? f.key = some n' ∧
        (Number.AddsUp (s.breakdown.map (·.2)) s.total → Number.AddsUp (s'.breakdown.map (·.2)) s'.total →
          s'.total.line + n.line = s.total.line + n'.line) := by
  have hpoints : ∀ g, g ≠ f → sc'.points g c sig content = sc.points g c sig content :=
    fun g hg => points_eq hs hscorers hg
  refine ⟨hpoints, fun s s' h h' => ?_⟩
  have hshown : ∀ g, g ≠ f → sc'.shown c sig content g = sc.shown c sig content g := fun g hg => by
    rw [shown, hpoints g hg, shown]
  rw [breakdown_of_score hfactors.1 h, breakdown_of_score hfactors.2 h']
  have hself : ∀ v : Factor → Number, (tabled v).get? f.key = some (v f) := fun v => by cases f <;> rfl
  have hkeys : ∀ v : Factor → Number, (tabled v).keys = Factor.all.map Factor.key := fun v => rfl
  refine ⟨hkeys _, (hkeys _).trans (hkeys _).symm, fun k hk => ?_, _, _, hself _, hself _, fun ht ht' => ?_⟩
  · rw [tabled_frame hshown, Fields.get?_put_of_ne _ _ hk]
  · rw [ht, ht', List.map_map, List.map_map]
    exact sum_frame hshown

/-- Scoring with another weight for one extension. -/
def lighter : Scoring :=
  { settings := { scoring := .obj (Fields.put Defaults.scoring "extensions" (Defaults.table [(".py", 7)])) } }

def emptyFile : Candidate := { path := "/src/a.py", fileName := "a.py", relativePath := "src/a.py" }

/-- Whether an empty file gets a whole number of points that add up. -/
def awards (sc : Scoring) (k : ℤ) : Bool :=
  (sc.score emptyFile {} "").toOption.any fun s =>
    Number.addsUpWhole (s.breakdown.map (·.2)) s.total && s.total.whole? == some k

theorem score_of_awards (sc : Scoring) {k : ℤ} (h : sc.awards k) : ∃ s, sc.score emptyFile {} "" = .ok s ∧
    Number.AddsUp (s.breakdown.map (·.2)) s.total ∧ s.total.whole? = some k := by
  obtain ⟨s, hs, h⟩ := (Option.any_eq_true ..).mp h
  simp only [Bool.and_eq_true, beq_iff_eq] at h
  exact ⟨s, eq_ok_of_toOption hs, Number.addsUp_of_whole h.1, h.2⟩

/-- Three points less for the extension are three points less in all. -/
theorem score_frame_lighter : ∃ s s', ({} : Scoring).score emptyFile {} "" = .ok s ∧
    lighter.score emptyFile {} "" = .ok s' ∧ s.total.whole? = some 22 ∧ s'.total.whole? = some 19 ∧
    ∃ n n', s.breakdown.get? "extension" = some n ∧ s'.breakdown.get? "extension" = some n' ∧
      s'.total.line + n.line = s.total.line + n'.line := by
  obtain ⟨s, hs, hsum, htotal⟩ := score_of_awards {} (k := 22) (by decide +kernel)
  obtain ⟨s', hs', hsum', htotal'⟩ := score_of_awards lighter (k := 19) (by decide +kernel)
  have hdiffer : Settings.DifferIn (Factor.table .extension) {} lighter.settings :=
    ⟨_, _, rfl, rfl, fun name hname => Fields.get?_put_of_ne _ _ hname⟩
  obtain ⟨-, -, -, n, n', hn, hn', hline⟩ :=
    (@score_frame {} lighter .extension emptyFile {} "" hdiffer ⟨rfl, rfl⟩ rfl).2 s s' hs hs'
  exact ⟨s, s', hs, hs', htotal, htotal', n, n', hn, hn', hline hsum hsum'⟩

end Scoring

end ShapeSearch
