import ShapeSearch.Proofs.Discovery.History
import ShapeSearch.Proofs.Scoring

/-!
# The points of a result

A result comes with a breakdown of its score.  A fresh one is put together from two: the points that its
candidate has before it is loaded, one for each of `Evaluator.pointNames`, and the points of the export chosen
from it, one for each of `Resolution.partNames`.  No name is in both, so no points are lost:

    r.breakdown = winner.breakdown ++ export's breakdown, and r.score is the sum         (Finds.itemized)

A stored one is shown with the breakdown that was stored if that adds up to the score, and with one that only
repeats the score if not (`closeTo_storedBreakdown`).

Sums are those of `Number.sum`, which can round.  Where they do not round (`Number.AddsUp`), they are sums on
the number line.
-/

namespace ShapeSearch

open Number (Line)

/-! ## Points before loading -/

namespace Evaluator

def pointNames : List String :=
  Factor.all.map Factor.key ++ ["recency", "pattern", "quickName"]

/-- A candidate has each of the points once, and its score is their sum. -/
theorem points_evaluate {ev : Evaluator} {w : World} {path : String} {sig : Signature} {c : Candidate}
    (hfactors : ev.scoring.factors = Factor.all) (h : ev.evaluate w path sig = .ok (some c)) :
    c.breakdown.keys = pointNames ∧ Scoring.sumOf c.breakdown = .ok c.score := by
  obtain ⟨_, _, read, d, -, -, -, -, -, hscored, rfl⟩ := evaluate_eq_some h
  obtain ⟨s, recency, pattern, quickName, total, hscore, -, -, -, htotal, rfl⟩ := scored_eq_ok hscored
  obtain ⟨_, _, ha⟩ := withAliases_eq ev w _
  rw [ha]
  refine ⟨?_, htotal⟩
  have hkeys : s.breakdown.keys = Factor.all.map Factor.key := by
    rw [Scoring.breakdown_of_score hfactors hscore]
    rfl
  generalize s.breakdown = b at hkeys
  have h₁ : "recency" ∉ b.keys := by
    rw [hkeys]
    decide
  have h₂ : "pattern" ∉ (b.put "recency" recency).keys := by
    rw [Fields.keys_put, if_neg h₁, hkeys]
    decide
  have h₃ : "quickName" ∉ ((b.put "recency" recency).put "pattern" pattern).keys := by
    rw [Fields.keys_put, if_neg h₂, Fields.keys_put, if_neg h₁, hkeys]
    decide
  simp only
  rw [Fields.keys_put, if_neg h₃, Fields.keys_put, if_neg h₂, Fields.keys_put, if_neg h₁, hkeys]
  rfl

end Evaluator

/-! ## Points of an export -/

namespace Resolution

variable {b : Fields Json} {s : Settings} {sig : Signature} {x : Resolved}

/-- The names of the points of an export, by what the signature asks for and the way it is reached. -/
def partNames (sig : Signature) (e : ExportEntry) : List String :=
  (if sig.type.isSome then ["typeMatch"] else []) ++
  (if sig.name.isSome || sig.exports.isSome then ["targetName"] else []) ++
  (if !sig.methods.isEmpty then ["methodPresence"] else []) ++
  (if !sig.properties.isEmpty then ["propertyPresence"] else []) ++
  (if sig.base.isSome then ["extendsMatch"] else []) ++
  (if sig.instanceOf.isSome then ["instanceofMatch"] else []) ++
  (if e.access.type == .named && sig.exports.isSome && e.access.name == sig.exports then ["namedExport"]
    else if e.access.type == .direct then ["directExport"] else [])

theorem keys_count {ps : List Part} (h : count ps = .ok (some b)) :
    b.keys = ps.flatMap fun p => if p.asked then [p.name] else [] := by
  induction ps generalizing b with
  | nil =>
    cases h
    rfl
  | cons p r ih =>
    rw [List.flatMap_cons]
    obtain ⟨hasked, h⟩ | ⟨-, -, h⟩ | ⟨v, o, hasked, -, -, ho, h⟩ := count_cons_cases h
    · simp [hasked, ih h]
    · cases h
    · obtain ⟨rest, rfl, rfl⟩ := Option.map_eq_some_iff.mp h.symm
      rw [if_pos hasked, ← ih ho]
      rfl

theorem keys_agreement {ws : Fields Json} {e : ExportEntry} (h : agreement s ws e sig = .ok (some b)) :
    (b ++ accessWeight ws e sig).keys = partNames sig e := by
  have haccess : (accessWeight ws e sig).keys =
      if e.access.type == .named && sig.exports.isSome && e.access.name == sig.exports then ["namedExport"]
      else if e.access.type == .direct then ["directExport"] else [] := by
    unfold accessWeight
    split
    · rfl
    · split <;> rfl
  have happend : (b ++ accessWeight ws e sig).keys = b.keys ++ (accessWeight ws e sig).keys := List.map_append
  rw [happend, haccess, keys_count h, partNames]
  simp only [parts, List.flatMap_cons, List.flatMap_nil, List.append_nil, List.append_assoc]

theorem sumFrom_of_addAll : ∀ {t u : Number}, Weights.addAll t (b.map (·.2)) = .ok u →
    ∃ q, Quantity.tableOf? b = some q ∧ q.keys = b.keys ∧ Number.sumFrom t (q.map (·.2.value)) = .ok u := by
  induction b with
  | nil =>
    intro t u h
    exact ⟨[], rfl, rfl, h⟩
  | cons p r ih =>
    obtain ⟨k, v⟩ := p
    intro t u h
    rw [List.map_cons, Weights.addAll] at h
    split at h
    · next n hn =>
      obtain ⟨t', ht', h⟩ := bind_eq_ok.mp h
      obtain ⟨q, hq, hkeys, hsum⟩ := ih h
      obtain ⟨x, hx, hvalue⟩ : ∃ x, Quantity.ofJson? v = some x ∧ x.value = n := by
        cases v with
        | num m => exact ⟨.number m, rfl, Option.some.inj hn⟩
        | bool b => exact ⟨.truth b, rfl, Option.some.inj hn⟩
        | null => cases hn
        | str s => cases hn
        | arr xs => cases hn
        | obj fs => cases hn
      refine ⟨(k, x) :: q, by simp [Quantity.tableOf?, hx, hq], by simpa [Fields.keys] using hkeys, ?_⟩
      rw [List.map_cons, hvalue, Number.sumFrom, bind_ok ht']
      exact hsum
    · cases h

/-- The points of an export that is tried: one for each part, and their sum. -/
theorem points_attempt {e : ExportEntry} (h : attempt s e sig = .ok (some x)) :
    x.entry = e ∧ x.points.breakdown.keys = partNames sig e ∧
      Quantity.sumOf x.points.breakdown = .ok x.points.total := by
  obtain ⟨fits, -, h⟩ := bind_eq_ok.mp h
  split at h
  · obtain ⟨ws, -, h⟩ := bind_eq_ok.mp h
    obtain ⟨o, ho, h⟩ := bind_eq_ok.mp h
    cases o with
    | none => cases h
    | some b =>
      obtain ⟨points, hpoints, h⟩ := bind_eq_ok.mp h
      cases h
      obtain ⟨total, htotal, hpoints⟩ := bind_eq_ok.mp hpoints
      cases hpoints
      obtain ⟨q, hq, hkeys, hsum⟩ := sumFrom_of_addAll htotal
      rw [hq]
      exact ⟨rfl, hkeys.trans (keys_agreement ho), hsum⟩
  · cases h

theorem resolveFrom_attempt (es : List ExportEntry) :
    ∀ best, resolveFrom s sig es best = .ok (some x) →
      best = some x ∨ ∃ e ∈ es, attempt s e sig = .ok (some x) := by
  induction es with
  | nil =>
    intro best h
    exact .inl (Except.ok.inj h)
  | cons e r ih =>
    intro best h
    obtain ⟨o, ho, h⟩ := bind_eq_ok.mp h
    cases o with
    | none => exact (ih best h).imp_right fun ⟨e', he', ha⟩ => ⟨e', List.mem_cons_of_mem e he', ha⟩
    | some y =>
      rcases ih (better best y) h with hbest | ⟨e', he', ha⟩
      · unfold better at hbest
        split at hbest
        · cases hbest
          exact .inr ⟨e, List.mem_cons_self, ho⟩
        · split at hbest
          · cases hbest
            exact .inr ⟨e, List.mem_cons_self, ho⟩
          · exact .inl hbest
      · exact .inr ⟨e', List.mem_cons_of_mem e he', ha⟩

/-- What is chosen from a file has the points of one of its exports. -/
theorem points_resolve {es : ExportMetadata} (h : resolve s es sig = .ok (some x)) :
    x.points.breakdown.keys = partNames sig x.entry ∧
      Quantity.sumOf x.points.breakdown = .ok x.points.total := by
  obtain ⟨ws, -, h⟩ := bind_eq_ok.mp h
  obtain hbest | ⟨e, -, ha⟩ := resolveFrom_attempt es none h
  · cases hbest
  · obtain ⟨rfl, hkeys, hsum⟩ := points_attempt ha
    exact ⟨hkeys, hsum⟩

/-- The names of the points of an export differ from each other, and under their own heading from those of a
candidate. -/
theorem nodup_partNames (sig : Signature) (e : ExportEntry) :
    (Evaluator.pointNames ++ (partNames sig e).map ("target." ++ ·)).Nodup := by
  have hoptional : ∀ (asked : Bool) (name : String), (if asked then [name] else []).Sublist [name] := by
    intro asked name
    cases asked with
    | true => exact List.Sublist.refl _
    | false => exact List.nil_sublist _
  have haccess : (if e.access.type == .named && sig.exports.isSome && e.access.name == sig.exports
      then ["namedExport"] else if e.access.type == .direct then ["directExport"] else []).Sublist
      ["namedExport", "directExport"] := by
    split
    · simp
    · split <;> simp
  have hall : (partNames sig e).Sublist ["typeMatch", "targetName", "methodPresence", "propertyPresence",
      "extendsMatch", "instanceofMatch", "namedExport", "directExport"] :=
    ((((((hoptional _ _).append (hoptional _ _)).append (hoptional _ _)).append (hoptional _ _)).append
      (hoptional _ _)).append (hoptional _ _)).append haccess
  have hsub := (hall.map ("target." ++ ·)).append_left Evaluator.pointNames
  exact hsub.nodup (by decide)

end Resolution

/-! ## Results -/

namespace Engine

variable {e : Engine} {w : World} {sig : Signature} {r : SearchResult} {winner : Candidate} {signature : Json}

/-- How the score of a fresh result comes about.  Its breakdown has the points of the candidate and, under their
own heading, those of the export, each name once; the three scores are the sums of their breakdowns, and if
none of the sums rounds, the first is the sum of the other two. -/
structure Itemized (e : Engine) (w : World) (sig : Signature) (r : SearchResult) (winner : Candidate)
    (x : Resolution.Resolved) : Prop where
  found : e.Finds w sig r winner
  chosen : Resolution.resolve e.settings winner.exports sig = .ok (some x)
  breakdown : r.breakdown = winner.breakdown.map (fun p => (p.1, .number p.2)) ++
    x.points.breakdown.map fun p => ("target." ++ p.1, p.2)
  names : r.breakdown.keys = Evaluator.pointNames ++ (Resolution.partNames sig x.entry).map ("target." ++ ·)
  distinct : r.breakdown.keys.Nodup
  score : Quantity.sumOf r.breakdown = .ok r.score.value
  before : Scoring.sumOf winner.breakdown = .ok winner.score
  loaded : Quantity.sumOf x.points.breakdown = .ok x.points.total
  exact : Number.AddsUp (r.breakdown.map (·.2.value)) r.score.value →
    Number.AddsUp (winner.breakdown.map (·.2)) winner.score →
    Number.AddsUp (x.points.breakdown.map (·.2.value)) x.points.total →
    r.score.value.line = winner.score.line + x.points.total.line

theorem Finds.itemized (h : e.Finds w sig r winner) : ∃ x, e.Itemized w sig r winner x := by
  obtain ⟨path, d, hd, -, hwinner⟩ := h.evaluated
  obtain ⟨hnames, hbefore⟩ : winner.breakdown.keys = Evaluator.pointNames ∧
      Scoring.sumOf winner.breakdown = .ok winner.score := by
    have hpoints := Evaluator.points_evaluate rfl hd
    rw [hwinner]
    exact hpoints
  obtain ⟨cs, -, hresolve⟩ := id h
  obtain ⟨x, hchoose, hresult⟩ := Ranking.resolve_eq_ok_iff.mp hresolve
  have hchosen := Ranking.resolve_of_attempt (Ranking.choose_attempt hchoose)
  obtain ⟨hparts, hloaded⟩ := Resolution.points_resolve hchosen
  -- the points of the export are put under names that are not there yet
  have hkeys : Fields.keys (winner.breakdown.map (fun p => (p.1, Quantity.number p.2)) ++
      x.points.breakdown.map fun p => ("target." ++ p.1, p.2)) =
      Evaluator.pointNames ++ (Resolution.partNames sig x.entry).map ("target." ++ ·) := by
    rw [← hnames, ← hparts]
    simp [Fields.keys, Function.comp_def]
  have hdistinct := Resolution.nodup_partNames sig x.entry
  rw [← hkeys] at hdistinct
  have hbreakdown : r.breakdown = winner.breakdown.map (fun p => (p.1, .number p.2)) ++
      x.points.breakdown.map fun p => ("target." ++ p.1, p.2) := by
    obtain ⟨total, -, hr⟩ := bind_eq_ok.mp hresult
    cases hr
    rw [← Fields.putAll_of_nodup hdistinct, Fields.putAll, List.foldl_map]
  refine ⟨x, h, hchosen, hbreakdown, ?_, ?_, h.result.2.2.2, hbefore, hloaded, ?_⟩
  · rw [hbreakdown, hkeys]
  · rw [hbreakdown]
    exact hdistinct
  · intro hr hwinner hx
    unfold Number.AddsUp at hr hwinner hx
    rw [hr, hwinner, hx, hbreakdown]
    simp [Quantity.value, Function.comp_def]

/-- A breakdown adds up to a score within the tolerance, by the sums and differences of the program, and on the
number line if these do not round. -/
def CloseTo (b : Fields Quantity) (score : Number) : Prop :=
  ∃ t d, Quantity.sumOf b = .ok t ∧ t.sub score = .ok d ∧ d.abs.le (.float 1e-9) = true ∧
    (Number.AddsUp (b.map (·.2.value)) t → t.line = score.line + d.line →
      ((b.map (·.2.value)).map Number.line).sum ≤ score.line + (Number.float 1e-9).line ∧
      score.line ≤ ((b.map (·.2.value)).map Number.line).sum + (Number.float 1e-9).line)

theorem closeTo_of_not_lt {b : Fields Quantity} {score t d : Number} (hscore : score.isFinite)
    (hb : ∀ p ∈ b, p.2.value.isFinite = true) (ht : Quantity.sumOf b = .ok t) (hd : t.sub score = .ok d)
    (hlt : (Number.float 1e-9).lt d.abs = false) : CloseTo b score := by
  have htolerance : (Number.float 1e-9).isFinite = true := by decide +kernel
  have hvalues : ∀ a ∈ b.map (·.2.value), a.isFinite = true := by
    intro a ha
    obtain ⟨p, hp, rfl⟩ := List.mem_map.mp ha
    exact hb p hp
  have hdefined : d.isDefined = true :=
    Number.isDefined_sub_finite (Number.isDefined_sumFrom (Number.isDefined_int 0) hvalues ht) hscore hd
  have hle : d.abs.le (.float 1e-9) = true := by
    rw [Number.le_iff_line (Number.isDefined_abs hdefined) (Number.isDefined_of_isFinite htolerance)]
    exact (Number.not_lt_iff_line (Number.isDefined_of_isFinite htolerance)
      (Number.isDefined_abs hdefined)).mp hlt
  refine ⟨t, d, ht, hd, hle, fun hsum hdifference => ?_⟩
  obtain ⟨q, hq⟩ := Number.sum_of_isFinite hvalues
  rw [← hsum, hdifference]
  rw [← hsum, hdifference] at hq
  exact Number.close_of_abs_le hscore htolerance hle hdefined hq

/-- Whatever has been stored, what is shown of it adds up to its score. -/
theorem closeTo_storedBreakdown {entry : CacheEntry} {b : Fields Quantity}
    (h : storedBreakdown entry = .ok b) (hscore : entry.score.value.isFinite)
    (hb : ∀ p ∈ b, p.2.value.isFinite = true) : CloseTo b entry.score.value := by
  obtain ⟨t, ht, h⟩ := bind_eq_ok.mp h
  obtain ⟨d, hd, h⟩ := bind_eq_ok.mp h
  split at h
  · cases h
    obtain ⟨t, d, ht, hd⟩ := Number.exists_sub_of_single entry.score.value
    have hsum : Quantity.sumOf [("cached", entry.score)] = .ok t := by
      show Number.sumFrom (.int 0) [entry.score.value] = .ok t
      rw [Number.sumFrom, bind_ok ht]
      rfl
    exact closeTo_of_not_lt hscore hb hsum hd (Number.not_lt_sub_of_single ht hd)
  · next hlt =>
    cases h
    exact closeTo_of_not_lt hscore hb ht hd (Bool.not_eq_true _ ▸ hlt)

/-- A result that comes from the store is what an entry stands for. -/
theorem discover_stored {useCache : Bool} (hr : (e.discover w signature useCache).result = .ok r)
    (hcached : r.fromCache) : ∃ entry, r.score = entry.score ∧ storedBreakdown entry = .ok r.breakdown := by
  obtain ⟨sig, -, -, ⟨entry, -, hstored⟩ | ⟨winner, hfinds, -⟩⟩ := discover_eq_ok hr
  · obtain ⟨b, hb, hstored⟩ := bind_eq_ok.mp hstored
    obtain ⟨_, -, hstored⟩ := bind_eq_ok.mp hstored
    cases hstored
    exact ⟨entry, rfl, hb⟩
  · -- what has been found does not come from the store
    rw [hfinds.result.2.1] at hcached
    cases hcached

/-- Every result is additive.  The score of a fresh one is itemized.  The breakdown of a stored one adds up to
its score, whatever the store holds, if these are finite numbers. -/
theorem discover_additive (e : Engine) (w : World) (signature : Json) (useCache : Bool) (r : SearchResult)
    (hr : (e.discover w signature useCache).result = .ok r) :
    (r.fromCache = false → ∃ sig winner x, Signature.normalize signature = .ok sig ∧
      e.Itemized w sig r winner x) ∧
    (r.fromCache = true → r.score.value.isFinite = true → (∀ p ∈ r.breakdown, p.2.value.isFinite = true) →
      CloseTo r.breakdown r.score.value) := by
  constructor
  · intro hfresh
    obtain ⟨sig, winner, hsig, hfinds, -⟩ := discover_fresh hr hfresh
    obtain ⟨x, hx⟩ := hfinds.itemized
    exact ⟨sig, winner, x, hsig, hx⟩
  · intro hcached hscore hb
    obtain ⟨entry, hentry, hstored⟩ := discover_stored hr hcached
    rw [hentry] at hscore ⊢
    exact closeTo_storedBreakdown hstored hscore hb

/-! ## An empty module -/

/-- Points that are whole numbers and add up, before loading, after loading and in the result, whose score can be
written. -/
def isWhole (r : SearchResult) (winner : Candidate) : Bool :=
  Number.addsUpWhole (r.breakdown.map (·.2.value)) r.score.value &&
    Number.addsUpWhole (winner.breakdown.map (·.2)) winner.score &&
    (Resolution.resolve {} winner.exports History.moduleSignature).toOption.any (·.any fun x =>
      Number.addsUpWhole (x.points.breakdown.map (·.2.value)) x.points.total) &&
    (Decimal.general r.score.value).toOption.isSome && r.score.value.isFinite &&
    r.breakdown.all fun p => p.2.value.isFinite

theorem discover_plain (hsig : Signature.normalize signature = .ok sig)
    (hfinds : Ranking.plainEngine.Finds w sig r winner)
    (hgeneral : (Decimal.general r.score.value).toOption.isSome) :
    (Ranking.plainEngine.discover w signature false).result = .ok r := by
  obtain ⟨phase, stats, hsearch⟩ := search_eq_remember hfinds (sig.key (some Ranking.plainEngine.root))
  obtain ⟨text, htext⟩ : ∃ text, Decimal.general r.score.value = .ok text := by
    cases h : Decimal.general r.score.value with
    | error m =>
      rw [h] at hgeneral
      cases hgeneral
    | ok text => exact ⟨text, rfl⟩
  have hexpiry : CacheEntry.expiry Ranking.plainEngine.cache.lifetime w.nowMs = .ok none := rfl
  obtain ⟨entry, hentry⟩ := entryOf_of_expiry hexpiry r winner
  have hout : Ranking.plainEngine.discover w signature false =
      Ranking.plainEngine.search w (sig.key (some Ranking.plainEngine.root)) sig := by
    rw [discover, hsig]
    rfl
  have hentry' : entryOf { Ranking.plainEngine with phase, stats } w r winner = .ok entry := hentry
  rw [hout, hsearch, remember, hentry']
  simp [Cache.put, Ranking.plainEngine, htext]

theorem discover_plain_again {w' : World} (hsig : Signature.normalize signature = .ok sig)
    (hfinds : Ranking.plainEngine.Finds w sig r winner) (hmtime : w'.mtimeMs r.path = w.mtimeMs r.path) :
    ∃ r', ((Ranking.plainEngine.discover w signature false).engine.discover w' signature true).result = .ok r' ∧
      r'.fromCache = true ∧ r'.score.value = r.score.value ∧ r'.breakdown = r.breakdown := by
  have hexpiry : CacheEntry.expiry Ranking.plainEngine.cache.lifetime w.nowMs = .ok none := rfl
  obtain ⟨entry, hentry⟩ := entryOf_of_expiry hexpiry r winner
  obtain ⟨hroot, hstored⟩ := discover_stores hsig hfinds hentry
  obtain ⟨shown, hshown⟩ := shownPath_again hfinds hmtime Ranking.plainEngine.root
  obtain ⟨entry', hentry', hagain⟩ := hstored.discover_again hsig hfinds hroot (by decide) hshown
    fun entry hentry => isValid_entryOf hfinds hentry hmtime fun t ht => by
      rw [hexpiry] at ht
      cases ht
  obtain ⟨-, -, hscore, -, hbreakdown, -⟩ := entryOf_eq_ok hentry'
  refine ⟨_, hagain, rfl, ?_, hbreakdown⟩
  show entry'.score.value = _
  rw [hscore]
  rfl

theorem Finds.unique {r' : SearchResult} {c c' : Candidate} (h : e.Finds w sig r c) (h' : e.Finds w sig r' c') :
    r = r' ∧ c = c' := by
  obtain ⟨cs, hcollect, hresolve⟩ := h
  obtain ⟨cs', hcollect', hresolve'⟩ := h'
  obtain rfl := Except.ok.inj (hcollect.symm.trans hcollect')
  exact Prod.mk.inj (Except.ok.inj (hresolve.symm.trans hresolve'))

open History in
/-- An empty module is found, with ten points for its extension and fifteen for what it exports, and a second call
gives the same points from the store. -/
theorem discover_additive_lone : ∃ r r',
    (Ranking.plainEngine.discover (lone 5.0 none) moduleQuestion false).result = .ok r ∧ r.fromCache = false ∧
    (∃ winner x, Ranking.plainEngine.Itemized (lone 5.0 none) moduleSignature r winner x ∧
      r.score.value.line = winner.score.line + x.points.total.line) ∧
    ((Ranking.plainEngine.discover (lone 5.0 none) moduleQuestion false).engine.discover (lone 60.0 none)
      moduleQuestion true).result = .ok r' ∧ r'.fromCache = true ∧ CloseTo r'.breakdown r'.score.value := by
  have hsig : Signature.normalize moduleQuestion = .ok moduleSignature := rfl
  have hsingle : findsSingle Ranking.plainEngine (lone 5.0 none) moduleSignature isWhole = true := by
    decide +kernel
  obtain ⟨r, winner, hfinds, hwhole⟩ := finds_of_single hsingle
  simp only [isWhole, Bool.and_eq_true, List.all_eq_true] at hwhole
  obtain ⟨⟨⟨⟨⟨hr, hwinner⟩, hx⟩, hgeneral⟩, hfinite⟩, hvalues⟩ := hwhole
  have hresult := discover_plain hsig hfinds hgeneral
  have hfresh := hfinds.result.2.1
  obtain ⟨sig, winner', x, hsig', hitemized⟩ := (discover_additive _ _ _ _ _ hresult).1 hfresh
  obtain rfl : moduleSignature = sig := Except.ok.inj (hsig.symm.trans hsig')
  obtain ⟨-, rfl⟩ := hfinds.unique hitemized.found
  have htotal : Number.addsUpWhole (x.points.breakdown.map (·.2.value)) x.points.total = true := by
    have hchosen : Resolution.resolve {} winner.exports moduleSignature = .ok (some x) := hitemized.chosen
    rw [hchosen] at hx
    exact hx
  have hline := hitemized.exact (Number.addsUp_of_whole hr) (Number.addsUp_of_whole hwinner)
    (Number.addsUp_of_whole htotal)
  have hmtime : ∀ clock clock', (lone clock none).mtimeMs r.path = (lone clock' none).mtimeMs r.path :=
    fun _ _ => rfl
  obtain ⟨r', hagain, hcached, hscore, hbreakdown⟩ := discover_plain_again hsig hfinds (hmtime 60.0 5.0)
  refine ⟨r, r', hresult, hfresh, ⟨winner, x, hitemized, hline⟩, hagain, hcached, ?_⟩
  apply (discover_additive _ _ _ _ _ hagain).2 hcached
  · rw [hscore]
    exact hfinite
  · rw [hbreakdown]
    exact hvalues

end Engine

end ShapeSearch
