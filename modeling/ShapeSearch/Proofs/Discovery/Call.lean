import ShapeSearch.Proofs.Evaluation
import ShapeSearch.Proofs.Ranking
import ShapeSearch.Proofs.Store.Tiers
import ShapeSearch.Proofs.Store.Validity

/-!
# What one call does

A call of `discover` looks at what is stored, or searches the root.  A search that finds a result (`Finds`)
puts an entry for it into the store; nothing else that a call does changes the store's entries or the world:

    a call answers from the store, or fails, or stores what it finds                 (discoverFor_cases)

The candidate that a search finds is what a file was evaluated to, and it was found safe
(`Finds.evaluated`).
-/

namespace ShapeSearch

namespace Ranking

/-- What is kept of some candidates was kept before, or it is one of them with the export chosen from it. -/
theorem tryAll_mem {s : Settings} {sig : Signature} {ch : Choice} (l : List Candidate) :
    ∀ (best : Option Choice) (reasons : Fields String), (tryAll s sig l best reasons).1 = some ch →
      best = some ch ∨ ch.candidate ∈ l ∧ attempt s sig ch.candidate = .ok ch.resolved := by
  induction l with
  | nil => exact fun best reasons h => .inl h
  | cons c r ih =>
    intro best reasons h
    rw [tryAll] at h
    split at h
    · next x hx =>
      rcases ih _ _ h with h | ⟨h, ha⟩
      · cases best with
        | none =>
          cases h
          exact .inr ⟨List.mem_cons_self, hx⟩
        | some b =>
          rw [better] at h
          split at h
          · cases h
            exact .inr ⟨List.mem_cons_self, hx⟩
          · exact .inl h
      · exact .inr ⟨List.mem_cons_of_mem c h, ha⟩
    · rcases ih _ _ h with h | ⟨h, ha⟩
      · exact .inl h
      · exact .inr ⟨List.mem_cons_of_mem c h, ha⟩

variable {s : Settings} {sig : Signature} {ch : Choice}

theorem tryGroups_mem (n : Nat) :
    ∀ (l : List Candidate) (reasons : Fields String), (tryGroups s sig n l reasons).1 = some ch →
      ch.candidate ∈ l ∧ attempt s sig ch.candidate = .ok ch.resolved := by
  induction n with
  | zero =>
    intro l reasons h
    rw [tryGroups] at h
    cases h
  | succ n ih =>
    intro l reasons h
    cases l with
    | nil => cases h
    | cons c r =>
      rw [tryGroups] at h
      split at h
      · next choice reasons' htry =>
        cases h
        have hgroup := @tryAll_mem s sig ch (c :: r.takeWhile fun d => d.score.eq c.score) none reasons
          (by rw [htry])
        rcases hgroup with hgroup | ⟨hgroup, ha⟩
        · cases hgroup
        · refine ⟨?_, ha⟩
          rcases List.mem_cons.mp hgroup with hgroup | hgroup
          · rw [hgroup]
            exact List.mem_cons_self
          · exact List.mem_cons_of_mem c (List.takeWhile_subset _ hgroup)
      · obtain ⟨hmem, ha⟩ := ih _ _ h
        exact ⟨List.mem_cons_of_mem c (List.dropWhile_subset _ hmem), ha⟩

theorem choose_mem {ranked : List Candidate} (h : (choose s sig ranked).1 = some ch) : ch.candidate ∈ ranked :=
  (tryGroups_mem _ ranked [] h).1

theorem choose_attempt {ranked : List Candidate} (h : (choose s sig ranked).1 = some ch) :
    attempt s sig ch.candidate = .ok ch.resolved :=
  (tryGroups_mem _ ranked [] h).2

end Ranking

namespace Engine

variable {entry : CacheEntry} {signature : Json} {w' : World}

/-! ## Searching -/

/-- A search of the root ends with a result and the candidate it comes from. -/
def Finds (e : Engine) (w : World) (sig : Signature) (r : SearchResult) (winner : Candidate) : Prop :=
  ∃ cs, (e.collect w sig false).1 = .ok cs ∧ (e.resolve w (Ranking.rank cs) sig).1 = .ok (r, winner)

/-- One more file adds the candidate that it is evaluated to, with a mark that tells whether it is safe, unless
it is unsafe and only safe ones are asked for. -/
theorem mem_addCandidate {ev : Evaluator} {w : World} {sig : Signature} {includeUnsafe : Bool} {h : Haul}
    {path : String} {c : Candidate} : c ∈ (addCandidate ev w sig includeUnsafe h path).candidates ↔
    c ∈ h.candidates ∨ ∃ d safe, ev.evaluate w path sig = .ok (some d) ∧
      Safety.isSafe ev.settings d.content = .ok safe ∧ (safe = true ∨ includeUnsafe = true) ∧
      c = { d with safe } := by
  unfold addCandidate
  cases ev.evaluate w path sig with
  | error m => simp
  | ok o =>
    cases o with
    | none => simp
    | some d =>
      simp only
      cases hsafe : Safety.isSafe ev.settings d.content with
      | error m => simp [hsafe]
      | ok safe => cases safe <;> cases includeUnsafe <;> simp [hsafe]

theorem mem_haulOf {ev : Evaluator} {w : World} {sig : Signature} {includeUnsafe : Bool}
    {files : List String} {c : Candidate} (hc : c ∈ (haulOf ev w sig includeUnsafe files).candidates) :
    ∃ path ∈ files, ∃ d safe, ev.evaluate w path sig = .ok (some d) ∧
      Safety.isSafe ev.settings d.content = .ok safe ∧ (safe = true ∨ includeUnsafe = true) ∧
      c = { d with safe } := by
  have hfold : ∀ h : Haul, c ∈ (files.foldl (addCandidate ev w sig includeUnsafe) h).candidates →
      c ∈ h.candidates ∨ ∃ path ∈ files, ∃ d safe, ev.evaluate w path sig = .ok (some d) ∧
        Safety.isSafe ev.settings d.content = .ok safe ∧ (safe = true ∨ includeUnsafe = true) ∧
        c = { d with safe } := by
    clear hc
    induction files with
    | nil => exact fun h hc => .inl hc
    | cons path files ih =>
      intro h hc
      rcases ih _ hc with hc | ⟨p, hp, hrest⟩
      · exact (mem_addCandidate.mp hc).imp_right fun hrest => ⟨path, List.mem_cons_self, hrest⟩
      · exact .inr ⟨p, List.mem_cons_of_mem _ hp, hrest⟩
  exact (hfold {} hc).resolve_left (by simp)

variable {e : Engine} {w : World} {sig : Signature} {r : SearchResult} {winner : Candidate}

theorem Finds.evaluated (h : e.Finds w sig r winner) : ∃ path d,
    e.evaluator.evaluate w path sig = .ok (some d) ∧ Safety.isSafe e.settings d.content = .ok true ∧
      winner = { d with safe := true } := by
  obtain ⟨cs, hcollect, hresolve⟩ := h
  obtain ⟨x, hchoose, -⟩ := Ranking.resolve_eq_ok_iff.mp hresolve
  have hmem : winner ∈ cs := Ranking.mem_rank.mp (Ranking.choose_mem hchoose)
  simp only [collect] at hcollect
  split at hcollect
  · cases hcollect
  · split at hcollect
    · cases hcollect
    · cases hcollect
      obtain ⟨path, -, d, safe, hd, hsafe, rfl | hall, rfl⟩ := mem_haulOf hmem
      · exact ⟨path, d, hd, hsafe, rfl⟩
      · cases hall

theorem Finds.describes (h : e.Finds w sig r winner) : e.evaluator.Describes w winner.path winner := by
  obtain ⟨path, d, hd, -, rfl⟩ := h.evaluated
  obtain ⟨rfl, hfile, hshown⟩ := Evaluator.describes_evaluate hd
  exact ⟨rfl, hfile, hshown⟩

theorem Finds.result (h : e.Finds w sig r winner) :
    r.path = winner.path ∧ r.fromCache = false ∧ r.score = .number r.score.value ∧
      Quantity.sumOf r.breakdown = .ok r.score.value := by
  obtain ⟨cs, -, hresolve⟩ := h
  obtain ⟨x, -, hresult⟩ := Ranking.resolve_eq_ok_iff.mp hresolve
  obtain ⟨total, htotal, hr⟩ := bind_eq_ok.mp hresult
  cases hr
  exact ⟨rfl, rfl, rfl, htotal⟩

theorem Finds.shows (h : e.Finds w sig r winner) :
    w.shownPath e.root r.path = .ok r.relativePath ∧ r.signature = sig.toJson ∧ r.breakdown.keys.Nodup := by
  have hshown := h.describes.shown
  have hnodup : winner.breakdown.keys.Nodup := by
    obtain ⟨path, d, hd, -, rfl⟩ := h.evaluated
    have hd' : d.breakdown.keys.Nodup := Evaluator.nodup_breakdown hd
    exact hd'
  obtain ⟨cs, -, hresolve⟩ := h
  obtain ⟨x, -, hresult⟩ := Ranking.resolve_eq_ok_iff.mp hresolve
  obtain ⟨total, -, hr⟩ := bind_eq_ok.mp hresult
  cases hr
  refine ⟨hshown, rfl, ?_⟩
  have hranked : (Fields.keys (winner.breakdown.map fun p => (p.1, Quantity.number p.2))).Nodup := by
    rw [Fields.keys_map]
    exact hnodup
  have hputs := Fields.nodup_putAll hranked (x.points.breakdown.map fun p => ("target." ++ p.1, p.2))
  rw [Fields.putAll, List.foldl_map] at hputs
  exact hputs

/-- A search does not look at the store, the phase and the counts. -/
theorem finds_congr (e : Engine) (c : Cache) (phase : Phase) (stats : Stats) :
    Finds { e with cache := c, phase, stats } w sig r winner ↔ e.Finds w sig r winner := by
  have hcollect : (collect { e with cache := c, phase, stats } w sig false).1 = (e.collect w sig false).1 := by
    simp only [collect]
    cases searchedExtensions e.settings sig.language with
    | error m => rfl
    | ok extensions =>
      simp only
      cases Survey.ofRoot { world := w, settings := e.settings, extensions } e.root with
      | error p => rfl
      | ok survey => rfl
  simp only [Finds, hcollect, Ranking.resolve_eq_ok_iff]

/-- How a call ends that has found a result: the entry for it is put into the store. -/
structure Stored (e : Engine) (w : World) (key : String) (r : SearchResult) (winner : Candidate)
    (out : Outcome SearchResult) : Prop where
  put : ∃ entry, e.entryOf w r winner = .ok entry ∧ out.engine.cache = (e.cache.put w key entry).2.1 ∧
    out.world = (e.cache.put w key entry).2.2
  result : out.result = .ok r ∨ ∃ m, out.result = .error (.misfit m)
  done : out.result = .ok r → ∀ entry, e.entryOf w r winner = .ok entry → (e.cache.put w key entry).1 = .ok ()

/-- How a call ends that has found nothing, or nothing that can be stored. -/
structure Failed (e : Engine) (w : World) (out : Outcome SearchResult) : Prop where
  cache : out.engine.cache = e.cache
  world : out.world = w
  result : ∃ f, out.result = .error f

theorem entryOf_eq_ok (h : e.entryOf w r winner = .ok entry) :
    entry.path = r.path ∧ entry.access = r.access ∧ entry.score = .number r.score.value ∧
      entry.kind = r.kind ∧ entry.breakdown = r.breakdown ∧
      entry.mtimeMs = .number (winner.mtimeMs.getD (.int 0)) ∧
      CacheEntry.expiry e.cache.lifetime w.nowMs = .ok entry.expiresAt := by
  obtain ⟨expiresAt, hexpiry, h⟩ := bind_eq_ok.mp h
  cases h
  exact ⟨rfl, rfl, rfl, rfl, rfl, rfl, hexpiry⟩

theorem entryOf_of_expiry {expiresAt : Option Quantity}
    (h : CacheEntry.expiry e.cache.lifetime w.nowMs = .ok expiresAt) (r : SearchResult)
    (winner : Candidate) : ∃ entry, e.entryOf w r winner = .ok entry := by
  rw [entryOf, Cache.entryFor, h]
  exact ⟨_, rfl⟩

theorem remember_stored (hentry : e.entryOf w r winner = .ok entry) (key : String) (sig : Signature) :
    (e.remember w key sig r winner).engine.root = e.root ∧
      e.Stored w key r winner (e.remember w key sig r winner) := by
  unfold remember
  rw [hentry]
  simp only
  rcases hput : e.cache.put w key entry with ⟨o, cache, w'⟩
  cases o with
  | error m => exact ⟨rfl, ⟨entry, hentry, by rw [hput], by rw [hput]⟩, .inr ⟨m, rfl⟩, fun h => by cases h⟩
  | ok u =>
    have hdone : ∀ entry', e.entryOf w r winner = .ok entry' → (e.cache.put w key entry').1 = .ok () := by
      intro entry' hentry'
      cases hentry.symm.trans hentry'
      rw [hput]
    simp only
    cases Decimal.general r.score.value with
    | error m => exact ⟨rfl, ⟨entry, hentry, by rw [hput], by rw [hput]⟩, .inr ⟨m, rfl⟩, fun _ => hdone⟩
    | ok s => exact ⟨rfl, ⟨entry, hentry, by rw [hput], by rw [hput]⟩, .inl rfl, fun _ => hdone⟩

theorem remember_cases (e : Engine) (w : World) (key : String) (sig : Signature) (r : SearchResult)
    (winner : Candidate) : (e.remember w key sig r winner).engine.root = e.root ∧
      (e.Failed w (e.remember w key sig r winner) ∨
        e.Stored w key r winner (e.remember w key sig r winner)) := by
  cases hentry : e.entryOf w r winner with
  | error m =>
    unfold remember
    rw [hentry]
    exact ⟨rfl, .inl ⟨rfl, rfl, _, rfl⟩⟩
  | ok entry => exact (remember_stored hentry key sig).imp_right .inr

theorem collect_engine (e : Engine) (w : World) (sig : Signature) (includeUnsafe : Bool) :
    ∃ stats, (e.collect w sig includeUnsafe).2 = { e with phase := .collecting, stats } := by
  simp only [collect]
  split
  · exact ⟨_, rfl⟩
  · split <;> exact ⟨_, rfl⟩

theorem resolve_engine (e : Engine) (w : World) (ranked : List Candidate) (sig : Signature) :
    ∃ phase, (e.resolve w ranked sig).2 = { e with phase } := by
  simp only [Engine.resolve]
  repeat' split
  all_goals exact ⟨_, rfl⟩

theorem search_eq_remember (h : e.Finds w sig r winner) (key : String) :
    ∃ phase stats, e.search w key sig = remember { e with phase, stats } w key sig r winner := by
  obtain ⟨cs, hcollect, hresolve⟩ := h
  obtain ⟨stats, hengine⟩ := collect_engine e w sig false
  obtain ⟨phase, hresolved⟩ := resolve_engine { e with phase := .ranking, stats } w (Ranking.rank cs) sig
  have hcollected : e.collect w sig false = (.ok cs, { e with phase := .collecting, stats }) :=
    Prod.ext hcollect hengine
  have hfirst : (resolve { e with phase := .ranking, stats } w (Ranking.rank cs) sig).1 =
      .ok (r, winner) := by
    rw [Ranking.resolve_eq_ok_iff] at hresolve ⊢
    exact hresolve
  have hchosen : resolve { e with phase := .ranking, stats } w (Ranking.rank cs) sig =
      (.ok (r, winner), { e with phase, stats }) := Prod.ext hfirst hresolved
  refine ⟨phase, stats, ?_⟩
  rw [search, hcollected]
  simp only [settle, rank, hchosen]

theorem search_cases (e : Engine) (w : World) (key : String) (sig : Signature) :
    (e.search w key sig).engine.root = e.root ∧
      (e.Failed w (e.search w key sig) ∨
        ∃ r winner, e.Finds w sig r winner ∧ e.Stored w key r winner (e.search w key sig)) := by
  obtain ⟨stats, hengine⟩ := collect_engine e w sig false
  unfold search
  rcases hcollect : e.collect w sig false with ⟨o, e₁⟩
  rw [hcollect] at hengine
  cases hengine
  cases o with
  | error m => exact ⟨rfl, .inl ⟨rfl, rfl, _, rfl⟩⟩
  | ok cs =>
    simp only [settle, rank]
    obtain ⟨phase, hresolved⟩ := resolve_engine { e with phase := .ranking, stats } w (Ranking.rank cs) sig
    rcases hresolve : resolve { e with phase := .ranking, stats } w (Ranking.rank cs) sig with ⟨o, e₂⟩
    rw [hresolve] at hresolved
    cases hresolved
    cases o with
    | error f => exact ⟨rfl, .inl ⟨rfl, rfl, _, rfl⟩⟩
    | ok p =>
      obtain ⟨r, winner⟩ := p
      have hfinds : e.Finds w sig r winner := by
        have hfirst := congrArg Prod.fst hresolve
        rw [Ranking.resolve_eq_ok_iff] at hfirst
        exact ⟨cs, by rw [hcollect], Ranking.resolve_eq_ok_iff.mpr hfirst⟩
      obtain ⟨hroot, hcases⟩ := remember_cases { e with phase, stats } w key sig r winner
      refine ⟨hroot, hcases.imp ?_ ?_⟩
      · exact fun hf => ⟨hf.cache, hf.world, hf.result⟩
      · exact fun hs => ⟨r, winner, hfinds, hs.put, hs.result, hs.done⟩

/-! ## Answering -/

/-- The store of an engine after a call has looked at it. -/
def consulted (e : Engine) (w : World) (key : String) (useCache : Bool) : Cache :=
  if useCache then (e.cache.get w key).2 else e.cache

/-- How a call ends that is answered from the store. -/
structure Answered (e : Engine) (w : World) (sig : Signature) (useCache : Bool)
    (out : Outcome SearchResult) : Prop where
  cache : out.engine.cache = e.consulted w (sig.key (some e.root)) useCache
  world : out.world = w
  result : ∀ r, out.result = .ok r → ∃ entry,
    (e.cache.get w (sig.key (some e.root))).1 = .ok (some entry) ∧ storedResult e.root w entry sig = .ok r

theorem discover_stores (hsig : Signature.normalize signature = .ok sig) (hfinds : e.Finds w sig r winner)
    (hentry : e.entryOf w r winner = .ok entry) :
    (e.discover w signature false).engine.root = e.root ∧
      e.Stored w (sig.key (some e.root)) r winner (e.discover w signature false) := by
  obtain ⟨phase, stats, hsearch⟩ := search_eq_remember hfinds (sig.key (some e.root))
  have hout : e.discover w signature false =
      remember { e with phase, stats } w (sig.key (some e.root)) sig r winner := by
    rw [← hsearch, discover, hsig]
    rfl
  have hentry' : entryOf { e with phase, stats } w r winner = .ok entry := hentry
  obtain ⟨hroot, hstored⟩ := remember_stored hentry' (sig.key (some e.root)) sig
  rw [hout]
  exact ⟨hroot, hstored.put, hstored.result, hstored.done⟩

theorem discover_of_memory (hsig : Signature.normalize signature = .ok sig) {memory : Lru CacheEntry}
    (hget : e.cache.memory.get (sig.key (some e.root)) = (some entry, memory))
    (hvalid : entry.isValid w w.nowMs = .ok true) (hr : storedResult e.root w entry sig = .ok r) :
    (e.discover w signature true).result = .ok r := by
  rw [discover, hsig]
  simp only [discoverFor, Cache.get_of_memory hget hvalid, answerStored, hr, if_true]

/-- The result that an entry stands for, with the path as it is shown. -/
def resultAt (entry : CacheEntry) (shown : String) (sig : Signature) : SearchResult :=
  { path := entry.path, relativePath := shown, access := entry.access, score := entry.score,
    breakdown := entry.breakdown,
    exportName := (Matching.nonEmpty entry.exportName).orElse fun _ => entry.access.name,
    kind := entry.kind, fromCache := true, signature := sig.toJson }

/-- An entry whose points add up to its score stands for a result with these points. -/
theorem storedResult_of_sum (hsum : Quantity.sumOf entry.breakdown = .ok entry.score.value) {root shown : String}
    (hshown : w.shownPath root entry.path = .ok shown) (sig : Signature) :
    storedResult root w entry sig = .ok (resultAt entry shown sig) := by
  obtain ⟨d, hd⟩ : ∃ d, entry.score.value.sub entry.score.value = .ok d := by
    cases entry.score.value with
    | int n => exact ⟨_, rfl⟩
    | float y => exact ⟨_, rfl⟩
  have hbreakdown : storedBreakdown entry = .ok entry.breakdown := by
    rw [storedBreakdown, bind_ok hsum, bind_ok hd, Number.not_lt_sub_self hd]
    rfl
  rw [storedResult, bind_ok hbreakdown, bind_ok hshown]
  rfl

/-- The entry for a result holds while the time of change is the same and the entry has not expired. -/
theorem isValid_entryOf (hfinds : e.Finds w sig r winner) {e₁ : Engine} (hentry : e₁.entryOf w r winner = .ok entry)
    (hmtime : w'.mtimeMs r.path = w.mtimeMs r.path)
    (hclock : ∀ t, CacheEntry.expiry e₁.cache.lifetime w.nowMs = .ok (some t) → t.value.le w'.nowMs = false) :
    entry.isValid w' w'.nowMs = .ok true := by
  obtain ⟨hpath, -, -, -, -, hstored, hexpiry⟩ := entryOf_eq_ok hentry
  obtain ⟨f, hf, -, hwinner⟩ := hfinds.describes.file
  have hchanged : w'.mtimeMs entry.path = .ok f.mtimeMs := by
    rw [hpath, hmtime, hfinds.result.1, World.mtimeMs, hf]
    rfl
  have hdefined : f.mtimeMs.isDefined = true :=
    (Number.isDefined_iff _).mpr (Number.exactFloat_nearestFloat _ _ _)
  refine CacheEntry.isValid_of_mtime (fun t ht => hclock t (ht ▸ hexpiry)) hchanged ?_
  rw [hstored, hwinner]
  exact (Number.eq_iff_line hdefined hdefined).mpr rfl

/-- While the entry for a result holds, its path can be shown. -/
theorem shownPath_again (hfinds : e.Finds w sig r winner) (hmtime : w'.mtimeMs r.path = w.mtimeMs r.path)
    (root : String) : ∃ shown, w'.shownPath root r.path = .ok shown := by
  obtain ⟨t, -, ht⟩ := hfinds.describes.mtime
  rw [← hfinds.result.1, ← hmtime] at ht
  obtain ⟨n, hn, -⟩ := bind_eq_ok.mp ht
  exact World.shownPath_of_stat hn root

/-- What a call has stored is given again, as long as it holds. -/
theorem Stored.discover_again {out : Outcome SearchResult} (hsig : Signature.normalize signature = .ok sig)
    (hfinds : e.Finds w sig r winner) (hroot : out.engine.root = e.root)
    (hs : e.Stored w (sig.key (some e.root)) r winner out) (hcapacity : 0 < e.cache.memory.capacity) {shown : String}
    (hshown : w'.shownPath e.root r.path = .ok shown)
    (hvalid : ∀ entry, e.entryOf w r winner = .ok entry → entry.isValid w' w'.nowMs = .ok true) :
    ∃ entry, e.entryOf w r winner = .ok entry ∧
      (out.engine.discover w' signature true).result = .ok (resultAt entry shown sig) := by
  obtain ⟨entry, hentry, hcache, -⟩ := hs.put
  obtain ⟨hpath, -, hscore, -, hbreakdown, -⟩ := entryOf_eq_ok hentry
  have hsum : Quantity.sumOf entry.breakdown = .ok entry.score.value := by
    rw [hbreakdown, hscore]
    exact hfinds.result.2.2.2
  obtain ⟨memory, hget⟩ := Cache.lru_get_put e.cache.memory hcapacity (sig.key (some e.root)) entry
  rw [← Cache.memory_put e.cache w, ← hcache, ← hroot] at hget
  rw [← hpath, ← hroot] at hshown
  exact ⟨entry, hentry, discover_of_memory hsig hget (hvalid entry hentry) (storedResult_of_sum hsum hshown sig)⟩

/-- A call is answered from the store, or it fails, or it searches the root and stores what it has found. -/
theorem discoverFor_cases (e : Engine) (w : World) (sig : Signature) (useCache : Bool) :
    let key := sig.key (some e.root)
    let e₁ : Engine := { e with cache := e.consulted w key useCache }
    let out := e.discoverFor w sig useCache
    out.engine.root = e.root ∧
      (e.Answered w sig useCache out ∨ e₁.Failed w out ∨
        (useCache = true → (e.cache.get w key).1 = .ok none) ∧
          ∃ r winner, e.Finds w sig r winner ∧ e₁.Stored w key r winner out) := by
  intro key e₁ out
  cases useCache with
  | false =>
    have hout : out = e.search w key sig := rfl
    obtain ⟨hroot, hcases⟩ := search_cases e w key sig
    rw [hout]
    refine ⟨hroot, .inr (hcases.imp ?_ ?_)⟩
    · exact fun hf => ⟨hf.cache, hf.world, hf.result⟩
    · rintro ⟨r, winner, hfinds, hs⟩
      exact ⟨by simp, r, winner, hfinds, hs.put, hs.result, hs.done⟩
  | true =>
    have hcache : e.consulted w key true = (e.cache.get w key).2 := rfl
    rcases hget : e.cache.get w key with ⟨o, cache⟩
    rw [hget] at hcache
    cases o with
    | error m =>
      have hout : out = ⟨.error (.misfit m), { e with cache }, w⟩ := by
        simp only [out, discoverFor, if_true, key, hget]
      rw [hout]
      exact ⟨rfl, .inr (.inl ⟨hcache.symm, rfl, _, rfl⟩)⟩
    | ok found =>
      cases found with
      | some entry =>
        have hout : out = answerStored { e with cache } w entry sig := by
          simp only [out, discoverFor, if_true, key, hget]
        simp only [answerStored] at hout
        split at hout
        · next r hr =>
          rw [hout]
          refine ⟨rfl, .inl ⟨hcache.symm, rfl, fun r' hr' => ⟨entry, by rw [hget], ?_⟩⟩⟩
          cases hr'
          exact hr
        · rw [hout]
          exact ⟨rfl, .inl ⟨hcache.symm, rfl, fun r' hr' => by cases hr'⟩⟩
      | none =>
        obtain ⟨hroot, hcases⟩ := search_cases
          { e with cache, stats := { e.stats with cacheMisses := e.stats.cacheMisses + 1 } } w key sig
        have hout : out = search
            { e with cache, stats := { e.stats with cacheMisses := e.stats.cacheMisses + 1 } } w key sig := by
          simp only [out, discoverFor, if_true, key, hget]
        have he₁ : e₁.cache = cache := hcache
        rw [hout]
        refine ⟨hroot, .inr (hcases.imp ?_ ?_)⟩
        · exact fun hf => ⟨hf.cache.trans he₁.symm, hf.world, hf.result⟩
        · rintro ⟨r, winner, hfinds, hs⟩
          have hentryOf : e₁.entryOf w r winner = entryOf { e with cache } w r winner := by
            rw [entryOf, entryOf, he₁]
          refine ⟨fun _ => rfl, r, winner, (finds_congr e cache e.phase _).mp hfinds, ?_, hs.result, ?_⟩
          · rw [he₁, hentryOf]
            exact hs.put
          · rw [he₁, hentryOf]
            exact hs.done

/-- A result is what an entry of the store stands for, or it has been searched for and stored. -/
theorem discover_eq_ok {useCache : Bool} (hr : (e.discover w signature useCache).result = .ok r) :
    ∃ sig, Signature.normalize signature = .ok sig ∧
      (e.discover w signature useCache).engine.root = e.root ∧
      ((∃ entry, (e.cache.get w (sig.key (some e.root))).1 = .ok (some entry) ∧
        storedResult e.root w entry sig = .ok r) ∨ ∃ winner, e.Finds w sig r winner ∧
        Stored { e with cache := e.consulted w (sig.key (some e.root)) useCache } w (sig.key (some e.root)) r
          winner (e.discover w signature useCache)) := by
  cases hsig : Signature.normalize signature with
  | error f =>
    rw [discover, hsig] at hr
    cases hr
  | ok sig =>
    have hout : e.discover w signature useCache = e.discoverFor w sig useCache := by rw [discover, hsig]
    rw [hout] at hr ⊢
    obtain ⟨hroot, ha | hfail | ⟨-, r', winner, hfinds, hs⟩⟩ := discoverFor_cases e w sig useCache
    · exact ⟨sig, rfl, hroot, .inl (ha.result r hr)⟩
    · obtain ⟨f, hf⟩ := hfail.result
      cases hf.symm.trans hr
    · rcases hs.result with hr' | ⟨m, hr'⟩
      · cases hr'.symm.trans hr
        exact ⟨sig, rfl, hroot, .inr ⟨winner, hfinds, hs⟩⟩
      · cases hr'.symm.trans hr

/-- A call that gives a result which does not come from the store has searched the root and stored it. -/
theorem discover_fresh {useCache : Bool} (hr : (e.discover w signature useCache).result = .ok r)
    (hfresh : r.fromCache = false) :
    ∃ sig winner, Signature.normalize signature = .ok sig ∧ e.Finds w sig r winner ∧
      (e.discover w signature useCache).engine.root = e.root ∧
      Stored { e with cache := e.consulted w (sig.key (some e.root)) useCache } w (sig.key (some e.root)) r
        winner (e.discover w signature useCache) := by
  obtain ⟨sig, hsig, hroot, ⟨entry, -, hstored⟩ | ⟨winner, hfinds, hs⟩⟩ := discover_eq_ok hr
  · -- what comes from the store says so
    obtain ⟨_, -, hstored⟩ := bind_eq_ok.mp hstored
    obtain ⟨_, -, hstored⟩ := bind_eq_ok.mp hstored
    cases hstored
    cases hfresh
  · exact ⟨sig, winner, hsig, hfinds, hroot, hs⟩

end Engine

end ShapeSearch
