import ShapeSearch.Proofs.Crawl
import ShapeSearch.Proofs.Store.Record

/-!
# How a call ends

A call of `discover` ends in one of a few ways (`CallEnd`): the store cannot be read, or it holds the answer,
or the root is searched.  A search (`SearchEnd`) ends without candidates, or with candidates of which none
fits, or with one that is chosen:

    CallEnd e w sig useCache (e.discoverFor w sig useCache)                          (discoverFor_ends)

A call that fails harms nothing.  A refused signature leaves everything as it is.  A search that finds nothing
leaves the files, the feedback and the loaded modules; in the store it drops at most an entry of the signature
itself that does not hold any more, so every lookup gives what it gave before (`Unharmed`).
-/

namespace ShapeSearch

namespace Cache

/-! ## Lookups that find nothing -/

/-- The entries that a store can serve besides those in memory: those it has taken over from its file, or will
take over. -/
def served (c : Cache) (w : World) : Except Misfit (Fields CacheEntry) :=
  if c.enabled then (c.ensureLoaded w).map (·.persisted) else .ok []

theorem served_memory (c : Cache) (memory : Lru CacheEntry) (w : World) :
    served { c with memory } w = c.served w := by
  have hload : load { c with memory } w = c.load w := rfl
  unfold served ensureLoaded install
  rw [hload]
  cases c.loaded with
  | true => simp [Except.map]
  | false => cases c.load w <;> simp [bind, Except.bind, Except.map]

/-- What a lookup gives for an entry in memory and entries that can be served. -/
def lookup (w : World) (key : String) (held : Option CacheEntry)
    (served : Except Misfit (Fields CacheEntry)) : Except Misfit (Option CacheEntry) := do
  match ← answer w held with
  | some e => .ok (some e)
  | none => answer w ((← served).get? key)

theorem getPersisted_eq_served (c : Cache) (w : World) (key : String) :
    (c.getPersisted w key).1 = (c.served w >>= fun es => answer w (es.get? key)) := by
  unfold served
  cases henabled : c.enabled with
  | false => simp [getPersisted, henabled, bind, Except.bind, answer]
  | true =>
    cases hloaded : c.ensureLoaded w with
    | error m =>
      simp only [getPersisted, henabled, if_true, hloaded]
      rfl
    | ok c' => exact getPersisted_eq_answer henabled hloaded

/-- A lookup depends on the entry in memory and on the entries that can be served, and on nothing else. -/
theorem get_eq_lookup (c : Cache) (w : World) (key : String) :
    (c.get w key).1 = lookup w key (c.memory.entries.get? key) (c.served w) := by
  unfold get Lru.get
  cases hheld : c.memory.entries.get? key with
  | none => exact getPersisted_eq_served c w key
  | some e =>
    simp only
    cases hvalid : e.isValid w w.nowMs with
    | error m => simp [lookup, answer, hvalid, bind, Except.bind]
    | ok valid =>
      cases valid with
      | true => simp [lookup, answer, hvalid, bind, Except.bind]
      | false =>
        rw [← served_memory c]
        simp only [lookup, answer, hvalid]
        exact getPersisted_eq_served _ w key

/-- A store from whose memory at most an entry under one key is gone, which did not hold any more. -/
structure Forgets (c : Cache) (w : World) (key : String) (c' : Cache) : Prop where
  memory : c'.memory = c.memory ∨ c'.memory = (c.memory.pop key).2 ∧
    ∃ e, c.memory.entries.get? key = some e ∧ e.isValid w w.nowMs = .ok false
  served : c'.served w = c.served w
  fixed : c.Fixed c'

theorem Forgets.refl (c : Cache) (w : World) (key : String) : c.Forgets w key c :=
  ⟨.inl rfl, rfl, rfl, rfl⟩

theorem get?_pop_self (m : Lru CacheEntry) (key : String) : (m.pop key).2.entries.get? key = none := by
  rw [Fields.get?_eq_none_iff]
  intro hmem
  obtain ⟨p, hp, hkey⟩ := List.mem_map.mp hmem
  exact (mem_lru_pop.mp hp).2 hkey

variable {key : String} {c : Cache} {w : World}

theorem get?_pop_of_ne (m : Lru CacheEntry) {k : String} (h : k ≠ key) :
    (m.pop key).2.entries.get? k = m.entries.get? k := by
  show Fields.get? (m.entries.filter fun p => decide (p.1 ≠ key)) k = _
  rw [Fields.get?_filter fun n => decide (n ≠ key)]
  simp [h]

theorem Forgets.get_eq {c' : Cache} (h : c.Forgets w key c') (k : String) : (c'.get w k).1 = (c.get w k).1 := by
  rw [get_eq_lookup, get_eq_lookup, h.served]
  rcases h.memory with hmemory | ⟨hmemory, e, he, hstale⟩
  · rw [hmemory]
  · rw [hmemory]
    by_cases hk : k = key
    · subst hk
      rw [get?_pop_self, he]
      simp [lookup, answer, hstale, bind, Except.bind]
    · rw [get?_pop_of_ne c.memory hk]

theorem served_ensureLoaded {c' : Cache} (h : c.ensureLoaded w = .ok c') :
    c'.served w = c.served w ∧ c'.memory = c.memory := by
  rcases ensureLoaded_eq_ok h with rfl | ⟨entries, -, rfl⟩
  · exact ⟨rfl, rfl⟩
  · refine ⟨?_, rfl⟩
    unfold served
    rw [h]
    rfl

/-- A lookup behind the memory tier that finds nothing has at most read the file. -/
theorem getPersisted_missed (h : (c.getPersisted w key).1 = .ok none) :
    (c.getPersisted w key).2.served w = c.served w ∧ (c.getPersisted w key).2.memory = c.memory := by
  unfold getPersisted at h ⊢
  split
  · next henabled =>
    rw [if_pos henabled] at h
    split
    · exact ⟨rfl, rfl⟩
    · next c' hloaded =>
      rw [hloaded] at h
      simp only at h
      split
      · exact served_ensureLoaded hloaded
      · next e he =>
        rw [he] at h
        simp only at h
        split
        · exact served_ensureLoaded hloaded
        · next hvalid =>
          rw [hvalid] at h
          cases h
        · exact served_ensureLoaded hloaded
  · exact ⟨rfl, rfl⟩

theorem pop_get {m memory : Lru CacheEntry} {e : CacheEntry} (h : m.get key = (some e, memory)) :
    (memory.pop key).2 = (m.pop key).2 := by
  unfold Lru.get at h
  split at h
  · cases h
    simp [Lru.pop, Fields.erase, List.filter_filter]
  · cases h

/-- A lookup that finds nothing drops at most an entry that does not hold any more. -/
theorem forgets_get (h : (c.get w key).1 = .ok none) : c.Forgets w key (c.get w key).2 := by
  unfold get at h ⊢
  split
  · next hnone =>
    rw [hnone] at h
    obtain ⟨hserved, hmemory⟩ := getPersisted_missed h
    exact ⟨.inl hmemory, hserved, fixed_getPersisted c w key⟩
  · next e memory hget =>
    have he : c.memory.entries.get? key = some e := by
      unfold Lru.get at hget
      split at hget
      · next hx =>
        cases hget
        exact hx
      · cases hget
    rw [hget] at h
    simp only at h ⊢
    split
    · next hvalid =>
      rw [hvalid] at h
      cases h
    · next hvalid =>
      rw [hvalid] at h
      cases h
    · next hstale =>
      rw [hstale] at h
      obtain ⟨hserved, hmemory⟩ := getPersisted_missed h
      have hfixed := fixed_getPersisted { c with memory := (memory.pop key).2 } w key
      exact ⟨.inr ⟨hmemory.trans (pop_get hget), e, he, hstale⟩, hserved.trans (served_memory c _ w), hfixed⟩

end Cache

namespace Engine

/-! ## The ends of a call -/

/-- How a search ends whose candidates have been collected: they could not be collected; none of them fits;
or one of them is chosen, and the store and the feedback learn of it. -/
inductive SearchEnd (e : Engine) (w : World) : Outcome SearchResult → Prop
  | failed {m : Misfit} : SearchEnd e w ⟨.error (.misfit m), e, w⟩
  | exhausted {f : Failure} : ((∃ err, f = .notFound err) ∨ ∃ m, f = .misfit m) →
      SearchEnd e w ⟨.error f, { e with phase := .exhausted }, w⟩
  | chosen {o : Except Failure SearchResult} {cache : Cache} {feedback : Option Feedback} {w' : World} :
      (∀ f, o = .error f → ∃ m, f = .misfit m) →
      SearchEnd e w ⟨o, { e with phase := .resolved, cache, feedback }, w'⟩

/-- How a call with a signature ends: the store cannot be read; it holds an answer; or the root is searched. -/
inductive CallEnd (e : Engine) (w : World) (sig : Signature) : Bool → Outcome SearchResult → Prop
  | unread {m : Misfit} {cache : Cache} : e.cache.get w (sig.key (some e.root)) = (.error m, cache) →
      CallEnd e w sig true ⟨.error (.misfit m), { e with cache }, w⟩
  | stored {entry : CacheEntry} {cache : Cache} {o : Except Failure SearchResult} :
      e.cache.get w (sig.key (some e.root)) = (.ok (some entry), cache) →
      (∀ f, o = .error f → ∃ m, f = .misfit m) →
      CallEnd e w sig true
        ⟨o, { e with cache, phase := .resolved, stats := { e.stats with cacheHits := e.stats.cacheHits + 1 } }, w⟩
  | searched {useCache : Bool} {e' : Engine} {out : Outcome SearchResult} :
      Crawl.Misses e w sig useCache e' → SearchEnd (e'.collect w sig false).2 w out →
      CallEnd e w sig useCache out

/-- A choice that is stored ends the search, whether or not storing it succeeds. -/
theorem remember_ends (e : Engine) (w : World) (key : String) (sig : Signature) (r : SearchResult)
    (winner : Candidate) :
    SearchEnd e w (remember { e with phase := .resolved } w key sig r winner) := by
  unfold remember
  split
  · exact .chosen fun f hf => ⟨_, (Except.error.inj hf).symm⟩
  · split
    · exact .chosen fun f hf => ⟨_, (Except.error.inj hf).symm⟩
    · simp only
      split
      · exact .chosen fun f hf => by cases hf
      · exact .chosen fun f hf => ⟨_, (Except.error.inj hf).symm⟩

theorem settle_ends (w : World) (key : String) (sig : Signature) (o : Except Misfit (List Candidate))
    (e : Engine) : SearchEnd e w (settle w key sig (o, e)) := by
  cases o with
  | error m => exact .failed
  | ok cs =>
    simp only [settle, rank, Engine.resolve]
    rcases Ranking.choose e.settings sig (Ranking.rank cs) with ⟨choice, reasons⟩
    cases choice with
    | some choice =>
      simp only
      cases Ranking.resultOf choice sig with
      | ok r => exact remember_ends e w key sig r choice.candidate
      | error m => exact .chosen fun f hf => ⟨m, (Except.error.inj hf).symm⟩
    | none =>
      simp only
      cases notFound { e with phase := .exhausted } w sig (Ranking.rank cs) reasons with
      | ok err => exact .exhausted (.inl ⟨err, rfl⟩)
      | error m => exact .exhausted (.inr ⟨m, rfl⟩)

theorem discoverFor_ends (e : Engine) (w : World) (sig : Signature) (useCache : Bool) :
    CallEnd e w sig useCache (e.discoverFor w sig useCache) := by
  cases useCache with
  | false => exact .searched .unasked (settle_ends _ _ _ _ _)
  | true =>
    rcases hget : e.cache.get w (sig.key (some e.root)) with ⟨found, cache⟩
    cases found with
    | error m =>
      rw [discoverFor, if_pos rfl, hget]
      exact .unread hget
    | ok found =>
      cases found with
      | none =>
        have hmiss : Crawl.Misses e w sig true _ := .absent hget
        rw [hmiss.discoverFor]
        exact .searched hmiss (settle_ends _ _ _ _ _)
      | some entry =>
        rw [discoverFor, if_pos rfl, hget]
        simp only [answerStored]
        split
        · exact .stored hget fun f hf => by cases hf
        · exact .stored hget fun f hf => ⟨_, (Except.error.inj hf).symm⟩

/-! ## Calls that fail -/

/-- What a call that finds nothing leaves behind.  The files, the feedback and the loaded modules are as
before, the store has lost at most a useless entry under the key of the call, and every lookup gives what it
gave. -/
structure Unharmed (e : Engine) (w : World) (key : String) (out : Outcome SearchResult) : Prop where
  world : out.world = w
  root : out.engine.root = e.root
  feedback : out.engine.feedback = e.feedback
  modules : out.engine.modules = e.modules
  cache : e.cache.Forgets w key out.engine.cache
  lookups : ∀ k, (out.engine.cache.get w k).1 = (e.cache.get w k).1

section Failing

variable {e : Engine} {w : World} {sig : Signature} {useCache : Bool} {out : Outcome SearchResult}

theorem CallEnd.not_signature (h : CallEnd e w sig useCache out) (x : SignatureError) :
    out.result ≠ .error (.signature x) := by
  intro hresult
  have hmisfit : ¬ ∃ m, Failure.signature x = .misfit m := by simp
  cases h with
  | unread hget => cases hresult
  | stored hget ho => exact hmisfit (ho _ hresult)
  | searched hmiss hsearch =>
    cases hsearch with
    | failed => cases hresult
    | exhausted hf =>
      cases hresult
      simp at hf
    | chosen ho => exact hmisfit (ho _ hresult)

/-- Only a search through the whole root finds nothing. -/
theorem CallEnd.of_notFound (h : CallEnd e w sig useCache out) {err : NotFound}
    (hresult : out.result = .error (.notFound err)) :
    ∃ e', Crawl.Misses e w sig useCache e' ∧
      out = ⟨.error (.notFound err), { (e'.collect w sig false).2 with phase := .exhausted }, w⟩ := by
  have hmisfit : ¬ ∃ m, Failure.notFound err = .misfit m := by simp
  cases h with
  | unread hget => cases hresult
  | stored hget ho => exact absurd (ho _ hresult) hmisfit
  | searched hmiss hsearch =>
    cases hsearch with
    | failed => cases hresult
    | exhausted hf =>
      cases hresult
      exact ⟨_, hmiss, rfl⟩
    | chosen ho => exact absurd (ho _ hresult) hmisfit

/-- Looking for a stored answer in vain changes only the store and the counts. -/
theorem forgets_of_misses {e' : Engine} (h : Crawl.Misses e w sig useCache e') :
    e.cache.Forgets w (sig.key (some e.root)) e'.cache ∧
      e'.root = e.root ∧ e'.feedback = e.feedback ∧ e'.modules = e.modules := by
  cases h with
  | unasked => exact ⟨.refl _ _ _, rfl, rfl, rfl⟩
  | absent hget =>
    have hforgets := Cache.forgets_get (congrArg Prod.fst hget)
    rw [hget] at hforgets
    exact ⟨hforgets, rfl, rfl, rfl⟩

theorem CallEnd.unharmed (h : CallEnd e w sig useCache out) {err : NotFound}
    (hresult : out.result = .error (.notFound err)) : e.Unharmed w (sig.key (some e.root)) out := by
  obtain ⟨e', hmiss, rfl⟩ := h.of_notFound hresult
  obtain ⟨hforgets, hroot, hfeedback, hmodules⟩ := forgets_of_misses hmiss
  obtain ⟨stats, hcollect⟩ := collect_engine e' w sig false
  rw [hcollect]
  exact ⟨rfl, hroot, hfeedback, hmodules, hforgets, hforgets.get_eq⟩

end Failing

/-- A call that fails leaves the stores intact.  One that refuses its signature changes nothing at all, and one
that finds nothing leaves everything as it is but for a useless entry under its own key, the counts and the
phase. -/
theorem discover_unharmed (e : Engine) (w : World) (signature : Json) (useCache : Bool) :
    (∀ x, (e.discover w signature useCache).result = .error (.signature x) →
      (e.discover w signature useCache).engine = e ∧ (e.discover w signature useCache).world = w) ∧
    (∀ err, (e.discover w signature useCache).result = .error (.notFound err) →
      ∃ sig, Signature.normalize signature = .ok sig ∧
        e.Unharmed w (sig.key (some e.root)) (e.discover w signature useCache)) := by
  unfold discover
  cases Signature.normalize signature with
  | error f =>
    refine ⟨fun x _ => ⟨rfl, rfl⟩, fun err h => ?_⟩
    cases f <;> cases h
  | ok sig =>
    have hend := discoverFor_ends e w sig useCache
    exact ⟨fun x h => absurd h (hend.not_signature x), fun err h => ⟨sig, rfl, hend.unharmed h⟩⟩

def expired : CacheEntry :=
  { path := "/a.py", access := {}, score := .number (.int 1), mtimeMs := .number (.int 0),
    expiresAt := some (.number (.int (-1))) }

/-- An engine whose memory tier holds an answer that has expired. -/
def forgetful : Engine :=
  { Ranking.plainEngine with
    cache := { Ranking.plainEngine.cache with
      memory := { capacity := 1, entries := [(Ranking.storeSignature.key (some "/"), expired)] } } }

def Outcome.foundNothing (out : Outcome SearchResult) : Bool :=
  match out.result with
  | .error (.notFound _) => true
  | _ => false

theorem Outcome.notFound_of_foundNothing {out : Outcome SearchResult} (h : out.foundNothing) :
    ∃ err, out.result = .error (.notFound err) := by
  unfold foundNothing at h
  split at h
  · next err herr => exact ⟨err, herr⟩
  · cases h

/-- A call in an empty directory finds nothing and drops the expired answer, and one with a signature that asks
for nothing is refused. -/
theorem discover_forgetful :
    let question := Json.obj [("type", .str "class"), ("methods", .arr [.str "get"])]
    (∃ err, (forgetful.discover {} question true).result = .error (.notFound err)) ∧
      forgetful.Unharmed {} (Ranking.storeSignature.key (some "/")) (forgetful.discover {} question true) ∧
      (∃ x, (forgetful.discover {} .null true).result = .error (.signature x)) ∧
      (forgetful.discover {} .null true).engine = forgetful := by
  intro question
  have hget : forgetful.cache.get {} (Ranking.storeSignature.key (some forgetful.root)) =
      (.ok none, Ranking.plainEngine.cache) := by
    have hstale : expired.isValid {} ({} : World).nowMs = .ok false := eq_ok_of_toOption (by decide +kernel)
    simp [forgetful, Ranking.plainEngine, Cache.get, Lru.get, Lru.pop, Fields.get?, Fields.erase, hstale,
      Cache.getPersisted]
  have hmiss : Crawl.Misses forgetful {} Ranking.storeSignature true _ := .absent hget
  have hout : forgetful.discover {} question true = _ := hmiss.discoverFor
  have hnothing : (forgetful.discover {} question true).foundNothing = true := by
    rw [hout]
    decide +kernel
  obtain ⟨err, herr⟩ := Outcome.notFound_of_foundNothing hnothing
  have hx : (forgetful.discover {} .null true).result = .error (.signature _) := rfl
  obtain ⟨sig, hsig, hunharmed⟩ := (discover_unharmed forgetful {} question true).2 err herr
  cases hsig
  exact ⟨⟨err, herr⟩, hunharmed, ⟨_, hx⟩, ((discover_unharmed forgetful {} .null true).1 _ hx).1⟩

end Engine

end ShapeSearch
