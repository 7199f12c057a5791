import Mathlib.Data.Set.Function
import Mathlib.Logic.Relation
import ShapeSearch.Proofs.Discovery.Call
import ShapeSearch.Proofs.Signature

/-!
# Histories of searches

Any number of engines, with any roots and settings, answer signatures and forget what they have stored, one
call after the other; in between the clock moves and files are written, moved and deleted.  Engines that lead
to one file share what is in it.  A call from the past can have failed to write.

An answer from the store is never made up: behind it stands an earlier call, for the same root and the same
signature, that searched and found just this result; the file has the time of change that it had then, and
the lifetime of the answer is not over:

    Run places s₀ s → e.discover s.world signature useCache gives r → r.fromCache →
      ∃ c ∈ s.calls, c.StandsBehind e s.world sig r …                            (discover_from_store)

The invariant (`Sound`) says of every entry, in the memory of any engine, among those it has taken over from
a file, and in any file now or before, that a call of the history stands behind it.
-/

namespace ShapeSearch

namespace History

open Engine

/-! ## Calls -/

structure Call where
  engine : Engine
  world : World
  signature : Json
  useCache : Bool

def Call.outcome (c : Call) : Outcome SearchResult :=
  c.engine.discover c.world c.signature c.useCache

/-- A call searches its root, for want of a stored answer or without looking for one, and finds a result.
It gives the result, unless it cannot be stored or announced. -/
structure Call.Resolves (c : Call) (sig : Signature) (r : SearchResult) (winner : Candidate) : Prop where
  signature : Signature.normalize c.signature = .ok sig
  missed : c.useCache = true → (c.engine.cache.get c.world (sig.key (some c.engine.root))).1 = .ok none
  finds : c.engine.Finds c.world sig r winner
  result : c.outcome.result = .ok r ∨ ∃ m, c.outcome.result = .error (.misfit m)

structure Call.Stores (c : Call) (key : String) (entry : CacheEntry) (sig : Signature) (r : SearchResult)
    (winner : Candidate) : Prop where
  resolves : c.Resolves sig r winner
  key : key = sig.key (some c.engine.root)
  path : entry.path = r.path
  access : entry.access = r.access
  score : entry.score = r.score
  kind : entry.kind = r.kind
  mtime : entry.mtimeMs = .number (winner.mtimeMs.getD (.int 0))
  expiry : CacheEntry.expiry c.engine.cache.lifetime c.world.nowMs = .ok entry.expiresAt

def Backed (calls : List Call) (key : String) (entry : CacheEntry) : Prop :=
  ∃ c ∈ calls, ∃ sig r winner, c.Stores key entry sig r winner

variable {calls : List Call} {key root : String} {entry : CacheEntry} {e : Engine} {sig : Signature}
  {r : SearchResult} {winner : Candidate}

theorem Backed.cons (h : Backed calls key entry) (c : Call) : Backed (c :: calls) key entry := by
  obtain ⟨c', hc', h⟩ := h
  exact ⟨c', List.mem_cons_of_mem c hc', h⟩

/-- An entry that is written and read again is backed by the same call. -/
theorem Backed.reread (h : Backed calls key entry) : Backed calls key entry.reread := by
  obtain ⟨c, hc, sig, r, winner, h⟩ := h
  exact ⟨c, hc, sig, r, winner, h.resolves, h.key, h.path, h.access, h.score, h.kind, h.mtime, h.expiry⟩

/-! ## Files of entries -/

/-- The file at one of some places holds an entry under a key. -/
def Held (places : Set (List String)) (w : World) (key : String) (entry : CacheEntry) : Prop :=
  ∃ p ∈ places, ∃ x entries, w.files.lookup p = some (.file x) ∧
    Cache.entriesOf (x.lines.getD "") = .ok entries ∧ (key, entry) ∈ entries

/-- A store keeps its file at one of some places. -/
def KeptAt (places : Set (List String)) (w : World) (c : Cache) : Prop :=
  ∀ f, c.file = some f → ∃ p ∈ places, w.place? f = some p

/-- There is no link at any of some places. -/
def Plain (places : Set (List String)) (w : World) : Prop :=
  ∀ p ∈ places, ∀ target, w.files.lookup p ≠ some (.link target)

variable {places : Set (List String)} {w w' : World} {P : String → CacheEntry → Prop} {c : Cache}

theorem held_of_load (hc : KeptAt places w c) (hw : Plain places w) {entries : Fields CacheEntry}
    (h : c.load w = .ok entries) (hm : (key, entry) ∈ entries) : Held places w key entry := by
  unfold Cache.load at h
  split at h
  · cases h
    cases hm
  · next f hf =>
    obtain ⟨p, hp, hplace⟩ := hc f hf
    obtain ⟨found, hprobe, h⟩ := bind_eq_ok.mp h
    split at h
    · next x => exact ⟨p, hp, x, entries, World.lookup_of_probe hplace (hw p hp) hprobe, h, hm⟩
    · cases h
      cases hm

/-- A world after a change in which only entries with a property come to the places. -/
structure Kept (places : Set (List String)) (P : String → CacheEntry → Prop) (w w' : World) : Prop where
  links : w.files.SameLinks w'.files
  cwd : w'.cwd = w.cwd
  held : ∀ key entry, Held places w' key entry → Held places w key entry ∨ P key entry

theorem Kept.refl (w : World) : Kept places P w w := ⟨.refl _, rfl, fun _ _ h => .inl h⟩

theorem Kept.keptAt (h : Kept places P w w') (hc : KeptAt places w c) : KeptAt places w' c := by
  intro f hf
  rw [World.place?_congr h.links h.cwd]
  exact hc f hf

theorem Kept.plain (h : Kept places P w w') (hw : Plain places w) : Plain places w' :=
  fun p hp target ht => hw p hp target ((h.links p target).mpr ht)

theorem Kept.of_quiet {new : List String → File → Prop} (h : World.Quiet new w w')
    (hnew : ∀ p x entries key entry, new p x → Cache.entriesOf (x.lines.getD "") = .ok entries →
      (key, entry) ∈ entries → P key entry) : Kept places P w w' := by
  refine ⟨h.links, h.cwd, ?_⟩
  rintro key entry ⟨p, hp, x, entries, hx, hentries, hm⟩
  rcases h.file p x hx with hx | hx
  · exact .inl ⟨p, hp, x, entries, hx, hentries, hm⟩
  · exact .inr (hnew p x entries key entry hx hentries hm)

theorem kept_writeEntries (hP : ∀ key entry, P key entry → P key entry.reread) (hc : KeptAt places w c)
    (hw : Plain places w) {f : String} (hf : c.file = some f) {entries : Fields CacheEntry}
    (he : ∀ key entry, (key, entry) ∈ entries → P key entry) :
    Kept places P w (Cache.writeEntries w f entries).2 := by
  obtain ⟨p, hp, hplace⟩ := hc f hf
  rcases hmade : w.makeParents f with ⟨made, w₁⟩
  have hquiet : ∀ new : List String → File → Prop, World.Quiet new w w₁ := by
    intro new
    have := @World.makeParents_quiet new w f
    rw [hmade] at this
    exact this
  -- the directories bring no file at all
  have hdirs : Kept places P w w₁ := .of_quiet (hquiet fun _ _ => False) fun _ _ _ _ _ hx => hx.elim
  rw [Cache.writeEntries, hmade]
  cases made with
  | false => exact hdirs
  | true =>
    cases htext : Cache.fileText entries with
    | error m => exact hdirs
    | ok text =>
      have hplace₁ : w₁.place? f = some p := ((hquiet fun _ _ => False).place?_eq f).trans hplace
      have hplaced : World.Quiet (fun q x => q = p ∧ x.text = some text) w₁ (w₁.placeText f text) :=
        World.placeText_quiet hplace₁ (hdirs.plain hw p hp)
      simp only
      refine Kept.of_quiet ((hquiet _).trans hplaced) fun q x loaded key entry hx hloaded hm => ?_
      rw [Cache.lines_of_fileText hx.2 htext, Option.getD_some] at hloaded
      obtain ⟨e', he', rfl⟩ := Cache.mem_entriesOf_fileText htext hloaded hm
      exact hP key e' (he key e' he')

theorem Kept.of_saves (hP : ∀ key entry, P key entry → P key entry.reread) (hc : KeptAt places w c)
    (hw : Plain places w) (h : c.Saves P w w') : Kept places P w w' := by
  rcases h with rfl | ⟨f, entries, hf, rfl, he⟩
  · exact .refl w'
  · exact kept_writeEntries hP hc hw hf he

theorem kept_clear (hc : KeptAt places w c) (hw : Plain places w) : Kept places P w (c.clear w).2 := by
  unfold Cache.clear
  simp only
  split
  · next f hf =>
    obtain ⟨p, hp, hplace⟩ := hc f hf
    have hquiet : World.Quiet (fun _ _ => False) w (w.unlink f) := World.unlink_quiet hplace (hw p hp)
    exact .of_quiet hquiet fun _ _ _ _ _ hx => hx.elim
  · exact .refl w

theorem cache_make {settings : Settings} (h : Engine.make w root settings = .ok e) :
    e.cache.memory.entries = [] ∧ e.cache.persisted = [] ∧ e.cache.loaded = false := by
  obtain ⟨_, -, h⟩ := bind_eq_ok.mp h
  obtain ⟨_, -, h⟩ := bind_eq_ok.mp h
  obtain ⟨_, -, h⟩ := bind_eq_ok.mp h
  obtain ⟨_, -, h⟩ := bind_eq_ok.mp h
  obtain ⟨_, -, h⟩ := bind_eq_ok.mp h
  obtain ⟨c, hc, h⟩ := bind_eq_ok.mp h
  obtain ⟨_, -, h⟩ := bind_eq_ok.mp h
  cases h
  obtain ⟨_, -, hc⟩ := bind_eq_ok.mp hc
  obtain ⟨_, -, hc⟩ := bind_eq_ok.mp hc
  cases hc
  exact ⟨rfl, rfl, rfl⟩

theorem holds_make {settings : Settings} (h : Engine.make w root settings = .ok e) : e.cache.Holds P := by
  obtain ⟨hmemory, hpersisted, -⟩ := cache_make h
  constructor
  · intro k v hm
    rw [hmemory] at hm
    cases hm
  · intro k v hm
    rw [hpersisted] at hm
    cases hm

/-! ## One call -/

theorem holds_consulted (h : e.cache.Holds P) (hf : e.cache.Finds P w) (key : String) (useCache : Bool) :
    (e.consulted w key useCache).Holds P := by
  unfold consulted
  split
  · exact (h.get hf).1
  · exact h

theorem fixed_consulted (e : Engine) (w : World) (key : String) (useCache : Bool) :
    e.cache.Fixed (e.consulted w key useCache) := by
  unfold consulted
  split
  · exact Cache.fixed_get e.cache w key
  · exact ⟨rfl, rfl⟩

/-- What a call leaves behind if all entries have a property: so have the entries in its store, and all that
it writes. -/
structure Call.Keeps (c : Call) (P : String → CacheEntry → Prop) : Prop where
  fixed : c.engine.cache.Fixed c.outcome.engine.cache
  holds : c.outcome.engine.cache.Holds P
  saves : c.engine.cache.Saves P c.world c.outcome.world

theorem Call.stores {c : Call} (hresolves : c.Resolves sig r winner) {e₁ : Engine}
    (hfixed : c.engine.cache.Fixed e₁.cache) (hentry : e₁.entryOf c.world r winner = .ok entry) :
    c.Stores (sig.key (some c.engine.root)) entry sig r winner := by
  obtain ⟨hpath, haccess, hscore, hkind, -, hmtime, hexpiry⟩ := entryOf_eq_ok hentry
  obtain ⟨-, -, hnumber, -⟩ := hresolves.finds.result
  rw [hfixed.2] at hexpiry
  exact ⟨hresolves, rfl, hpath, haccess, hscore.trans hnumber.symm, hkind, hmtime, hexpiry⟩

theorem Call.keeps {c : Call} (h : c.engine.cache.Holds P) (hf : c.engine.cache.Finds P c.world)
    (hP : ∀ key entry sig r winner, c.Stores key entry sig r winner → P key entry) : c.Keeps P := by
  cases hsig : Signature.normalize c.signature with
  | error f =>
    have hout : c.outcome = ⟨.error (.ofSignature f), c.engine, c.world⟩ := by
      rw [Call.outcome, discover, hsig]
    exact ⟨by rw [hout]; exact ⟨rfl, rfl⟩, by rw [hout]; exact h, by rw [hout]; exact .inl rfl⟩
  | ok sig =>
    have hout : c.outcome = c.engine.discoverFor c.world sig c.useCache := by
      rw [Call.outcome, discover, hsig]
    obtain ⟨-, hcases⟩ := discoverFor_cases c.engine c.world sig c.useCache
    rw [← hout] at hcases
    have hfixed := fixed_consulted c.engine c.world (sig.key (some c.engine.root)) c.useCache
    have hholds := holds_consulted h hf (sig.key (some c.engine.root)) c.useCache
    rcases hcases with ha | hfail | ⟨hmissed, r, winner, hfinds, hs⟩
    · exact ⟨by rw [ha.cache]; exact hfixed, by rw [ha.cache]; exact hholds, .inl ha.world⟩
    · exact ⟨by rw [hfail.cache]; exact hfixed, by rw [hfail.cache]; exact hholds, .inl hfail.world⟩
    · obtain ⟨entry, hentry, hcache, hworld⟩ := hs.put
      have hstores := Call.stores ⟨hsig, hmissed, hfinds, hs.result⟩ hfixed hentry
      have hload := Cache.load_congr hfixed.1 c.world
      obtain ⟨hput, hsaves⟩ := hholds.put (fun entries hl => hf entries (hload ▸ hl)) (hP _ _ _ _ _ hstores)
      have hfixed' := Cache.fixed_put (c.engine.consulted c.world (sig.key (some c.engine.root)) c.useCache)
        c.world (sig.key (some c.engine.root)) entry
      refine ⟨?_, by rw [hcache]; exact hput, ?_⟩
      · rw [hcache]
        exact ⟨hfixed'.1.trans hfixed.1, hfixed'.2.trans hfixed.2⟩
      · rw [hworld]
        refine hsaves.imp_right ?_
        rintro ⟨f, entries, hfile, hrest⟩
        exact ⟨f, entries, hfixed.1 ▸ hfile, hrest⟩

/-- An answer from the store is an entry that still holds. -/
theorem Call.answered {c : Call} (h : c.engine.cache.Holds P) (hf : c.engine.cache.Finds P c.world)
    {r : SearchResult} (hr : c.outcome.result = .ok r) (hcache : r.fromCache) :
    ∃ sig entry, Signature.normalize c.signature = .ok sig ∧ P (sig.key (some c.engine.root)) entry ∧
      entry.isValid c.world c.world.nowMs = .ok true ∧
      storedResult c.engine.root c.world entry sig = .ok r := by
  obtain ⟨sig, hsig, -, ⟨entry, hget, hstored⟩ | ⟨winner, hfinds, -⟩⟩ := discover_eq_ok hr
  · obtain ⟨hp, hvalid⟩ := (h.get hf).2 entry hget
    exact ⟨sig, entry, hsig, hp, hvalid, hstored⟩
  · -- what a search finds does not come from the store
    cases hfinds.result.2.1.symm.trans hcache

theorem storedResult_eq_ok (h : storedResult root w entry sig = .ok r) :
    r.path = entry.path ∧ r.access = entry.access ∧ r.score = entry.score ∧ r.kind = entry.kind := by
  obtain ⟨breakdown, -, h⟩ := bind_eq_ok.mp h
  obtain ⟨relativePath, -, h⟩ := bind_eq_ok.mp h
  cases h
  exact ⟨rfl, rfl, rfl, rfl⟩

/-! ## Sessions -/

/-- A history so far: the engines there are, the world, every world there has been, and the calls that were
made. -/
structure Session where
  engines : List Engine
  world : World
  past : List World
  calls : List Call

/-- A world in which nobody has put entries of their own into the files.  Files may be deleted and emptied,
and what they held before may come back. -/
structure Undisturbed (places : Set (List String)) (s : Session) (w : World) : Prop where
  kept : ∀ e ∈ s.engines, KeptAt places w e.cache
  plain : Plain places w
  held : ∀ key entry, Held places w key entry → ∃ w₀ ∈ s.past, Held places w₀ key entry

/-- What can happen next. -/
inductive Step (places : Set (List String)) (s : Session) : Session → Prop
  /-- an engine is made, whose file is at one of the places -/
  | make {root : String} {settings : Settings} {e : Engine} (he : Engine.make s.world root settings = .ok e)
      (hkept : KeptAt places s.world e.cache) : Step places s { s with engines := s.engines ++ [e] }
  /-- an engine answers a signature; the file may fail to be written -/
  | discover {i : Nat} {e : Engine} (he : s.engines[i]? = some e) (signature : Json) (useCache : Bool)
      {w : World} (hw : w = (e.discover s.world signature useCache).world ∨ Undisturbed places s w) :
      Step places s
        ⟨s.engines.set i (e.discover s.world signature useCache).engine, w, w :: s.past,
          ⟨e, s.world, signature, useCache⟩ :: s.calls⟩
  /-- an engine forgets what it has stored; the file may fail to be deleted -/
  | clear {i : Nat} {e : Engine} (he : s.engines[i]? = some e) {w : World}
      (hw : w = (e.clearCache s.world).2 ∨ Undisturbed places s w) :
      Step places s ⟨s.engines.set i (e.clearCache s.world).1, w, w :: s.past, s.calls⟩
  /-- an engine does something that leaves its store as it is -/
  | other {i : Nat} {e e' : Engine} (he : s.engines[i]? = some e) (hcache : e'.cache = e.cache) :
      Step places s { s with engines := s.engines.set i e' }
  /-- the clock moves, and files are written, moved and deleted -/
  | outside {w : World} (hw : Undisturbed places s w) :
      Step places s { s with world := w, past := w :: s.past }

def Run (places : Set (List String)) : Session → Session → Prop :=
  Relation.ReflTransGen (Step places)

/-- Before anything happens, there are no engines, and the files at the places are absent or hold no
entries. -/
structure Start (places : Set (List String)) (s : Session) : Prop where
  engines : s.engines = []
  past : s.past = [s.world]
  calls : s.calls = []
  plain : Plain places s.world
  empty : ∀ key entry, ¬ Held places s.world key entry

/-! ## The invariant -/

/-- Behind every entry, wherever it is or was, stands a call. -/
structure Sound (places : Set (List String)) (s : Session) : Prop where
  plain : Plain places s.world
  kept : ∀ e ∈ s.engines, KeptAt places s.world e.cache
  stores : ∀ e ∈ s.engines, e.cache.Holds (Backed s.calls)
  now : s.world ∈ s.past
  files : ∀ w ∈ s.past, ∀ key entry, Held places w key entry → Backed s.calls key entry

variable {s s' : Session}

theorem Start.sound (h : Start places s) : Sound places s where
  plain := h.plain
  kept e he := by
    rw [h.engines] at he
    cases he
  stores e he := by
    rw [h.engines] at he
    cases he
  now := by
    rw [h.past]
    exact List.mem_singleton_self s.world
  files w hw key entry hheld := by
    rw [h.past] at hw
    rw [List.mem_singleton.mp hw] at hheld
    exact (h.empty key entry hheld).elim

theorem Sound.finds (h : Sound places s) (he : e ∈ s.engines) : e.cache.Finds (Backed s.calls) s.world :=
  fun _ hload key entry hm =>
    h.files s.world h.now key entry (held_of_load (h.kept e he) h.plain hload hm)

/-- The invariant after a step that changes the world: the engines keep their files, their stores hold what
calls have stored, and so does the world. -/
theorem Sound.moved (h : Sound places s) {engines : List Engine}
    (hcalls : ∀ key entry, Backed s.calls key entry → Backed calls key entry)
    (hengines : ∀ e' ∈ engines, (∃ e ∈ s.engines, e.cache.Fixed e'.cache) ∧ e'.cache.Holds (Backed calls))
    (hw : Kept places (Backed calls) s.world w ∨ Undisturbed places s w) :
    Sound places ⟨engines, w, w :: s.past, calls⟩ where
  plain := hw.elim (fun hk => hk.plain h.plain) fun hu => hu.plain
  kept e' he' := by
    obtain ⟨⟨e, he, hfixed⟩, -⟩ := hengines e' he'
    have hkept : KeptAt places w e.cache := hw.elim (fun hk => hk.keptAt (h.kept e he)) fun hu => hu.kept e he
    intro f hf
    exact hkept f (hfixed.1 ▸ hf)
  stores e' he' := (hengines e' he').2
  now := List.mem_cons_self
  files w' hw' key entry hheld := by
    have hpast : ∀ w₀ ∈ s.past, Held places w₀ key entry → Backed calls key entry :=
      fun w₀ hw₀ hh => hcalls key entry (h.files w₀ hw₀ key entry hh)
    rcases List.mem_cons.mp hw' with rfl | hw'
    · rcases hw with hk | hu
      · rcases hk.held key entry hheld with hh | hp
        · exact hpast s.world h.now hh
        · exact hp
      · obtain ⟨w₀, hw₀, hh⟩ := hu.held key entry hheld
        exact hpast w₀ hw₀ hh
    · exact hpast w' hw' hheld

theorem Sound.engines_set (h : Sound places s) {i : Nat} {e' : Engine} (he : s.engines[i]? = some e)
    (hcalls : ∀ key entry, Backed s.calls key entry → Backed calls key entry) (hfixed : e.cache.Fixed e'.cache)
    (hholds : e'.cache.Holds (Backed calls)) :
    ∀ x ∈ s.engines.set i e', (∃ y ∈ s.engines, y.cache.Fixed x.cache) ∧ x.cache.Holds (Backed calls) := by
  intro x hx
  rcases List.mem_or_eq_of_mem_set hx with hx | rfl
  · have hstore := h.stores x hx
    exact ⟨⟨x, hx, rfl, rfl⟩, fun k v hm => hcalls k v (hstore.memory k v hm),
      fun k v hm => hcalls k v (hstore.persisted k v hm)⟩
  · exact ⟨⟨e, List.mem_of_getElem? he, hfixed⟩, hholds⟩

theorem Sound.step (h : Sound places s) (hstep : Step places s s') : Sound places s' := by
  cases hstep with
  | make he hkept =>
    refine ⟨h.plain, fun x hx => ?_, fun x hx => ?_, h.now, h.files⟩
    · rcases List.mem_append.mp hx with hx | hx
      · exact h.kept x hx
      · rw [List.mem_singleton.mp hx]
        exact hkept
    · rcases List.mem_append.mp hx with hx | hx
      · exact h.stores x hx
      · rw [List.mem_singleton.mp hx]
        exact holds_make he
  | @discover i e he signature useCache w hw =>
    have hmem := List.mem_of_getElem? he
    have hcons : ∀ key entry, Backed s.calls key entry →
        Backed (⟨e, s.world, signature, useCache⟩ :: s.calls) key entry := fun _ _ hb => hb.cons _
    have hkeeps : (⟨e, s.world, signature, useCache⟩ : Call).Keeps
        (Backed (⟨e, s.world, signature, useCache⟩ :: s.calls)) := by
      refine Call.keeps ?_ ?_ fun key entry sig r winner hs => ?_
      · exact ⟨fun k v hm => hcons k v ((h.stores e hmem).memory k v hm),
          fun k v hm => hcons k v ((h.stores e hmem).persisted k v hm)⟩
      · exact fun entries hload k v hm => hcons k v (h.finds hmem entries hload k v hm)
      · exact ⟨_, List.mem_cons_self, sig, r, winner, hs⟩
    refine h.moved hcons (h.engines_set he hcons hkeeps.fixed hkeeps.holds) (hw.imp_left ?_)
    rintro rfl
    exact .of_saves (fun _ _ hb => hb.reread) (h.kept e hmem) h.plain hkeeps.saves
  | @clear i e he w hw =>
    have hmem := List.mem_of_getElem? he
    refine h.moved (fun _ _ hb => hb) (h.engines_set he (fun _ _ hb => hb) ⟨rfl, rfl⟩
      (Cache.holds_clear _ e.cache s.world)) (hw.imp_left ?_)
    rintro rfl
    exact kept_clear (h.kept e hmem) h.plain
  | @other i e e' he hcache =>
    have hmem := List.mem_of_getElem? he
    refine ⟨h.plain, fun x hx => ?_, fun x hx => ?_, h.now, h.files⟩
    · rcases List.mem_or_eq_of_mem_set hx with hx | rfl
      · exact h.kept x hx
      · rw [hcache]
        exact h.kept e hmem
    · rcases List.mem_or_eq_of_mem_set hx with hx | rfl
      · exact h.stores x hx
      · rw [hcache]
        exact h.stores e hmem
  | outside hw =>
    exact h.moved (fun _ _ hb => hb) (fun e he => ⟨⟨e, he, rfl, rfl⟩, h.stores e he⟩) (.inr hw)

theorem Sound.run (h : Sound places s) (hrun : Run places s s') : Sound places s' := by
  induction hrun with
  | refl => exact h
  | tail _ hstep ih => exact ih.step hstep

/-- A change that leaves what is at the places, and which paths lead there, disturbs nothing. -/
theorem Sound.undisturbed (h : Sound places s) (hplace : ∀ f, w.place? f = s.world.place? f)
    (hfiles : ∀ p ∈ places, w.files.lookup p = s.world.files.lookup p) : Undisturbed places s w where
  kept e he f hf := by
    rw [hplace]
    exact h.kept e he f hf
  plain p hp target := by
    rw [hfiles p hp]
    exact h.plain p hp target
  held key entry := by
    rintro ⟨p, hp, x, entries, hx, hrest⟩
    exact ⟨s.world, h.now, p, hp, x, entries, hfiles p hp ▸ hx, hrest⟩

/-! ## Answers from the store -/

/-- While an entry holds, the file has the time of change that it had when the entry was stored. -/
theorem Call.Stores.mtimes {c : Call} {sig₀ : Signature} {r₀ : SearchResult}
    (h : c.Stores key entry sig₀ r₀ winner)
    (hvalid : entry.isValid w w.nowMs = .ok true) :
    ∃ t₀ t, winner.mtimeMs = some t₀ ∧ c.world.mtimeMs r₀.path = .ok t₀ ∧ w.mtimeMs entry.path = .ok t ∧
      t.eq t₀ = true := by
  obtain ⟨-, t, ht, heq⟩ := CacheEntry.isValid_eq_true hvalid
  obtain ⟨t₀, hwinner, hmtime⟩ := h.resolves.finds.describes.mtime
  rw [← h.resolves.finds.result.1] at hmtime
  rw [h.mtime, hwinner] at heq
  exact ⟨t₀, t, hwinner, hmtime, ht, heq⟩

/-- A directory with a file of some text, and with the file of a store if there is one; every command prints its
input. -/
def solo (text : String) (clock : Float) (x : Option File) : World :=
  { files := .dir (("a.py", .file ⟨0, some text, 7⟩) :: x.toList.map fun x => ("c.json", .file x)), clock,
    commands := fun _ _ _ input _ => .ok (.finished ⟨0, input, ""⟩) }

theorem files_solo (text : String) (clock clock' : Float) (x : Option File) :
    (solo text clock x).files = (solo text clock' x).files := rfl

theorem place?_solo (text : String) (clock clock' : Float) (x : Option File) (f : String) :
    (solo text clock x).place? f = (solo text clock' x).place? f := rfl

theorem atTop_solo (text : String) (clock : Float) (x : Option File) : (solo text clock x).AtTop "/c.json" "c.json"
    (("a.py", .file ⟨0, some text, 7⟩) :: x.toList.map fun x => ("c.json", .file x)) x := by
  refine ⟨rfl, ?_, by decide +kernel⟩
  cases x <;> simp [Fields.get?]

theorem stat_solo (text : String) (clock : Float) (x : Option File) :
    (solo text clock x).stat "/a.py" = .ok (.file ⟨0, some text, 7⟩) := by
  have htop : (solo text clock x).AtTop "/a.py" "a.py" _ (some ⟨0, some text, 7⟩) :=
    ⟨rfl, rfl, by decide +kernel⟩
  exact htop.stat_eq

theorem mtimeMs_solo (text : String) (clock : Float) (x : Option File) :
    (solo text clock x).mtimeMs "/a.py" = .ok (milliseconds 7) := by
  rw [World.mtimeMs, bind_ok (stat_solo text clock x)]
  rfl

theorem lookup_solo {text : String} {clock : Float} {x : Option File} {q : List String} {n : Node}
    (h : (solo text clock x).files.lookup q = some n) :
    (q = [] ∧ ∃ es, n = .dir es) ∨ (q = ["a.py"] ∧ n = .file ⟨0, some text, 7⟩) ∨
      (q = ["c.json"] ∧ ∃ f, x = some f ∧ n = .file f) := by
  cases q with
  | nil =>
    cases h
    exact .inl ⟨rfl, _, rfl⟩
  | cons name q =>
    obtain ⟨m, hm, hrest⟩ := Option.bind_eq_some_iff.mp h
    have hmem : (name, m) ∈ ("a.py", Node.file ⟨0, some text, 7⟩) :: x.toList.map fun x => ("c.json", .file x) :=
      Fields.mem_of_get? hm
    -- below a file there is nothing
    have hfile : ∀ f, m = .file f → q = [] ∧ n = .file f := by
      rintro f rfl
      cases q with
      | nil =>
        cases hrest
        exact ⟨rfl, rfl⟩
      | cons _ _ => cases hrest
    rcases List.mem_cons.mp hmem with heq | hmem
    · cases heq
      obtain ⟨rfl, rfl⟩ := hfile _ rfl
      exact .inr (.inl ⟨rfl, rfl⟩)
    · obtain ⟨f, hf, heq⟩ := List.mem_map.mp hmem
      cases heq
      obtain ⟨rfl, rfl⟩ := hfile _ rfl
      exact .inr (.inr ⟨rfl, f, Option.mem_toList.mp hf, rfl⟩)

/-- A directory with an empty file, and the file of a store, if it is there. -/
def lone (clock : Float) (x : Option File) : World :=
  solo "" clock x

theorem writeEntries_lone (entries : Fields CacheEntry) :
    ∃ x, (Cache.writeEntries (lone 5.0 none) "/c.json" entries).2 = lone 5.0 x := by
  have hmade : (lone 5.0 none).makeParents "/c.json" = (true, lone 5.0 none) := rfl
  rw [Cache.writeEntries, hmade]
  cases Cache.fileText entries with
  | error m => exact ⟨none, rfl⟩
  | ok text => exact ⟨some _, rfl⟩

def loneSettings : Settings :=
  { extensions := .ofTexts [".py"], scoring := .obj [], cacheFile := .str "/c.json" }

def loneEngine : Engine :=
  { root := "/", settings := loneSettings, maxConcurrency := 8, aliases := none, feedback := none,
    cache := { file := some "/c.json", lifetime := .ofInt 86400, enabled := true,
               memory := { capacity := 100 } },
    modules := { capacity := 100 } }

theorem put_lone (key : String) (entry : CacheEntry) :
    ∃ x, (loneEngine.cache.put (lone 5.0 none) key entry).2.2 = lone 5.0 x := by
  have hholds : loneEngine.cache.Holds fun _ _ => True := ⟨fun _ _ _ => trivial, fun _ _ _ => trivial⟩
  obtain ⟨-, hsaves⟩ := @Cache.Holds.put _ _ (lone 5.0 none) key entry hholds (fun _ _ _ _ _ => trivial) trivial
  rcases hsaves with h | ⟨f, entries, hf, h, -⟩
  · exact ⟨none, h⟩
  · cases hf
    rw [h]
    exact writeEntries_lone entries

def moduleSignature : Signature := { type := some .module }

/-- Whether a search collects one candidate and ends with a result that passes a test. -/
def findsSingle (e : Engine) (w : World) (sig : Signature) (p : SearchResult → Candidate → Bool) : Bool :=
  match (e.collect w sig false).1 with
  | .ok [c] => (e.resolve w [c] sig).1.toOption.any fun x => p x.1 x.2
  | _ => false

theorem finds_of_single {p : SearchResult → Candidate → Bool} (h : findsSingle e w sig p) :
    ∃ r winner, e.Finds w sig r winner ∧ p r winner = true := by
  unfold findsSingle at h
  split at h
  · next c hcollect =>
    have hrank : Ranking.rank [c] = [c] := List.mergeSort_singleton c
    cases hresolve : (e.resolve w [c] sig).1 with
    | error f =>
      rw [hresolve] at h
      cases h
    | ok x =>
      rw [hresolve] at h
      exact ⟨x.1, x.2, ⟨[c], hcollect, by rw [hrank]; exact hresolve⟩, h⟩
  · cases h

def isZero : Number → Bool
  | .int n => n == 0
  | .float x => x.toBits == 0

/-- A result for the file whose entry can be written, with a score that can be announced and no points. -/
def isPlain (e : Engine) (text : String) (r : SearchResult) (winner : Candidate) : Bool :=
  (e.entryOf (solo text 5.0 none) r winner).toOption.any (fun entry => entry.toJson.isWritable) &&
    (Decimal.general r.score.value).toOption.isSome && winner.path == "/a.py" &&
    r.breakdown.all (fun p => isZero p.2.value) && r.breakdown.any fun p =>
      match p.2.value with
      | .float _ => true
      | .int _ => false

theorem finds_lone : ∃ r winner, loneEngine.Finds (lone 5.0 none) moduleSignature r winner ∧
    isPlain loneEngine "" r winner = true ∧ r.exportName = some "a" := by
  have hfound : findsSingle loneEngine (lone 5.0 none) moduleSignature (fun r winner =>
      isPlain loneEngine "" r winner && r.exportName == some "a") = true := by decide +kernel
  simpa using finds_of_single hfound

def moduleQuestion : Json := .obj [("type", .str "module")]

theorem expiry_solo (text : String) (x : Option File) (t : Quantity)
    (h : CacheEntry.expiry loneEngine.cache.lifetime (solo text 5.0 none).nowMs = .ok (some t)) :
    t.value.le (solo text 60.0 x).nowMs = false := by
  have hnow : (CacheEntry.expiry loneEngine.cache.lifetime (lone 5.0 none).nowMs).toOption.all (fun t =>
      !t.any fun t => t.value.le (lone 60.0 none).nowMs) = true := by decide +kernel
  have hclock : (solo text 60.0 x).nowMs = (lone 60.0 none).nowMs := rfl
  have hstart : (solo text 5.0 none).nowMs = (lone 5.0 none).nowMs := rfl
  rw [hstart] at h
  rw [h] at hnow
  rw [hclock]
  simpa [Except.toOption] using hnow

theorem expiry_lone : ∃ t, CacheEntry.expiry loneEngine.cache.lifetime (lone 5.0 none).nowMs = .ok t := by
  have hsome : (CacheEntry.expiry loneEngine.cache.lifetime (lone 5.0 none).nowMs).toOption.isSome = true := by
    decide +kernel
  cases h : CacheEntry.expiry loneEngine.cache.lifetime (lone 5.0 none).nowMs with
  | error m =>
    rw [h] at hsome
    cases hsome
  | ok t => exact ⟨t, rfl⟩

/-- The file is found by a search and then, a minute later, in the store. -/
theorem discover_lone : ∃ out x, loneEngine.discover (lone 5.0 none) moduleQuestion false = out ∧
    out.engine.root = "/" ∧ out.world = lone 5.0 x ∧
    ∃ r, (out.engine.discover (lone 60.0 x) moduleQuestion true).result = .ok r ∧ r.fromCache = true := by
  have hsig : Signature.normalize moduleQuestion = .ok moduleSignature := rfl
  obtain ⟨r, winner, hfinds, hplain, -⟩ := finds_lone
  have hpath : winner.path = "/a.py" := by
    simp only [isPlain, Bool.and_eq_true, beq_iff_eq] at hplain
    exact hplain.1.1.2
  obtain ⟨expiresAt, hexpiry⟩ := expiry_lone
  obtain ⟨entry, hentry⟩ := entryOf_of_expiry hexpiry r winner
  obtain ⟨hroot, hstored⟩ := discover_stores hsig hfinds hentry
  generalize hout : loneEngine.discover (lone 5.0 none) moduleQuestion false = out at hroot hstored
  obtain ⟨x, hx⟩ : ∃ x, out.world = lone 5.0 x := by
    obtain ⟨entry', -, -, hworld⟩ := hstored.put
    rw [hworld]
    exact put_lone _ entry'
  rw [← hfinds.result.1] at hpath
  have hmtime : (lone 60.0 x).mtimeMs r.path = (lone 5.0 none).mtimeMs r.path := by
    rw [hpath]
    exact (mtimeMs_solo "" 60.0 x).trans (mtimeMs_solo "" 5.0 none).symm
  obtain ⟨shown, hshown⟩ := shownPath_again hfinds hmtime loneEngine.root
  obtain ⟨entry, -, hagain⟩ := hstored.discover_again hsig hfinds hroot (by decide) hshown fun entry hentry =>
    isValid_entryOf hfinds hentry hmtime (expiry_solo "" x)
  exact ⟨out, x, rfl, hroot, hx, _, hagain, rfl⟩

theorem start_solo (text : String) : Start {["c.json"]} ⟨[], solo text 5.0 none, [solo text 5.0 none], []⟩ := by
  have hnone : ∀ p ∈ ({["c.json"]} : Set (List String)), ∀ n, (solo text 5.0 none).files.lookup p ≠ some n := by
    rintro p rfl n hn
    rcases lookup_solo hn with ⟨hq, -⟩ | ⟨hq, -⟩ | ⟨-, f, hf, -⟩
    · cases hq
    · simp at hq
    · cases hf
  refine ⟨rfl, rfl, rfl, fun p hp target => hnone p hp _, ?_⟩
  rintro key entry ⟨p, hp, x, entries, hx, -⟩
  exact hnone p hp _ hx

theorem make_lone : Engine.make (lone 5.0 none) "/" loneSettings = .ok loneEngine := rfl

theorem keptAt_solo (text : String) (clock : Float) (x : Option File) :
    KeptAt {["c.json"]} (solo text clock x) loneEngine.cache := by
  rintro f hf
  cases hf
  exact ⟨["c.json"], rfl, (atTop_solo text clock x).place?_eq⟩

end History

end ShapeSearch
