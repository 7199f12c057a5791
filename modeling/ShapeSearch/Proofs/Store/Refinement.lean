import ShapeSearch.Proofs.Store.Record

/-!
# A store as a map

One store works on its file, and nobody else writes to it.  Between its calls the clock and all other files
change as they like.  Whatever the size of the memory tier, a lookup then gives what a plain map gives that
only holds the records of the first file and the updates since, filtered by whether the entry holds now.  For
`make … size = .ok c`, `Opens w f m₀` and `Run ⟨c, w⟩ log s`, and with `replay m₀ log key` for the entry of
the map,

    (∃ found, (s.cache.get s.world key).1 = .ok found) ↔ the entry, if there is one, can be checked
    (s.cache.get s.world key).1 = .ok found → found is the entry if it holds, and nothing otherwise  (get_refines_map)

The invariant (`Coherent`) says of each tier what it knows of the map: the file holds it, the entries taken over
from the file hold it, and those in memory are some of it.  An entry that no longer holds leaves the memory
tier only; it is found again behind it when it holds again.
-/

namespace ShapeSearch

theorem CacheEntry.Alike.isValid_eq {a b : CacheEntry} (h : a.Alike b) (w : World) (now : Number) :
    a.isValid w now = b.isValid w now := by
  have hplain : ∀ e : CacheEntry, e.isValid w now = isValid { e with breakdown := [] } w now := fun _ => rfl
  rw [hplain a, hplain b, h.rest]

namespace Session

open Cache (answer)
open Sharing (Update Shows replay)

variable {c : Cache} {w : World} {f : String}

/-! ## Calls -/

structure State where
  cache : Cache
  world : World

/-- The outcome of a call whose file operations have succeeded: the file holds the entries of the store. -/
def Saved (r : Except Misfit Unit × Cache × World) : Prop :=
  r.1 = .ok () ∧ r.2.1.Keeps r.2.2 r.2.1.persisted

/-- The file of a store is gone. -/
def Gone (r : Cache × World) : Prop :=
  ∃ f, r.1.file = some f ∧ r.2.probe f = .ok none

/-- The file of a store has the text that it had before, or one in which no half of a pair stands alone. -/
def StaysPaired (c : Cache) (before after : World) : Prop :=
  ∀ f x, c.file = some f → after.probe f = .ok (some (.file x)) →
    Cache.Paired x ∨ ∃ y, before.probe f = .ok (some (.file y)) ∧ y.text = x.text

/-- One call, or a change of the surroundings after which the same entries are read from the file; the list
holds the update that the call makes. -/
inductive Step : State → List Update → State → Prop
  | outside {s : State} (w : World) (hpaired : StaysPaired s.cache s.world w)
      (h : s.cache.load w = s.cache.load s.world) : Step s [] ⟨s.cache, w⟩
  | get {s : State} (key : String) : Step s [] ⟨(s.cache.get s.world key).2, s.world⟩
  | put {s : State} (key : String) {e : CacheEntry} (he : e.breakdown.keys.Nodup)
      (h : Saved (s.cache.put s.world key e)) :
      Step s [.put key e] ⟨(s.cache.put s.world key e).2.1, (s.cache.put s.world key e).2.2⟩
  | invalidate {s : State} (key : String) (h : Saved (s.cache.invalidate s.world key)) :
      Step s [.invalidate key] ⟨(s.cache.invalidate s.world key).2.1, (s.cache.invalidate s.world key).2.2⟩
  | clear {s : State} (h : Gone (s.cache.clear s.world)) :
      Step s [.clear] ⟨(s.cache.clear s.world).1, (s.cache.clear s.world).2⟩

/-- Any number of calls, with all updates that they make. -/
inductive Run : State → List Update → State → Prop
  | refl (s : State) : Run s [] s
  | step {s s' s'' : State} {log us : List Update} : Run s log s' → Step s' us s'' → Run s (log ++ us) s''

/-! ## Answers -/

/-- The same misfit, or the same entry whatever the order of the parts of its breakdown. -/
inductive SameAnswer : Except Misfit (Option CacheEntry) → Except Misfit (Option CacheEntry) → Prop
  | error (m : Misfit) : SameAnswer (.error m) (.error m)
  | ok {a b : Option CacheEntry} (h : Option.Rel CacheEntry.Alike a b) : SameAnswer (.ok a) (.ok b)

theorem sameAnswer_answer {a b : Option CacheEntry} (h : Option.Rel CacheEntry.Alike a b) (w : World) :
    SameAnswer (answer w a) (answer w b) := by
  cases h with
  | none => exact .ok .none
  | @some e e' h =>
    rw [answer, answer, h.isValid_eq]
    cases e'.isValid w w.nowMs with
    | error m => exact .error m
    | ok valid =>
      cases valid with
      | true => exact .ok (.some h)
      | false => exact .ok .none

/-! ## The invariant -/

/-- All tiers of a store agree with a map. -/
structure Coherent (m : String → Option CacheEntry) (s : State) : Prop where
  enabled : s.cache.enabled = true
  clean : s.cache.dirty = [] ∧ s.cache.removed = []
  file : ∃ stored, s.cache.load s.world = .ok stored ∧ Shows stored m
  persisted : s.cache.loaded = true → Shows s.cache.persisted m
  memory : ∀ k e, (k, e) ∈ s.cache.memory.entries → Option.Rel CacheEntry.Alike (some e) (m k)

variable {m : String → Option CacheEntry} {s : State}

theorem Coherent.remember (h : Coherent m s) {memory : Lru CacheEntry}
    (hm : ∀ k e, (k, e) ∈ memory.entries → Option.Rel CacheEntry.Alike (some e) (m k)) :
    Coherent m ⟨{ s.cache with memory }, s.world⟩ :=
  ⟨h.enabled, h.clean, h.file, h.persisted, hm⟩

/-- The file can be read, and the tier behind the memory tier then holds the map. -/
theorem Coherent.ensureLoaded (h : Coherent m s) :
    ∃ c, s.cache.ensureLoaded s.world = .ok c ∧ c.loaded = true ∧ c.memory = s.cache.memory ∧
      c.file = s.cache.file ∧ Coherent m ⟨c, s.world⟩ := by
  obtain ⟨stored, hload, hshows⟩ := h.file
  unfold Cache.ensureLoaded
  split
  · next hloaded => exact ⟨s.cache, rfl, hloaded, rfl, rfl, h⟩
  · next hnew =>
    rw [bind_ok hload, Cache.install, if_neg hnew]
    exact ⟨_, rfl, rfl, rfl, rfl, h.enabled, h.clean, ⟨stored, hload, hshows⟩, fun _ => hshows, h.memory⟩

theorem Coherent.getPersisted (h : Coherent m s) (key : String) :
    SameAnswer (s.cache.getPersisted s.world key).1 (answer s.world (m key)) ∧
      Coherent m ⟨(s.cache.getPersisted s.world key).2, s.world⟩ := by
  obtain ⟨c, hloaded, hc, -, -, hcoherent⟩ := h.ensureLoaded
  have hkey := hcoherent.persisted hc key
  rw [Cache.getPersisted_eq_answer h.enabled hloaded]
  refine ⟨sameAnswer_answer hkey s.world, ?_⟩
  unfold Cache.getPersisted
  rw [if_pos h.enabled, hloaded]
  simp only
  split
  · exact hcoherent
  · next e he =>
    split
    · exact hcoherent
    · refine hcoherent.remember fun k x hx => ?_
      rcases Cache.mem_lru_put hx with heq | ⟨hx, -⟩
      · cases heq
        exact he ▸ hkey
      · exact hcoherent.memory k x hx
    · exact hcoherent

/-- A lookup gives what the map gives, and keeps the tiers in agreement. -/
theorem Coherent.get (h : Coherent m s) (key : String) :
    SameAnswer (s.cache.get s.world key).1 (answer s.world (m key)) ∧
      Coherent m ⟨(s.cache.get s.world key).2, s.world⟩ := by
  unfold Cache.get
  split
  · exact h.getPersisted key
  · next e memory he =>
    obtain ⟨hmem, hsub⟩ := Cache.mem_lru_get he
    have hkey := h.memory key e hmem
    have hm : ∀ k x, (k, x) ∈ memory.entries → Option.Rel CacheEntry.Alike (some x) (m k) :=
      fun k x hx => h.memory k x (hsub _ hx)
    have hanswer := sameAnswer_answer hkey s.world
    simp only
    split
    · next hvalid =>
      rw [answer, hvalid] at hanswer
      exact ⟨hanswer, h.remember hm⟩
    · next hvalid =>
      rw [answer, hvalid] at hanswer
      exact ⟨hanswer, h.remember hm⟩
    · -- the entry leaves the memory tier, and the tier behind it is asked
      have hpopped : Coherent m ⟨{ s.cache with memory := (memory.pop key).2 }, s.world⟩ :=
        h.remember fun k x hx => hm k x (Cache.mem_lru_pop.mp hx).1
      exact hpopped.getPersisted key

/-- A noted update that is saved. -/
theorem Coherent.save (h : Coherent m s) {c : Cache} {u : Update} (hfile : c.file = s.cache.file)
    (henabled : c.enabled) (htidy : Sharing.Member.Tidy ⟨c, .pending u⟩)
    (hmemory : ∀ k e, (k, e) ∈ c.memory.entries → Option.Rel CacheEntry.Alike (some e) (u.apply m k))
    (hsaved : Saved (c.save s.world)) :
    Coherent (u.apply m) ⟨(c.save s.world).2.1, (c.save s.world).2.2⟩ := by
  obtain ⟨stored, hload, hshows⟩ := h.file
  rw [← Cache.load_congr hfile] at hload
  obtain ⟨hn, hb⟩ := Cache.nodup_load hload
  obtain ⟨hmerged, hn', hb'⟩ := Sharing.shows_merged htidy hshows hn hb
  have hsave := Cache.save_cache henabled hload
  obtain ⟨-, f, x, text, hf, hprobe, hx, htext⟩ := hsaved
  have hread := Cache.load_of_text hf hprobe hx htext
  rw [hsave] at htext hread ⊢
  have hentries := Cache.entriesOf_fileText htext
  have hagain := Sharing.shows_reread hmerged hn' hb' htext hentries
  exact ⟨henabled, ⟨rfl, rfl⟩, ⟨_, hread.trans hentries, hagain⟩, fun _ => hmerged, hmemory⟩

/-- A call that changes the memory tier, notes an update and saves it. -/
theorem Coherent.update (h : Coherent m s) {memory : Lru CacheEntry} {c' : Cache} {u : Update}
    (hload : Cache.ensureLoaded { s.cache with memory } s.world = .ok c)
    (hsame : c'.file = c.file ∧ c'.enabled = c.enabled ∧ c'.memory = c.memory)
    (hmark : Sharing.Member.Tidy ⟨c, .idle⟩ → Sharing.Member.Tidy ⟨c', .pending u⟩)
    (hmemory : ∀ k e, (k, e) ∈ memory.entries → Option.Rel CacheEntry.Alike (some e) (u.apply m k))
    (hsaved : Saved (c'.save s.world)) : Coherent (u.apply m) ⟨(c'.save s.world).2.1, (c'.save s.world).2.2⟩ := by
  obtain ⟨hfile, henabled, hclean, hkept⟩ : c.file = s.cache.file ∧ c.enabled = s.cache.enabled ∧
      Sharing.Member.Tidy ⟨c, .idle⟩ ∧ c.memory = memory := by
    rcases Cache.ensureLoaded_eq_ok hload with rfl | ⟨entries, -, rfl⟩
    · exact ⟨rfl, rfl, h.clean, rfl⟩
    · exact ⟨rfl, rfl, h.clean, rfl⟩
  refine h.save (hsame.1.trans hfile) ((hsame.2.1.trans henabled).trans h.enabled) (hmark hclean) ?_ hsaved
  rw [hsame.2.2, hkept]
  exact hmemory

theorem Coherent.put (h : Coherent m s) {key : String} {e : CacheEntry} (he : e.breakdown.keys.Nodup)
    (hsaved : Saved (s.cache.put s.world key e)) :
    Coherent (Update.apply (.put key e) m)
      ⟨(s.cache.put s.world key e).2.1, (s.cache.put s.world key e).2.2⟩ := by
  obtain ⟨c, hload, hput⟩ := Cache.put_eq h.enabled hsaved.1
  rw [hput] at hsaved ⊢
  refine h.update hload ⟨rfl, rfl, rfl⟩ (fun hclean => Sharing.Member.tidy_markPut hclean key he) ?_ hsaved
  intro k x hx
  rcases Cache.mem_lru_put hx with heq | ⟨hx, hk⟩
  · cases heq
    rw [Update.apply, Function.update_self]
    exact .some (.refl e)
  · rw [Update.apply, Function.update_of_ne hk]
    exact h.memory k x hx

theorem Coherent.invalidate (h : Coherent m s) {key : String}
    (hsaved : Saved (s.cache.invalidate s.world key)) :
    Coherent (Update.apply (.invalidate key) m)
      ⟨(s.cache.invalidate s.world key).2.1, (s.cache.invalidate s.world key).2.2⟩ := by
  obtain ⟨c, hload, hinvalidate⟩ := Cache.invalidate_eq h.enabled hsaved.1
  rw [hinvalidate] at hsaved ⊢
  refine h.update hload ⟨rfl, rfl, rfl⟩ (fun hclean => Sharing.Member.tidy_markRemoved hclean key) ?_ hsaved
  intro k x hx
  obtain ⟨hx, hk⟩ := Cache.mem_lru_pop.mp hx
  rw [Update.apply, Function.update_of_ne hk]
  exact h.memory k x hx

theorem Coherent.clear (h : Coherent m s) (hgone : Gone (s.cache.clear s.world)) :
    Coherent (Update.apply .clear m) ⟨(s.cache.clear s.world).1, (s.cache.clear s.world).2⟩ := by
  obtain ⟨f, hf, hprobe⟩ := hgone
  have hnone : Shows [] (Update.apply .clear m) := fun _ => .none
  refine ⟨h.enabled, ⟨rfl, rfl⟩, ⟨[], Cache.load_of_absent hf hprobe, hnone⟩, fun _ => hnone, ?_⟩
  exact fun _ _ hx => (List.not_mem_nil hx).elim

theorem Coherent.step (h : Coherent m s) {us : List Update} {s' : State} (hstep : Step s us s') :
    Coherent (replay m us) s' := by
  cases hstep with
  | outside w _ hload => exact ⟨h.enabled, h.clean, hload ▸ h.file, h.persisted, h.memory⟩
  | get key => exact (h.get key).2
  | put key he hsaved => exact h.put he hsaved
  | invalidate key hsaved => exact h.invalidate hsaved
  | clear hgone => exact h.clear hgone

theorem Coherent.run (h : Coherent m s) {log : List Update} {s' : State} (hrun : Run s log s') :
    Coherent (replay m log) s' := by
  induction hrun with
  | refl => exact h
  | step _ hstep ih =>
    rw [replay, List.foldl_append]
    exact ih.step hstep

/-! ## Refinement -/

/-- What a store can find at its path: no file, or a sound one, whose records are the entries of a map. -/
inductive Opens (w : World) (f : String) (m : String → Option CacheEntry) : Prop
  | absent (h : w.probe f = .ok none) (hm : ∀ k, m k = none)
  | file {x : File} (h : w.probe f = .ok (some (.file x))) (paired : Cache.Paired x)
      (sound : Cache.SoundFile .usual x) (hm : ∀ k e, m k = some e ↔ Cache.RecordIn .usual x k e)

theorem Opens.shows (h : Opens w f m) (hf : c.file = some f) :
    ∃ stored, c.load w = .ok stored ∧ Shows stored m := by
  cases h with
  | absent h hm =>
    exact ⟨[], Cache.load_of_absent hf h, Sharing.shows_of_eq fun k => (hm k).symm⟩
  | @file x h paired sound hm =>
    obtain ⟨stored, hstored⟩ := (Cache.entriesOf_iff_sound paired).mpr sound
    refine ⟨stored, (Cache.load_of_file hf h).trans hstored, Sharing.shows_of_eq fun k => ?_⟩
    apply Option.ext
    intro e
    rw [Cache.get?_entriesOf paired hstored, hm k e]

theorem Opens.coherent (h : Opens w f m) (hnew : c.IsNew) (hf : c.file = some f) : Coherent m ⟨c, w⟩ where
  enabled := hnew.enabled
  clean := ⟨hnew.dirty, hnew.removed⟩
  file := h.shows hf
  persisted hloaded := by
    have hunread : c.loaded = false := hnew.loaded
    rw [hunread] at hloaded
    cases hloaded
  memory k e he := by
    have hempty : c.memory.entries = [] := hnew.memory
    rw [hempty] at he
    cases he

/-- After any calls of a store of any size, a lookup gives what the map of its updates gives under the key: it
ends well if and only if the entry there can be checked, and then it gives the entry if that holds now, and
nothing if it does not or if there is none. -/
theorem get_refines_map {w₀ w : World} {f : String} {lifetime size : Json} {c : Cache}
    {m₀ : String → Option CacheEntry} {log : List Update}
    (hmake : Cache.make w₀ (some f) lifetime true size = .ok c) (hopens : Opens w f m₀)
    (hrun : Run ⟨c, w⟩ log s) (key : String) :
    ((∃ found, (s.cache.get s.world key).1 = .ok found) ↔
        ∀ e, replay m₀ log key = some e → Cache.Checkable s.world e) ∧
      ∀ found, (s.cache.get s.world key).1 = .ok found →
        (∀ e, replay m₀ log key = some e → e.isValid s.world s.world.nowMs = .ok true →
          ∃ e', found = some e' ∧ e'.Alike e) ∧
        ((∀ e, replay m₀ log key = some e → e.isValid s.world s.world.nowMs = .ok false) → found = none) := by
  obtain ⟨hnew, hf⟩ := Cache.isNew_make hmake
  have hcoherent := (hopens.coherent hnew hf).run hrun
  obtain ⟨hsame, -⟩ := hcoherent.get key
  rw [← Cache.answer_isOk_iff]
  generalize (s.cache.get s.world key).1 = given at hsame ⊢
  generalize replay m₀ log key = stored at hsame ⊢
  generalize hanswer : answer s.world stored = expected at hsame
  cases hsame with
  | error misfit => exact ⟨by simp, by simp⟩
  | @ok given expected halike =>
    refine ⟨iff_of_true ⟨given, rfl⟩ ⟨expected, rfl⟩, fun found hfound => ?_⟩
    cases hfound
    have hexpected := Cache.answer_eq_ok hanswer
    constructor
    · intro e he hvalid
      rw [(hexpected e).mpr ⟨he, hvalid⟩] at halike
      cases halike with
      | some h => exact ⟨_, rfl, h⟩
    · intro hinvalid
      have hnone : expected = none := by
        apply Option.eq_none_iff_forall_ne_some.mpr
        intro e he
        obtain ⟨hstored, hvalid⟩ := (hexpected e).mp he
        rw [hinvalid e hstored] at hvalid
        cases hvalid
      rw [hnone] at halike
      cases halike
      rfl

/-! ## A store with room for one entry -/

/-- A store with one place in memory. -/
def smallCache : Cache :=
  { Sharing.deskCache with memory := ⟨1, []⟩ }

/-- A result for the file of the store itself, as it is after a change. -/
def ownEntry : CacheEntry :=
  { Sharing.deskEntry "/c.json" with mtimeMs := .number (.int 7) }

theorem isValid_own {y : File} (h : y.mtimeNs = 7000000) (now : Number) :
    ownEntry.isValid (Sharing.deskWorld (some y)) now = .ok true := by
  have hmtime : (Sharing.deskWorld (some y)).mtimeMs "/c.json" = .ok (milliseconds 7000000) := by
    rw [World.mtimeMs, bind_ok (World.stat_of_probe (Sharing.probe_deskWorld (some y))).2]
    simp only [File.mtimeMs, h]
  exact CacheEntry.isValid_of_mtime (by simp [ownEntry, Sharing.deskEntry]) hmtime (by decide +kernel)

def afterPut (c : Cache) (stored : Fields CacheEntry) (key : String) (e : CacheEntry) : Cache :=
  { c with
    memory := c.memory.put key e
    persisted := stored.put key e
    dirty := []
    removed := []
    loaded := true }

/-- A store with no noted changes puts an entry, given what it reads. -/
theorem put_of_clean (hfile : c.file = some f) (henabled : c.enabled) (hclean : c.dirty = [] ∧ c.removed = [])
    {stored : Fields CacheEntry} (hload : c.load w = .ok stored) (key : String) (e : CacheEntry) :
    c.put w key e = ((Cache.writeEntries w f (stored.put key e)).1, afterPut c stored key e,
      (Cache.writeEntries w f (stored.put key e)).2) := by
  obtain ⟨p, hloaded⟩ : ∃ p, Cache.ensureLoaded { c with memory := c.memory.put key e } w =
      .ok { c with memory := c.memory.put key e, persisted := p, loaded := true } := by
    unfold Cache.ensureLoaded
    split
    · next h =>
      refine ⟨c.persisted, ?_⟩
      rw [← h]
    · next h =>
      refine ⟨stored, ?_⟩
      have hread : Cache.load { c with memory := c.memory.put key e } w = .ok stored := hload
      rw [bind_ok hread, Cache.install, if_neg h]
  have hmerged : Cache.merged (Cache.markPut { c with
      memory := c.memory.put key e, persisted := p, loaded := true } key e) stored = stored.put key e := by
    apply Cache.merged_put
    · simp [Cache.markPut, Cache.addKey, hclean.1]
    · simp [Cache.markPut, Cache.dropKey, hclean.2]
    · simp [Cache.markPut]
  have hsave := Cache.save_eq (c := Cache.markPut { c with
    memory := c.memory.put key e, persisted := p, loaded := true } key e) henabled hfile hload
  rw [hmerged] at hsave
  unfold Cache.put
  simp only
  rw [if_pos henabled, hloaded]
  exact hsave

/-- A store at the file puts an entry, given what it reads. -/
theorem step_put_desk (hfile : c.file = some "/c.json") (henabled : c.enabled)
    (hclean : c.dirty = [] ∧ c.removed = []) {x : Option File} {stored : Fields CacheEntry}
    (hload : c.load (Sharing.deskWorld x) = .ok stored) (key : String) {e : CacheEntry} (he : e.breakdown.keys.Nodup)
    {text : String} (htext : Cache.fileText (stored.put key e) = .ok text) :
    ∃ y, y.text = some text ∧ Step ⟨c, Sharing.deskWorld x⟩ [.put key e]
      ⟨afterPut c stored key e, Sharing.deskWorld (some y)⟩ := by
  obtain ⟨y, hy, hwrite⟩ := Sharing.writeEntries_deskWorld x htext
  have hput := put_of_clean hfile henabled hclean hload key e
  rw [hwrite] at hput
  have hsaved : Saved (c.put (Sharing.deskWorld x) key e) := by
    rw [hput]
    exact ⟨rfl, "/c.json", y, text, hfile, Sharing.probe_deskWorld (some y), hy, htext⟩
  have hstep := Step.put (s := ⟨c, Sharing.deskWorld x⟩) key he hsaved
  rw [hput] at hstep
  exact ⟨y, hy, hstep⟩

/-- Two results are put, the first one leaves the memory tier, and the file is changed from outside. -/
theorem run_small : ∃ (c : Cache) (y : File),
    Run ⟨smallCache, Sharing.deskWorld none⟩ [.put "a" ownEntry, .put "b" ownEntry]
      ⟨c, Sharing.deskWorld (some { y with mtimeNs := 7000000 })⟩ ∧ c.memory.keys = ["b"] := by
  obtain ⟨text₁, htext₁⟩ := Cache.fileText_of_writable [("a", ownEntry)] (by decide +kernel)
  obtain ⟨text₂, htext₂⟩ := Cache.fileText_of_writable [("a", ownEntry), ("b", ownEntry)] (by decide +kernel)
  have hown : ownEntry.breakdown.keys.Nodup := List.nodup_nil
  have hempty : smallCache.load (Sharing.deskWorld none) = .ok [] :=
    Cache.load_of_absent rfl (Sharing.probe_deskWorld none)
  obtain ⟨y₁, hy₁, hput₁⟩ := step_put_desk (c := smallCache) rfl rfl ⟨rfl, rfl⟩ hempty "a" hown htext₁
  have hread : (afterPut smallCache [] "a" ownEntry).load (Sharing.deskWorld (some y₁)) = .ok [("a", ownEntry)] :=
    Sharing.load_desk rfl hy₁ htext₁ (by simp) (by simp [Fields.keys]) (by simp [ownEntry, Sharing.deskEntry])
  obtain ⟨y₂, hy₂, hput₂⟩ := step_put_desk rfl rfl ⟨rfl, rfl⟩ hread "b" hown htext₂
  have hsame : ∀ y : File, y.text = some text₂ →
      (afterPut (afterPut smallCache [] "a" ownEntry) [("a", ownEntry)] "b" ownEntry).load
        (Sharing.deskWorld (some y)) = Cache.entriesOf text₂ :=
    fun y hy => Cache.load_of_text rfl (Sharing.probe_deskWorld (some y)) hy htext₂
  refine ⟨_, y₂, (((Run.refl _).step hput₁).step hput₂).step (.outside _ ?_ ?_), rfl⟩
  · intro f x hf hprobe
    cases hf
    cases (Sharing.probe_deskWorld _).symm.trans hprobe
    exact .inr ⟨y₂, Sharing.probe_deskWorld (some y₂), rfl⟩
  · exact (hsame { y₂ with mtimeNs := 7000000 } hy₂).trans (hsame y₂ hy₂).symm

/-- The first result is found again, though the memory tier has no room for it. -/
theorem get_small : ∃ s, Run ⟨smallCache, Sharing.deskWorld none⟩ [.put "a" ownEntry, .put "b" ownEntry] s ∧
    s.cache.memory.keys = ["b"] ∧ ∃ e, (s.cache.get s.world "a").1 = .ok (some e) ∧ e.Alike ownEntry := by
  obtain ⟨c, y, hrun, hkeys⟩ := run_small
  have hmake : Cache.make {} (some "/c.json") .null true (.ofInt 1) = .ok smallCache := rfl
  have hopens : Opens (Sharing.deskWorld none) "/c.json" fun _ => none :=
    .absent (Sharing.probe_deskWorld none) fun _ => rfl
  obtain ⟨hends, hgives⟩ := get_refines_map hmake hopens hrun "a"
  have hmap : replay (fun _ => none) [.put "a" ownEntry, .put "b" ownEntry] "a" = some ownEntry :=
    Sharing.replay_put (by simp [Update.Touches]) _ []
  rw [hmap] at hends hgives
  obtain ⟨found, hfound⟩ := hends.mpr fun e he => by
    cases he
    exact .inl (by decide +kernel)
  obtain ⟨e, rfl, halike⟩ := (hgives found hfound).1 ownEntry rfl (isValid_own rfl _)
  exact ⟨_, hrun, hkeys, e, hfound, halike⟩

/-- A record under one name stops the lookup of any other. -/
theorem get_beside_nested_type :
    Cache.make {} (some "/c.json") .null true (.ofInt 10) = .ok Sharing.deskCache ∧
      (∀ e, ¬Cache.RecordIn .usual (Cache.fileOf (.obj Cache.nestedType)) "x" e) ∧
      (Sharing.deskCache.get (Sharing.deskWorld (some (Cache.fileOf (.obj Cache.nestedType)))) "x").1 =
        .error .wrongKind := by
  have hmake : Cache.make {} (some "/c.json") .null true (.ofInt 10) = .ok Sharing.deskCache := rfl
  refine ⟨hmake, ?_, ?_⟩
  · rintro e ⟨fs, r, hfs, hr, -⟩
    cases hfs.unique Cache.spells_nestedType.2
    cases hr
  · rw [Cache.get_new (Cache.isNew_make hmake).1, Cache.load_nestedType]
    rfl

end Session

end ShapeSearch
