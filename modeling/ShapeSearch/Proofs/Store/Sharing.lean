import ShapeSearch.Proofs.Store.Tiers

/-!
# Stores that share a file

Any number of stores work on one file.  Each makes one call at a time, and the calls of different stores
interleave: a store reads the file without its lock (`read`), and takes over what it has read (`install`),
notes a change (`markPut`, `markRemoved`), writes the noted change (`save`) and empties the file (`clear`)
each in a section of its own.  Whole calls are runs of these steps (`run_put`, `run_invalidate`, `run_get`,
`run_clear`).

The changes that are written, in the order of their last sections, are the log of a run.  What is read from
the file is always the first content with the log replayed on it:

    Start s₀ initial → Run s₀ log s → load s = replay initial log                 (load_run)

The invariant (`Consistent`) says this of the file, and of each store that its noted changes are those of
the call it is in.
-/

namespace ShapeSearch

namespace Sharing

/-! ## The steps of the stores -/

/-- A change of the shared entries. -/
inductive Update where
  | put (key : String) (e : CacheEntry)
  | invalidate (key : String)
  | clear

/-- What an update makes of the entries by key. -/
def Update.apply : Update → (String → Option CacheEntry) → String → Option CacheEntry
  | .put key e, m => Function.update m key (some e)
  | .invalidate key, m => Function.update m key none
  | .clear, _ => fun _ => none

/-- The entries by key after some updates, the first one first. -/
def replay (m : String → Option CacheEntry) (log : List Update) : String → Option CacheEntry :=
  log.foldl (fun m u => u.apply m) m

/-- Where the call of a store stands. -/
inductive Activity where
  /-- between two sections, with nothing to save -/
  | idle
  /-- the file has been read, and the lock is waited for -/
  | reading (entries : Fields CacheEntry)
  /-- an update has been noted, and is to be saved -/
  | pending (u : Update)

/-- A store and where its call stands. -/
structure Member where
  cache : Cache
  activity : Activity := .idle

/-- Some stores and their surroundings. -/
structure State (ι : Type) where
  world : World
  members : ι → Member

variable {ι : Type} [DecidableEq ι]
variable {s s' : State ι} {i : ι} {w : World} {c : Cache} {a : Activity} {log us : List Update} {text key : String}
  {u : Update} {e : CacheEntry} {stored entries : Fields CacheEntry} {m : String → Option CacheEntry}

def State.set (s : State ι) (i : ι) (w : World) (c : Cache) (a : Activity) : State ι :=
  ⟨w, Function.update s.members i ⟨c, a⟩⟩

theorem State.forall_set {P : Member → Prop} (hi : P ⟨c, a⟩) (hs : ∀ j, P (s.members j)) (j : ι) :
    P ((s.set i w c a).members j) := by
  by_cases hj : j = i
  · subst hj
    simpa [set] using hi
  · simpa [set, Function.update_of_ne hj] using hs j

/-- The file of every store holds a text. -/
def State.Written (s : State ι) (w : World) (text : String) : Prop :=
  ∀ i, ∃ f x, (s.members i).cache.file = some f ∧ w.probe f = .ok (some (.file x)) ∧ x.text = some text

/-- The file of every store is gone. -/
def State.Gone (s : State ι) (w : World) : Prop :=
  ∀ i, ∃ f, (s.members i).cache.file = some f ∧ w.probe f = .ok none

/-- One section of one store, or a change of the surroundings that leaves the file alone; the list holds
the update that is finished by it.  Whatever is written or deleted is so for all stores. -/
inductive Step : State ι → List Update → State ι → Prop
  | outside {s : State ι} (w : World)
      (h : ∀ i f, (s.members i).cache.file = some f → w.probe f = s.world.probe f) :
      Step s [] { s with world := w }
  | memory {s : State ι} {i : ι} {c : Cache} {a : Activity} (hm : s.members i = ⟨c, a⟩)
      (lru : Lru CacheEntry) : Step s [] (s.set i s.world { c with memory := lru } a)
  | read {s : State ι} {i : ι} {c : Cache} {entries : Fields CacheEntry}
      (hm : s.members i = ⟨c, .idle⟩) (hnew : c.loaded = false) (hload : c.load s.world = .ok entries) :
      Step s [] (s.set i s.world c (.reading entries))
  | install {s : State ι} {i : ι} {c : Cache} {entries : Fields CacheEntry}
      (hm : s.members i = ⟨c, .reading entries⟩) : Step s [] (s.set i s.world (c.install entries) .idle)
  | markPut {s : State ι} {i : ι} {c : Cache} (hm : s.members i = ⟨c, .idle⟩) (key : String)
      {e : CacheEntry} (he : e.breakdown.keys.Nodup) :
      Step s [] (s.set i s.world (c.markPut key e) (.pending (.put key e)))
  | markRemoved {s : State ι} {i : ι} {c : Cache} (hm : s.members i = ⟨c, .idle⟩) (key : String) :
      Step s [] (s.set i s.world (c.markRemoved key) (.pending (.invalidate key)))
  | save {s : State ι} {i : ι} {c : Cache} {u : Update} {text : String}
      (hm : s.members i = ⟨c, .pending u⟩)
      (htext : Cache.fileText (c.save s.world).2.1.persisted = .ok text)
      (hwritten : s.Written (c.save s.world).2.2 text) :
      Step s [u] (s.set i (c.save s.world).2.2 (c.save s.world).2.1 .idle)
  | clear {s : State ι} {i : ι} {c : Cache} (hm : s.members i = ⟨c, .idle⟩)
      (hgone : s.Gone (c.clear s.world).2) :
      Step s [.clear] (s.set i (c.clear s.world).2 (c.clear s.world).1 .idle)

/-- Any number of steps, with all updates that are finished by them. -/
inductive Run : State ι → List Update → State ι → Prop
  | refl (s : State ι) : Run s [] s
  | step {s s' s'' : State ι} {log us : List Update} : Run s log s' → Step s' us s'' → Run s (log ++ us) s''

/-! ## Whole calls -/

theorem Run.trans {s'' : State ι} (h : Run s log s') (h' : Run s' us s'') : Run s (log ++ us) s'' := by
  induction h' with
  | refl => simpa using h
  | step _ hstep ih =>
    rw [← List.append_assoc]
    exact ih.step hstep

theorem Run.single (h : Step s us s') : Run s us s' := by
  simpa using (Run.refl s).step h

@[simp] theorem State.set_members_self (s : State ι) (i : ι) (w : World) (c : Cache) (a : Activity) :
    (s.set i w c a).members i = ⟨c, a⟩ :=
  Function.update_self ..

@[simp] theorem State.set_world (s : State ι) (i : ι) (w : World) (c : Cache) (a : Activity) :
    (s.set i w c a).world = w := rfl

@[simp] theorem State.set_set (s : State ι) (i : ι) (w w' : World) (c c' : Cache) (a a' : Activity) :
    (s.set i w c a).set i w' c' a' = s.set i w' c' a' := by
  simp [set]

theorem State.Written.set {w' : World} (h : s.Written w text) (hfile : c.file = (s.members i).cache.file) :
    (s.set i w' c a).Written w text := by
  refine forall_set (P := fun m => ∃ f x, m.cache.file = some f ∧ w.probe f = .ok (some (.file x)) ∧
    x.text = some text) ?_ h
  rw [hfile]
  exact h i

theorem run_ensureLoaded {c' : Cache} (hm : s.members i = ⟨c, .idle⟩) (h : c.ensureLoaded s.world = .ok c') :
    Run s [] (s.set i s.world c' .idle) := by
  unfold Cache.ensureLoaded at h
  split at h
  · cases h
    have hsame : s.set i s.world c .idle = s := by
      rw [State.set, ← hm, Function.update_eq_self]
    rw [hsame]
    exact .refl s
  · next hnew =>
    obtain ⟨entries, hload, h⟩ := bind_eq_ok.mp h
    cases h
    have hread := Run.single (Step.read hm (by simpa using hnew) hload)
    have hinstall := Step.install (State.set_members_self s i s.world c (.reading entries))
    simpa using hread.step hinstall

theorem run_saved {c₁ c₂ : Cache} (hm : s.members i = ⟨c, .idle⟩) (lru : Lru CacheEntry)
    (hloaded : Cache.ensureLoaded { c with memory := lru } s.world = .ok c₁) (hfile : c₂.file = c₁.file)
    (hmark : ∀ s : State ι, s.members i = ⟨c₁, .idle⟩ → Step s [] (s.set i s.world c₂ (.pending u)))
    (htext : Cache.fileText (c₂.save s.world).2.1.persisted = .ok text)
    (hwritten : s.Written (c₂.save s.world).2.2 text) :
    Run s [u] (s.set i (c₂.save s.world).2.2 (c₂.save s.world).2.1 .idle) := by
  have hmemory := Run.single (Step.memory hm lru)
  have hload := run_ensureLoaded (State.set_members_self s i s.world { c with memory := lru } .idle) hloaded
  have hnoted := hmark (s.set i s.world c₁ .idle) (State.set_members_self ..)
  have hwritten' : (s.set i s.world c₂ (.pending u)).Written (c₂.save s.world).2.2 text := by
    refine hwritten.set ?_
    rw [hfile, Cache.file_ensureLoaded hloaded, hm]
  have hsaved := Step.save (State.set_members_self s i s.world c₂ (.pending u)) htext hwritten'
  simp only [State.set_world, State.set_set] at hload hnoted hsaved
  simpa using ((hmemory.trans hload).step hnoted).step hsaved

theorem run_put (hm : s.members i = ⟨c, .idle⟩) (henabled : c.enabled) (he : e.breakdown.keys.Nodup)
    (hput : (c.put s.world key e).1 = .ok ()) (htext : Cache.fileText (c.put s.world key e).2.1.persisted = .ok text)
    (hwritten : s.Written (c.put s.world key e).2.2 text) :
    Run s [.put key e] (s.set i (c.put s.world key e).2.2 (c.put s.world key e).2.1 .idle) := by
  obtain ⟨c₁, hloaded, heq⟩ := Cache.put_eq henabled hput
  rw [heq] at htext hwritten ⊢
  exact run_saved hm (c.memory.put key e) hloaded rfl (fun s hm => .markPut hm key he) htext hwritten

theorem run_invalidate (hm : s.members i = ⟨c, .idle⟩) (henabled : c.enabled)
    (hinvalidate : (c.invalidate s.world key).1 = .ok ())
    (htext : Cache.fileText (c.invalidate s.world key).2.1.persisted = .ok text)
    (hwritten : s.Written (c.invalidate s.world key).2.2 text) :
    Run s [.invalidate key]
      (s.set i (c.invalidate s.world key).2.2 (c.invalidate s.world key).2.1 .idle) := by
  obtain ⟨c₁, hloaded, heq⟩ := Cache.invalidate_eq henabled hinvalidate
  rw [heq] at htext hwritten ⊢
  exact run_saved hm (c.memory.pop key).2 hloaded rfl (fun s hm => .markRemoved hm key) htext hwritten

theorem run_get (hm : s.members i = ⟨c, .idle⟩) (key : String) :
    Run s [] (s.set i s.world (c.get s.world key).2 .idle) := by
  obtain ⟨lru, hget⟩ := Cache.get_cache c s.world key
  have hmemory := Run.single (Step.memory hm lru)
  rcases hget with hget | hget
  · rw [hget]
    exact hmemory
  · rcases Cache.getPersisted_cache { c with memory := lru } s.world key with hsame | ⟨c₁, lru', hloaded, hc⟩
    · rw [hget, hsame]
      exact hmemory
    · have hload := run_ensureLoaded (State.set_members_self s i s.world { c with memory := lru } .idle) hloaded
      have hlast := Step.memory (State.set_members_self s i s.world c₁ .idle) lru'
      simp only [State.set_world, State.set_set] at hload hlast
      rw [hget, hc]
      simpa using (hmemory.trans hload).step hlast

theorem run_clear (hm : s.members i = ⟨c, .idle⟩) (hgone : s.Gone (c.clear s.world).2) :
    Run s [.clear] (s.set i (c.clear s.world).2 (c.clear s.world).1 .idle) :=
  .single (.clear hm hgone)

/-! ## The invariant -/

/-- The noted changes of a store are those of the call it is in. -/
def Member.Tidy (m : Member) : Prop :=
  match m.activity with
  | .pending (.put key e) =>
    m.cache.dirty = [key] ∧ m.cache.removed = [] ∧ m.cache.persisted.get? key = some e ∧
      e.breakdown.keys.Nodup
  | .pending (.invalidate key) => m.cache.dirty = [] ∧ m.cache.removed = [key]
  | .pending .clear => False
  | _ => m.cache.dirty = [] ∧ m.cache.removed = []

theorem Member.tidy_markPut (h : Tidy ⟨c, .idle⟩) (key : String) (he : e.breakdown.keys.Nodup) :
    Tidy ⟨c.markPut key e, .pending (.put key e)⟩ := by
  obtain ⟨hdirty, hremoved⟩ : c.dirty = [] ∧ c.removed = [] := h
  refine ⟨?_, ?_, ?_, he⟩
  · simp [Cache.markPut, Cache.addKey, hdirty]
  · simp [Cache.markPut, Cache.dropKey, hremoved]
  · simp [Cache.markPut]

theorem Member.tidy_markRemoved (h : Tidy ⟨c, .idle⟩) (key : String) :
    Tidy ⟨c.markRemoved key, .pending (.invalidate key)⟩ := by
  obtain ⟨hdirty, hremoved⟩ : c.dirty = [] ∧ c.removed = [] := h
  refine ⟨?_, ?_⟩
  · simp [Cache.markRemoved, Cache.dropKey, hdirty]
  · simp [Cache.markRemoved, Cache.addKey, hremoved]

/-- Entries by key are those of a map, whatever the order of the parts of their breakdowns. -/
def Shows (stored : Fields CacheEntry) (m : String → Option CacheEntry) : Prop :=
  ∀ k, Option.Rel CacheEntry.Alike (stored.get? k) (m k)

theorem shows_of_eq (h : ∀ k, stored.get? k = m k) : Shows stored m := by
  intro k
  rw [h k]
  cases m k with
  | none => exact .none
  | some e => exact .some (.refl e)

/-- All stores read the entries of a map from their file, and their noted changes are in order. -/
structure Consistent (m : String → Option CacheEntry) (s : State ι) : Prop where
  enabled : ∀ i, (s.members i).cache.enabled = true
  tidy : ∀ i, (s.members i).Tidy
  stored : ∃ stored, (∀ i, (s.members i).cache.load s.world = .ok stored) ∧ Shows stored m

theorem shows_put (h : Shows stored m) (key : String) (e : CacheEntry) :
    Shows (stored.put key e) (Function.update m key (some e)) := by
  intro k
  by_cases hk : k = key
  · subst hk
    rw [Fields.get?_put_self, Function.update_self]
    exact .some (.refl e)
  · rw [Fields.get?_put_of_ne _ _ hk, Function.update_of_ne hk]
    exact h k

theorem shows_removed (h : Shows stored m) (key : String) :
    Shows (stored.filter fun p => !decide (p.1 = key)) (Function.update m key none) := by
  intro k
  rw [Fields.get?_filter fun n => !decide (n = key)]
  by_cases hk : k = key
  · subst hk
    rw [Function.update_self]
    simp
  · rw [Function.update_of_ne hk]
    simpa [hk] using h k

/-- Entries that are written and read again are still those of the map. -/
theorem shows_reread {loaded : Fields CacheEntry} (h : Shows entries m) (hn : entries.keys.Nodup)
    (hb : ∀ p ∈ entries, p.2.breakdown.keys.Nodup) (htext : Cache.fileText entries = .ok text)
    (hl : Cache.entriesOf text = .ok loaded) : Shows loaded m := by
  intro k
  rw [Cache.get?_entriesOf_fileText hn htext hl]
  have hk := h k
  generalize m k = found at hk
  cases hget : entries.get? k with
  | none =>
    rw [hget] at hk
    exact hk
  | some e =>
    rw [hget] at hk
    cases hk with
    | some halike =>
      exact .some ((CacheEntry.alike_reread (hb _ (Fields.mem_of_get? hget))).trans halike)

theorem shows_merged (htidy : Member.Tidy ⟨c, .pending u⟩) (h : Shows stored m) (hn : stored.keys.Nodup)
    (hb : ∀ p ∈ stored, p.2.breakdown.keys.Nodup) :
    Shows (c.merged stored) (u.apply m) ∧ (c.merged stored).keys.Nodup ∧
      ∀ p ∈ c.merged stored, p.2.breakdown.keys.Nodup := by
  cases u with
  | put key e =>
    obtain ⟨hdirty, hremoved, hget, he⟩ := htidy
    rw [Cache.merged_put hdirty hremoved hget]
    refine ⟨shows_put h key e, Fields.nodup_put hn key e, fun p hp => ?_⟩
    rcases Fields.mem_put hp with rfl | hp
    · exact he
    · exact hb p hp
  | invalidate key =>
    obtain ⟨hdirty, hremoved⟩ := htidy
    rw [Cache.merged_removed hdirty hremoved]
    exact ⟨shows_removed h key, Fields.nodup_filter _ hn, fun p hp => hb p (List.mem_filter.mp hp).1⟩
  | clear => exact htidy.elim

/-- A step of one store, given what the stores read afterwards. -/
theorem Consistent.set {m' : String → Option CacheEntry} (h : Consistent m s) {c₀ : Cache} {a₀ : Activity}
    (hm : s.members i = ⟨c₀, a₀⟩) (hfile : c.file = c₀.file) (henabled : c.enabled = c₀.enabled)
    (htidy : Member.Tidy ⟨c, a⟩) (hload : ∀ j, (s.members j).cache.load w = .ok stored)
    (hshows : Shows stored m') :
    Consistent m' (s.set i w c a) := by
  have hi : c₀.enabled = true ∧ c₀.load w = .ok stored := by
    have := And.intro (h.enabled i) (hload i)
    rwa [hm] at this
  refine ⟨?_, ?_, stored, ?_, hshows⟩
  · exact State.forall_set (P := fun m => m.cache.enabled = true) (henabled.trans hi.1) h.enabled
  · exact State.forall_set (P := Member.Tidy) htidy h.tidy
  · exact State.forall_set (P := fun m => m.cache.load w = .ok stored)
      ((Cache.load_congr hfile w).trans hi.2) hload

theorem Consistent.step (h : Consistent m s) (hstep : Step s us s') : Consistent (replay m us) s' := by
  obtain ⟨stored, hload, hshows⟩ := h.stored
  cases hstep with
  | outside w hprobe =>
    refine ⟨h.enabled, h.tidy, stored, fun i => ?_, hshows⟩
    exact (Cache.load_of_probe (hprobe i)).trans (hload i)
  | @memory i c a hm lru =>
    have htidy : Member.Tidy ⟨c, a⟩ := hm ▸ h.tidy i
    exact h.set hm rfl rfl htidy hload hshows
  | @read i c entries hm hnew _ =>
    have hclean : Member.Tidy ⟨c, .idle⟩ := hm ▸ h.tidy i
    exact h.set hm rfl rfl hclean hload hshows
  | @install i c entries hm =>
    have hclean : Member.Tidy ⟨c, .reading entries⟩ := hm ▸ h.tidy i
    unfold Cache.install
    split
    · exact h.set hm rfl rfl hclean hload hshows
    · exact h.set hm rfl rfl hclean hload hshows
  | @markPut i c hm key e he =>
    have hclean : Member.Tidy ⟨c, .idle⟩ := hm ▸ h.tidy i
    exact h.set hm rfl rfl (Member.tidy_markPut hclean key he) hload hshows
  | @markRemoved i c hm key =>
    have hclean : Member.Tidy ⟨c, .idle⟩ := hm ▸ h.tidy i
    exact h.set hm rfl rfl (Member.tidy_markRemoved hclean key) hload hshows
  | @save i c u text hm htext hwritten =>
    have htidy : Member.Tidy ⟨c, .pending u⟩ := hm ▸ h.tidy i
    have hi : c.enabled = true ∧ c.load s.world = .ok stored := by
      have := And.intro (h.enabled i) (hload i)
      rwa [hm] at this
    obtain ⟨hn, hb⟩ := Cache.nodup_load hi.2
    obtain ⟨hmerged, hn', hb'⟩ := shows_merged htidy hshows hn hb
    have hsave := Cache.save_cache hi.1 hi.2
    rw [hsave] at htext ⊢
    have hentries := Cache.entriesOf_fileText htext
    refine h.set hm rfl rfl ⟨rfl, rfl⟩ (fun j => ?_) (shows_reread hmerged hn' hb' htext hentries)
    obtain ⟨f, x, hf, hprobe, hx⟩ := hwritten j
    rw [Cache.load_of_text hf hprobe hx htext, hentries]
  | @clear i c hm hgone =>
    have hnone : Shows [] (replay m [.clear]) := fun k => .none
    refine h.set hm rfl rfl ⟨rfl, rfl⟩ (fun j => ?_) hnone
    obtain ⟨f, hf, hprobe⟩ := hgone j
    exact Cache.load_of_absent hf hprobe

theorem Consistent.run (h : Consistent m s) (hrun : Run s log s') : Consistent (replay m log) s' := by
  induction hrun with
  | refl => exact h
  | step _ hstep ih =>
    rw [replay, List.foldl_append]
    exact ih.step hstep

/-! ## What a log leaves under a key -/

/-- Whether an update can change what stands under a key. -/
def Update.Touches (key : String) : Update → Prop
  | .put k _ => k = key
  | .invalidate k => k = key
  | .clear => True

/-- Whether an update removes what stands under a key. -/
def Update.Removes (key : String) : Update → Prop
  | .put _ _ => False
  | .invalidate k => k = key
  | .clear => True

theorem replay_of_not_touches (h : ∀ u ∈ log, ¬u.Touches key) (m : String → Option CacheEntry) :
    replay m log key = m key := by
  induction log generalizing m with
  | nil => rfl
  | cons u log ih =>
    obtain ⟨hu, hlog⟩ := List.forall_mem_cons.mp h
    have happly : u.apply m key = m key := by
      cases u with
      | put k e => exact Function.update_of_ne (Ne.symm hu) ..
      | invalidate k => exact Function.update_of_ne (Ne.symm hu) ..
      | clear => exact absurd trivial hu
    exact (ih hlog (u.apply m)).trans happly

theorem replay_of_not_put (h : ∀ u ∈ log, ∀ e, u ≠ .put key e) (hm : m key = none) :
    replay m log key = none := by
  induction log generalizing m with
  | nil => exact hm
  | cons u log ih =>
    obtain ⟨hu, hlog⟩ := List.forall_mem_cons.mp h
    refine ih hlog ?_
    cases u with
    | put k e =>
      have hk : key ≠ k := fun hk => hu e (hk ▸ rfl)
      exact (Function.update_of_ne hk ..).trans hm
    | invalidate k =>
      by_cases hk : key = k
      · exact hk ▸ Function.update_self ..
      · exact (Function.update_of_ne hk ..).trans hm
    | clear => rfl

theorem replay_removed (hu : u.Removes key) {after : List Update} (h : ∀ v ∈ after, ∀ e, v ≠ .put key e)
    (m : String → Option CacheEntry) (before : List Update) : replay m (before ++ u :: after) key = none := by
  rw [replay, List.foldl_append, List.foldl_cons]
  refine replay_of_not_put h ?_
  cases u with
  | put k e => exact hu.elim
  | invalidate k =>
    cases hu
    exact Function.update_self ..
  | clear => rfl

theorem replay_put {after : List Update} (h : ∀ u ∈ after, ¬u.Touches key) (m : String → Option CacheEntry)
    (before : List Update) : replay m (before ++ .put key e :: after) key = some e := by
  rw [replay, List.foldl_append, List.foldl_cons]
  exact (replay_of_not_touches h _).trans (Function.update_self ..)

/-! ## No update is lost, and none comes back -/

/-- The stores are enabled and idle, have nothing noted, and read the same entries from their file. -/
structure Start (s : State ι) (initial : Fields CacheEntry) : Prop where
  enabled : ∀ i, (s.members i).cache.enabled = true
  idle : ∀ i, (s.members i).activity = .idle
  clean : ∀ i, (s.members i).cache.dirty = [] ∧ (s.members i).cache.removed = []
  load : ∀ i, (s.members i).cache.load s.world = .ok initial

omit [DecidableEq ι] in
theorem Start.consistent {initial : Fields CacheEntry} (h : Start s initial) : Consistent initial.get? s := by
  refine ⟨h.enabled, fun i => ?_, initial, h.load, shows_of_eq fun _ => rfl⟩
  unfold Member.Tidy
  rw [h.idle i]
  exact h.clean i

/-- At every moment the file holds the first entries with all finished updates applied in their order: an
entry that was put stays until it is touched again, and one that was removed does not come back. -/
theorem load_run {start s : State ι} {initial : Fields CacheEntry} {log : List Update}
    (hstart : Start start initial) (hrun : Run start log s) (i : ι) :
    ∃ stored, (s.members i).cache.load s.world = .ok stored ∧ Shows stored (replay initial.get? log) ∧
      (∀ before key e after, log = before ++ .put key e :: after → (∀ u ∈ after, ¬u.Touches key) →
        ∃ e', stored.get? key = some e' ∧ e'.Alike e) ∧
      (∀ before u after key, log = before ++ u :: after → u.Removes key →
        (∀ v ∈ after, ∀ e, v ≠ .put key e) → stored.get? key = none) := by
  obtain ⟨stored, hload, hshows⟩ := (hstart.consistent.run hrun).stored
  refine ⟨stored, hload i, hshows, ?_, ?_⟩
  · rintro before key e after rfl huntouched
    have hkey := hshows key
    rw [replay_put huntouched] at hkey
    cases hget : stored.get? key with
    | none =>
      rw [hget] at hkey
      cases hkey
    | some e' =>
      rw [hget] at hkey
      cases hkey with
      | some halike => exact ⟨e', rfl, halike⟩
  · rintro before u after key rfl hremoves hnoput
    have hkey := hshows key
    rw [replay_removed hremoves hnoput] at hkey
    cases hget : stored.get? key with
    | none => rfl
    | some e' =>
      rw [hget] at hkey
      cases hkey

/-! ## Two stores at one file -/

/-- Surroundings with nothing but the file of the stores, if it is there. -/
def deskWorld (x : Option File) : World :=
  { files := .dir (x.toList.map fun x => ("c.json", .file x)) }

theorem atTop_deskWorld (x : Option File) :
    (deskWorld x).AtTop "/c.json" "c.json" (x.toList.map fun x => ("c.json", .file x)) x := by
  refine ⟨rfl, ?_, by decide +kernel⟩
  cases x <;> simp [Fields.get?]

theorem probe_deskWorld (x : Option File) : (deskWorld x).probe "/c.json" = .ok (x.map .file) :=
  (atTop_deskWorld x).probe_eq

theorem writeEntries_deskWorld (x : Option File) (h : Cache.fileText entries = .ok text) :
    ∃ y, y.text = some text ∧
      Cache.writeEntries (deskWorld x) "/c.json" entries = (.ok (), deskWorld (some y)) := by
  refine ⟨⟨World.textSize text, some text, (deskWorld x).nowNs⟩, rfl, ?_⟩
  rw [Cache.writeEntries_of_atTop (atTop_deskWorld x) h]
  cases x <;> simp [deskWorld, Fields.put]

def deskCache : Cache :=
  { file := some "/c.json", lifetime := .null, enabled := true, memory := ⟨10, []⟩ }

def pair (w : World) (a b : Member) : State Bool :=
  ⟨w, fun i => if i then a else b⟩

theorem set_pair_true (w w' : World) (a b : Member) (c : Cache) (x : Activity) :
    (pair w a b).set true w' c x = pair w' ⟨c, x⟩ b := by
  unfold State.set pair
  congr 1
  funext i
  cases i <;> rfl

theorem set_pair_false (w w' : World) (a b : Member) (c : Cache) (x : Activity) :
    (pair w a b).set false w' c x = pair w' a ⟨c, x⟩ := by
  unfold State.set pair
  congr 1
  funext i
  cases i <;> rfl

def desk : State Bool := pair (deskWorld none) ⟨deskCache, .idle⟩ ⟨deskCache, .idle⟩

theorem start_desk : Start desk [] where
  enabled i := by cases i <;> rfl
  idle i := by cases i <;> rfl
  clean i := by cases i <;> exact ⟨rfl, rfl⟩
  load i := by cases i <;> exact Cache.load_of_absent rfl (probe_deskWorld none)

def deskEntry (path : String) : CacheEntry :=
  { path, access := {}, score := .number (.int 1), mtimeMs := .number (.int 0) }

def deskFirst : Cache :=
  { deskCache with persisted := [("a", deskEntry "/a.js")] }

def deskSecond : Cache :=
  { deskCache with persisted := [("a", deskEntry "/a.js"), ("b", deskEntry "/b.js")], loaded := true }

/-- A store at the file notes a change and saves it, given what it reads. -/
theorem update_desk (s : State Bool) (i : Bool) (c : Cache) (u : Update)
    (hmark : Step s [] (s.set i s.world c (.pending u))) {x : Option File} (hw : s.world = deskWorld x)
    (hfiles : ∀ j, (s.members j).cache.file = some "/c.json") (hfile : c.file = some "/c.json")
    (henabled : c.enabled) (hload : c.load (deskWorld x) = .ok stored) (hmerged : c.merged stored = entries)
    (htext : Cache.fileText entries = .ok text) :
    ∃ y, y.text = some text ∧ Run s [u] (s.set i (deskWorld (some y))
      { c with persisted := entries, dirty := [], removed := [] } .idle) := by
  obtain ⟨y, hy, hwrite⟩ := writeEntries_deskWorld x htext
  have hsave : c.save s.world = (.ok (),
      { c with persisted := entries, dirty := [], removed := [] }, deskWorld (some y)) := by
    rw [hw, Cache.save_eq henabled hfile hload, hmerged, hwrite]
  have hsaved : Cache.fileText (c.save s.world).2.1.persisted = .ok text := by
    rw [hsave]
    exact htext
  have hwritten : s.Written (c.save s.world).2.2 text := by
    intro j
    rw [hsave]
    exact ⟨"/c.json", y, hfiles j, probe_deskWorld (some y), hy⟩
  have hstep := Step.save (State.set_members_self s i s.world c (.pending u)) hsaved
    (hwritten.set (hfile.trans (hfiles i).symm))
  rw [State.set_world, State.set_set, hsave] at hstep
  exact ⟨y, hy, (Run.single hmark).step hstep⟩

/-- Entries that are written in order are read as they are. -/
theorem load_sorted {f : String} {y : File} (hfile : c.file = some f) (hprobe : w.probe f = .ok (some (.file y)))
    (hy : y.text = some text) (htext : Cache.fileText entries = .ok text)
    (hsorted : entries.Pairwise (Json.byName · ·)) (hn : entries.keys.Nodup)
    (hb : ∀ p ∈ entries, p.2.breakdown = []) :
    c.load w = .ok entries := by
  have hreread : entries.map (fun p => (p.1, p.2.reread)) = entries := by
    conv_rhs => rw [← List.map_id entries]
    exact List.map_congr_left fun p hp => by rw [CacheEntry.reread_of_empty (hb p hp)]; rfl
  rw [Cache.load_of_text hfile hprobe hy htext, Cache.entriesOf_fileText htext,
    List.mergeSort_of_pairwise hsorted, Fields.ofList_of_nodup hn, hreread]

theorem load_desk (hfile : c.file = some "/c.json") {y : File} (hy : y.text = some text)
    (htext : Cache.fileText entries = .ok text) (hsorted : entries.Pairwise (Json.byName · ·))
    (hn : entries.keys.Nodup)
    (hb : ∀ p ∈ entries, p.2.breakdown = []) : c.load (deskWorld (some y)) = .ok entries :=
  load_sorted hfile (probe_deskWorld (some y)) hy htext hsorted hn hb

/-- One store puts a result while the other has read the file and waits for the lock; the other then puts a
second result, and the first removes its own again. -/
theorem run_desk : ∃ s, Run desk
    [.put "a" (deskEntry "/a.js"), .put "b" (deskEntry "/b.js"), .invalidate "a"] s := by
  obtain ⟨text₁, htext₁⟩ := Cache.fileText_of_writable [("a", deskEntry "/a.js")] (by decide +kernel)
  obtain ⟨text₂, htext₂⟩ := Cache.fileText_of_writable [("a", deskEntry "/a.js"), ("b", deskEntry "/b.js")]
    (by decide +kernel)
  obtain ⟨text₃, htext₃⟩ := Cache.fileText_of_writable [("b", deskEntry "/b.js")] (by decide +kernel)
  have hempty : ∀ c : Cache, c.file = some "/c.json" → c.load (deskWorld none) = .ok [] :=
    fun c hc => Cache.load_of_absent hc (probe_deskWorld none)
  -- the second store reads the file, and the first puts its result
  have hread : Step desk [] (desk.set false desk.world deskCache (.reading [])) :=
    .read rfl rfl (hempty _ rfl)
  rw [desk, set_pair_false] at hread
  obtain ⟨y₁, hy₁, hrun₁⟩ := update_desk
    (pair (deskWorld none) ⟨deskCache, .idle⟩ ⟨deskCache, .reading []⟩) true
    (deskCache.markPut "a" (deskEntry "/a.js")) (.put "a" (deskEntry "/a.js"))
    (.markPut rfl "a" List.nodup_nil) rfl (fun j => by cases j <;> rfl) rfl rfl (hempty _ rfl) rfl htext₁
  rw [set_pair_true] at hrun₁
  -- the second store takes over what it has read before, and puts its own
  have hinstall : Step (pair (deskWorld (some y₁)) ⟨deskFirst, .idle⟩ ⟨deskCache, .reading []⟩) []
      ((pair (deskWorld (some y₁)) ⟨deskFirst, .idle⟩ ⟨deskCache, .reading []⟩).set false
        (deskWorld (some y₁)) (deskCache.install []) .idle) := .install rfl
  rw [set_pair_false] at hinstall
  obtain ⟨y₂, hy₂, hrun₂⟩ := update_desk
    (pair (deskWorld (some y₁)) ⟨deskFirst, .idle⟩ ⟨deskCache.install [], .idle⟩) false
    ((deskCache.install []).markPut "b" (deskEntry "/b.js")) (.put "b" (deskEntry "/b.js"))
    (.markPut rfl "b" List.nodup_nil) rfl (fun j => by cases j <;> rfl) rfl rfl
    (load_desk rfl hy₁ htext₁ (by simp) (by simp [Fields.keys]) (by simp [deskEntry])) rfl htext₂
  rw [set_pair_false] at hrun₂
  -- the first store removes its result
  obtain ⟨y₃, -, hrun₃⟩ := update_desk
    (pair (deskWorld (some y₂)) ⟨deskFirst, .idle⟩ ⟨deskSecond, .idle⟩) true
    (deskFirst.markRemoved "a") (.invalidate "a") (.markRemoved rfl "a") rfl
    (fun j => by cases j <;> rfl) rfl rfl
    (load_desk rfl hy₂ htext₂ (by simp [Json.byName]) (by simp [Fields.keys]) (by simp [deskEntry])) rfl htext₃
  exact ⟨_, ((((Run.single hread).trans hrun₁).step hinstall).trans hrun₂).trans hrun₃⟩

theorem load_run_desk : Start desk [] ∧ ∃ s,
    Run desk [.put "a" (deskEntry "/a.js"), .put "b" (deskEntry "/b.js"), .invalidate "a"] s ∧
      ∃ stored, (s.members false).cache.load s.world = .ok stored ∧ stored.get? "a" = none ∧
        ∃ e, stored.get? "b" = some e ∧ e.Alike (deskEntry "/b.js") := by
  obtain ⟨s, hrun⟩ := run_desk
  obtain ⟨stored, hload, -, hput, hremoved⟩ := load_run start_desk hrun false
  refine ⟨start_desk, s, hrun, stored, hload, ?_, ?_⟩
  · exact hremoved [.put "a" (deskEntry "/a.js"), .put "b" (deskEntry "/b.js")] (.invalidate "a") [] "a" rfl rfl
      (by simp)
  · exact hput [.put "a" (deskEntry "/a.js")] "b" (deskEntry "/b.js") [.invalidate "a"] rfl
      (by simp [Update.Touches])

end Sharing

end ShapeSearch
