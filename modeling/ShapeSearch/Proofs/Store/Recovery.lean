import ShapeSearch.Proofs.Store.Refinement

/-!
# Saves that fail

A store writes its entries to a temporary file, which then takes the place of its file.  The system can refuse
each of these steps (`Refusal`): the directories before the file, the temporary file, its text and the
replacement.  `writeVia` takes the steps one by one; if nothing is refused, it writes as `writeEntries` does
(`writeVia_none`).

A save that fails touches no file and no link, and leaves no temporary file behind.  A save that succeeds puts the
changes that are noted on top of what the file holds at that time:

    (writeVia (some refusal) t w f entries).2 is untouched                        (untouched_writeVia)
    (c.merged stored).get? k = c.overlay stored.get? k                            (get?_merged)

A save takes its notes from the store before it writes.  So after a save that fails nothing is noted any more, and
the next save that succeeds does not make up for it (`call_after_run`, `put_lost`).
-/

namespace ShapeSearch

namespace Recovery

open Cache (fileText writeEntries)
open Session (State Saved)
open Sharing (Update Shows)

/-! ## Writing step by step -/

/-- Where the system refuses a write. -/
inductive Refusal where
  /-- only the first directories before the file are made -/
  | directories (n : Nat)
  /-- no temporary file is made -/
  | temporary
  /-- only a part of the text is written to the temporary file -/
  | text (part : String)
  /-- the temporary file does not take the place of the file -/
  | replacement

/-- Whether there is a temporary file when the system refuses. -/
def Refusal.opens : Refusal → Bool
  | .directories _ => false
  | .temporary => false
  | .text _ => true
  | .replacement => true

/-- What is done before the temporary file is open, and whether it is then. -/
def opened (refusal : Option Refusal) (w : World) (f : String) : Bool × World :=
  match refusal with
  | some (.directories n) =>
    (false, (w.makeDirs [] ((World.splitLast (Path.components (w.absolute f))).1.take n)).2)
  | some .temporary => (false, (w.makeParents f).2)
  | _ => w.makeParents f

/-- A text on its way through the temporary file, which is deleted if it does not take the place of the file. -/
def stage (refusal : Option Refusal) (t : String) (w : World) (f text : String) : World :=
  match refusal with
  | none => ((w.placeText t text).unlink t).placeText f text
  | some (.text part) => (w.placeText t part).unlink t
  | some _ => (w.placeText t text).unlink t

/-- Write entries to a file by way of a temporary file at `t`. -/
def writeVia (refusal : Option Refusal) (t : String) (w : World) (f : String) (entries : Fields CacheEntry) :
    Except Misfit Unit × World :=
  match opened refusal w f with
  | (false, w) => (.ok (), w)
  | (true, w) =>
    match fileText entries with
    | .ok text => (.ok (), stage refusal t w f text)
    | .error m => (.error m, (w.placeText t "").unlink t)

variable {t f k : String} {w : World} {refusal : Refusal} {c : Cache}

theorem untouched_makeParents (w : World) (f : String) : w.Untouched (w.makeParents f).2 :=
  World.makeDirs_untouched w [] _

/-- If nothing is refused, entries are written as in one step. -/
theorem writeVia_none (ht : (w.makeParents f).2.Vacant t) (entries : Fields CacheEntry) :
    writeVia none t w f entries = writeEntries w f entries := by
  unfold writeVia writeEntries opened
  generalize w.makeParents f = made at ht
  obtain ⟨all, w₁⟩ := made
  cases all with
  | false => rfl
  | true =>
    replace ht : w₁.Vacant t := ht
    cases fileText entries with
    | ok text =>
      dsimp only [stage]
      rw [World.unlink_placeText ht]
    | error m =>
      dsimp only
      rw [World.unlink_placeText ht]

/-- A temporary file that is not used leaves nothing behind. -/
theorem stage_some (h : refusal.opens) (ht : w.Vacant t) (f text : String) :
    stage (some refusal) t w f text = w := by
  cases refusal with
  | directories n => cases h
  | temporary => cases h
  | text part => exact World.unlink_placeText ht part
  | replacement => exact World.unlink_placeText ht text

theorem opened_of_opens (h : refusal.opens) (w : World) (f : String) :
    opened (some refusal) w f = w.makeParents f := by
  cases refusal with
  | directories n => cases h
  | temporary => cases h
  | text part => rfl
  | replacement => rfl

/-- A write that is refused touches no file. -/
theorem untouched_writeVia (ht : refusal.opens = true → (w.makeParents f).2.Vacant t) (entries : Fields CacheEntry) :
    w.Untouched (writeVia (some refusal) t w f entries).2 := by
  have hmade := untouched_makeParents w f
  cases hopens : refusal.opens with
  | false =>
    cases refusal with
    | directories n =>
      dsimp only [writeVia, opened]
      exact World.makeDirs_untouched w [] _
    | temporary =>
      dsimp only [writeVia, opened]
      exact hmade
    | text part => cases hopens
    | replacement => cases hopens
  | true =>
    have hvacant := ht hopens
    rw [writeVia, opened_of_opens hopens]
    generalize w.makeParents f = made at hmade hvacant
    obtain ⟨all, w₁⟩ := made
    cases all with
    | false => exact hmade
    | true =>
      replace hvacant : w₁.Vacant t := hvacant
      cases fileText entries with
      | ok text =>
        dsimp only
        rw [stage_some hopens hvacant]
        exact hmade
      | error m =>
        dsimp only
        rw [World.unlink_placeText hvacant]
        exact hmade

/-- Something in the tree is in the way of the file. -/
def Blocked (w : World) (f : String) : Prop :=
  (w.makeParents f).1 = false ∨ ∀ text, (w.makeParents f).2.placeText f text = (w.makeParents f).2

theorem untouched_writeEntries (h : Blocked w f) (entries : Fields CacheEntry) :
    w.Untouched (writeEntries w f entries).2 := by
  have hmade := untouched_makeParents w f
  unfold writeEntries
  unfold Blocked at h
  generalize w.makeParents f = made at hmade h
  obtain ⟨all, w₁⟩ := made
  cases all with
  | false => exact hmade
  | true =>
    have hplace : ∀ text, w₁.placeText f text = w₁ := h.resolve_left (by simp)
    cases fileText entries with
    | ok text => simpa only [hplace] using hmade
    | error m => exact hmade

/-! ## Calls -/

/-- A call that changes what is stored under a key. -/
inductive Edit where
  | put (key : String) (e : CacheEntry)
  | invalidate (key : String)

namespace Edit

/-- What a call makes of the entries by key. -/
def update : Edit → Update
  | .put key e => .put key e
  | .invalidate key => .invalidate key

/-- What a call does to the memory tier. -/
def remember : Edit → Lru CacheEntry → Lru CacheEntry
  | .put key e, m => m.put key e
  | .invalidate key, m => (m.pop key).2

/-- The note of a call. -/
def mark : Edit → Cache → Cache
  | .put key e, c => c.markPut key e
  | .invalidate key, c => c.markRemoved key

/-- The breakdown of an entry has distinct names. -/
def Distinct : Edit → Prop
  | .put _ e => e.breakdown.keys.Nodup
  | .invalidate _ => True

def call (c : Cache) (w : World) : Edit → Except Misfit Unit × Cache × World
  | .put key e => c.put w key e
  | .invalidate key => c.invalidate w key

/-- The call of a store that is enabled, with any way to write its entries to its file. -/
def callWith (write : World → String → Fields CacheEntry → Except Misfit Unit × World) (c : Cache) (w : World)
    (edit : Edit) : Except Misfit Unit × Cache × World :=
  match Cache.ensureLoaded { c with memory := edit.remember c.memory } w with
  | .error m => (.error m, { c with memory := edit.remember c.memory }, w)
  | .ok c =>
    let c := edit.mark c
    match c.load w with
    | .error m => (.error m, c, w)
    | .ok stored =>
      let settled := { c with persisted := c.merged stored, dirty := [], removed := [] }
      match c.file with
      | some f => ((write w f (c.merged stored)).1, settled, (write w f (c.merged stored)).2)
      | none => (.ok (), settled, w)

end Edit

/-- A store with a file, whose notes were made after the file was read. -/
structure Orderly (c : Cache) : Prop where
  enabled : c.enabled = true
  file : ∃ f, c.file = some f
  noted : c.loaded = false → c.dirty = []
  distinct : ∀ p ∈ c.persisted, p.2.breakdown.keys.Nodup

variable {edit : Edit} {s s' : State}

theorem call_eq (h : Orderly c) (w : World) (edit : Edit) : edit.call c w = edit.callWith writeEntries c w := by
  have hcall : edit.call c w = match Cache.ensureLoaded { c with memory := edit.remember c.memory } w with
      | .error m => (.error m, { c with memory := edit.remember c.memory }, w)
      | .ok c => (edit.mark c).save w := by
    cases edit with
    | put key e => exact if_pos h.enabled
    | invalidate key => exact if_pos h.enabled
  rw [hcall, Edit.callWith]
  cases hload : Cache.ensureLoaded { c with memory := edit.remember c.memory } w with
  | error m => rfl
  | ok c' =>
    have henabled : (edit.mark c').enabled = true := by
      have hsame : (edit.mark c').enabled = c'.enabled := by cases edit <;> rfl
      rw [hsame]
      rcases Cache.ensureLoaded_eq_ok hload with rfl | ⟨entries, -, rfl⟩ <;> exact h.enabled
    cases hstored : (edit.mark c').load w with
    | error m => simp only [Cache.save, if_pos henabled, hstored]
    | ok stored =>
      cases hfile : (edit.mark c').file with
      | none => simp only [Cache.save, if_pos henabled, hstored, hfile]
      | some f => simp only [Cache.save, if_pos henabled, hstored, hfile]

/-- Only what is written to the file of the store counts. -/
theorem callWith_congr {write write' : World → String → Fields CacheEntry → Except Misfit Unit × World}
    (hf : c.file = some f) (hw : ∀ entries, write w f entries = write' w f entries) (edit : Edit) :
    edit.callWith write c w = edit.callWith write' c w := by
  unfold Edit.callWith
  cases hread : Cache.ensureLoaded { c with memory := edit.remember c.memory } w with
  | error m => rfl
  | ok c₁ =>
    have hfile : (edit.mark c₁).file = some f := by
      have hsame : (edit.mark c₁).file = c₁.file := by cases edit <;> rfl
      exact hsame.trans ((Cache.file_ensureLoaded hread).trans hf)
    cases hload : (edit.mark c₁).load w with
    | error m => simp only [hload]
    | ok stored => simp only [hload, hfile, hw]

theorem Orderly.ensureLoaded {c' : Cache} (h : Orderly c) {memory : Lru CacheEntry}
    (hload : Cache.ensureLoaded { c with memory } w = .ok c') :
    Orderly c' ∧ c'.file = c.file ∧ ∀ m, c'.overlay m = c.overlay m := by
  unfold Cache.ensureLoaded at hload
  split at hload
  · cases hload
    exact ⟨⟨h.enabled, h.file, h.noted, h.distinct⟩, rfl, fun m => rfl⟩
  · next hnew =>
    obtain ⟨entries, hentries, hload⟩ := bind_eq_ok.mp hload
    rw [Cache.install, if_neg hnew] at hload
    cases hload
    have hdirty : c.dirty = [] := h.noted (by simpa using hnew)
    refine ⟨⟨h.enabled, h.file, by simp, (Cache.nodup_load hentries).2⟩, rfl, fun m => ?_⟩
    funext k
    simp [Cache.overlay, hdirty]

theorem mem_addKey {key : String} {ks : List String} : k ∈ Cache.addKey key ks ↔ k = key ∨ k ∈ ks := by
  unfold Cache.addKey
  split
  · next hmem =>
    have hkey : key ∈ ks := List.contains_iff_mem.mp hmem
    exact ⟨.inr, fun h => h.elim (fun hk => hk ▸ hkey) id⟩
  · simp [or_comm]

theorem mem_dropKey {key : String} {ks : List String} : k ∈ Cache.dropKey key ks ↔ k ≠ key ∧ k ∈ ks := by
  simp [Cache.dropKey, and_comm]

/-- The last note under a key counts. -/
theorem overlay_mark (edit : Edit) (c : Cache) (m : String → Option CacheEntry) :
    (edit.mark c).overlay m = edit.update.apply (c.overlay m) := by
  funext k
  cases edit with
  | put key e =>
    show (c.markPut key e).overlay m k = Function.update (c.overlay m) key (some e) k
    by_cases hk : k = key
    · subst hk
      simp [Cache.overlay, Cache.markPut, mem_addKey]
    · simp [Cache.overlay, Cache.markPut, mem_addKey, mem_dropKey, hk]
  | invalidate key =>
    show (c.markRemoved key).overlay m k = Function.update (c.overlay m) key none k
    by_cases hk : k = key
    · subst hk
      simp [Cache.overlay, Cache.markRemoved, mem_addKey, mem_dropKey]
    · have herase : (c.persisted.erase key).get? k = c.persisted.get? k := by
        rw [Fields.erase, Fields.get?_filter fun n => decide (n ≠ key)]
        simp [hk]
      simp [Cache.overlay, Cache.markRemoved, mem_addKey, mem_dropKey, hk, herase]

theorem distinct_mark (he : edit.Distinct) (h : ∀ p ∈ c.persisted, p.2.breakdown.keys.Nodup) :
    ∀ p ∈ (edit.mark c).persisted, p.2.breakdown.keys.Nodup := by
  intro p hp
  cases edit with
  | put key e =>
    rcases Fields.mem_put hp with rfl | hp
    · exact he
    · exact h p hp
  | invalidate key => exact h p (List.mem_of_mem_filter hp)

/-- A store after a call: its entries are those that it has written, and nothing is noted. -/
structure Settled (c : Cache) (f : String) (entries : Fields CacheEntry) : Prop where
  enabled : c.enabled = true
  file : c.file = some f
  persisted : c.persisted = entries
  dirty : c.dirty = []
  removed : c.removed = []

theorem Settled.overlay {entries : Fields CacheEntry} (h : Settled c f entries) (m : String → Option CacheEntry) :
    c.overlay m = m := by
  funext k
  simp [Cache.overlay, h.dirty, h.removed]

/-- What a call does whose file can be read: it puts its own note and the earlier ones on top of what the file
holds, and writes that. -/
theorem callWith_cases {write : World → String → Fields CacheEntry → Except Misfit Unit × World} (h : Orderly c)
    (he : edit.Distinct) (hf : c.file = some f) (hok : (edit.callWith write c w).1 = .ok ()) :
    ∃ stored entries, c.load w = .ok stored ∧
      (∀ k, entries.get? k = edit.update.apply (c.overlay stored.get?) k) ∧ entries.keys.Nodup ∧
      (∀ p ∈ entries, p.2.breakdown.keys.Nodup) ∧ Settled (edit.callWith write c w).2.1 f entries ∧
      (edit.callWith write c w).2.2 = (write w f entries).2 := by
  have hframe : ∀ c : Cache, (edit.mark c).file = c.file ∧ (edit.mark c).enabled = c.enabled := by
    intro c
    cases edit <;> exact ⟨rfl, rfl⟩
  unfold Edit.callWith at hok ⊢
  cases hread : Cache.ensureLoaded { c with memory := edit.remember c.memory } w with
  | error m =>
    rw [hread] at hok
    cases hok
  | ok c₁ =>
    obtain ⟨horderly, hfile₁, hoverlay⟩ := h.ensureLoaded hread
    have hfile : (edit.mark c₁).file = some f := (hframe c₁).1.trans (hfile₁.trans hf)
    have hsame : (edit.mark c₁).load w = c.load w := Cache.load_congr (hfile.trans hf.symm) w
    rw [hread] at hok
    cases hload : c.load w with
    | error m =>
      simp only [hsame, hload] at hok
      cases hok
    | ok stored =>
      obtain ⟨hn, hb⟩ := Cache.nodup_load hload
      refine ⟨stored, (edit.mark c₁).merged stored, rfl, fun k => ?_, Cache.nodup_merged _ hn, ?_, ?_, ?_⟩
      · rw [Cache.get?_merged, overlay_mark, hoverlay]
      · intro p hp
        rcases Cache.mem_merged hp with hp | hp
        · exact hb p hp
        · exact distinct_mark he horderly.distinct p hp
      · simp only [hsame, hload, hfile]
        exact ⟨(hframe c₁).2.trans horderly.enabled, rfl, rfl, rfl, rfl⟩
      · simp only [hsame, hload, hfile]

/-! ## Runs -/

/-- A call that returns, and whether it has written the file.  A write fails where the system refuses it or
something is in the way. -/
inductive Call : State → Edit → Bool → State → Prop
  | written {s : State} {edit : Edit} (he : edit.Distinct) (h : Saved (edit.call s.cache s.world)) :
      Call s edit true ⟨(edit.call s.cache s.world).2.1, (edit.call s.cache s.world).2.2⟩
  | blocked {s : State} {edit : Edit} {f : String} (he : edit.Distinct) (hf : s.cache.file = some f)
      (hblocked : Blocked s.world f) (h : (edit.call s.cache s.world).1 = .ok ()) :
      Call s edit false ⟨(edit.call s.cache s.world).2.1, (edit.call s.cache s.world).2.2⟩
  | refused {s : State} {edit : Edit} {f t : String} {refusal : Refusal} (he : edit.Distinct)
      (hf : s.cache.file = some f) (ht : refusal.opens = true → (s.world.makeParents f).2.Vacant t)
      (h : (edit.callWith (writeVia (some refusal) t) s.cache s.world).1 = .ok ()) :
      Call s edit false ⟨(edit.callWith (writeVia (some refusal) t) s.cache s.world).2.1,
        (edit.callWith (writeVia (some refusal) t) s.cache s.world).2.2⟩

/-- Any number of calls with their outcomes; between them the surroundings change in any way. -/
inductive Run : State → List (Edit × Bool) → State → Prop
  | refl (s : State) : Run s [] s
  | outside {s s' : State} {log : List (Edit × Bool)} (w : World) : Run s log s' → Run s log ⟨s'.cache, w⟩
  | call {s s' s'' : State} {log : List (Edit × Bool)} {edit : Edit} {written : Bool} :
      Run s log s' → Call s' edit written s'' → Run s (log ++ [(edit, written)]) s''

theorem Call.settled {written : Bool} (hcall : Call s edit written s') (h : Orderly s.cache) :
    Orderly s'.cache ∧ ∀ m, s'.cache.overlay m = m := by
  obtain ⟨f, hf⟩ := h.file
  have horderly : ∀ {c : Cache} {entries : Fields CacheEntry}, Settled c f entries →
      (∀ p ∈ entries, p.2.breakdown.keys.Nodup) → Orderly c ∧ ∀ m, c.overlay m = m := by
    intro c entries hsettled hb
    refine ⟨⟨hsettled.enabled, ⟨f, hsettled.file⟩, fun _ => hsettled.dirty, ?_⟩, hsettled.overlay⟩
    rw [hsettled.persisted]
    exact hb
  cases hcall with
  | written he hsaved =>
    rw [call_eq h] at hsaved ⊢
    obtain ⟨-, entries, -, -, -, hb, hsettled, -⟩ := callWith_cases h he hf hsaved.1
    exact horderly hsettled hb
  | blocked he _ _ hok =>
    rw [call_eq h] at hok ⊢
    obtain ⟨-, entries, -, -, -, hb, hsettled, -⟩ := callWith_cases h he hf hok
    exact horderly hsettled hb
  | refused he _ _ hok =>
    obtain ⟨-, entries, -, -, -, hb, hsettled, -⟩ := callWith_cases h he hf hok
    exact horderly hsettled hb

theorem Call.untouched (hcall : Call s edit false s') (h : Orderly s.cache) : s.world.Untouched s'.world := by
  cases hcall with
  | blocked he hf hblocked hok =>
    rw [call_eq h] at hok ⊢
    obtain ⟨-, entries, -, -, -, -, -, hworld⟩ := callWith_cases h he hf hok
    dsimp only
    rw [hworld]
    exact untouched_writeEntries hblocked entries
  | refused he hf ht hok =>
    obtain ⟨-, entries, -, -, -, -, -, hworld⟩ := callWith_cases h he hf hok
    dsimp only
    rw [hworld]
    exact untouched_writeVia ht entries

/-- A call that succeeds puts all notes on top of what the file holds. -/
theorem Call.shows (hcall : Call s edit true s') (h : Orderly s.cache) :
    ∃ stored loaded, s.cache.load s.world = .ok stored ∧ s'.cache.load s'.world = .ok loaded ∧
      Shows loaded (edit.update.apply (s.cache.overlay stored.get?)) := by
  obtain ⟨f, hf⟩ := h.file
  cases hcall with
  | written he hsaved =>
    obtain ⟨hok, f', x, text, hf', hprobe, hx, htext⟩ := hsaved
    have hread := Cache.load_of_text hf' hprobe hx htext
    rw [call_eq h] at hok htext hread ⊢
    obtain ⟨stored, entries, hload, hget, hn, hb, hsettled, -⟩ := callWith_cases h he hf hok
    rw [hsettled.persisted] at htext
    obtain ⟨loaded, hentries⟩ : ∃ loaded, Cache.entriesOf text = .ok loaded :=
      ⟨_, Cache.entriesOf_fileText htext⟩
    have hshows := Sharing.shows_reread (Sharing.shows_of_eq hget) hn hb htext hentries
    exact ⟨stored, loaded, hload, hread.trans hentries, hshows⟩

theorem Run.orderly {s₀ : State} {log : List (Edit × Bool)} (hrun : Run s₀ log s) (h : Orderly s₀.cache) :
    Orderly s.cache ∧ ∀ m, s.cache.overlay m = if log = [] then s₀.cache.overlay m else m := by
  induction hrun with
  | refl => exact ⟨h, fun m => (if_pos rfl).symm⟩
  | outside w _ ih => exact ih
  | call _ hcall ih =>
    obtain ⟨horderly, hoverlay⟩ := hcall.settled ih.1
    exact ⟨horderly, fun m => (hoverlay m).trans (if_neg (by simp)).symm⟩

/-- After any calls, of which any number have failed to write the file: a call that fails touches no file, and a
call that succeeds leaves in the file what it held at that time, with the change of this call and, if it is the
first one, the changes noted before.  The changes of earlier calls that failed are not among them. -/
theorem call_after_run {s₀ s s' : State} {log : List (Edit × Bool)} {edit : Edit} {written : Bool}
    (h : Orderly s₀.cache) (hrun : Run s₀ log s) (hcall : Call s edit written s') :
    (written = false → s.world.Untouched s'.world) ∧
    (written = true → ∃ stored loaded, s.cache.load s.world = .ok stored ∧
      s'.cache.load s'.world = .ok loaded ∧
      Shows loaded (edit.update.apply (if log = [] then s₀.cache.overlay stored.get? else stored.get?))) ∧
    ∀ f t, s.cache.file = some f → (s.world.makeParents f).2.Vacant t →
      edit.callWith (writeVia none t) s.cache s.world = edit.call s.cache s.world := by
  obtain ⟨horderly, hoverlay⟩ := hrun.orderly h
  refine ⟨?_, ?_, fun f t hf ht => ?_⟩
  · rintro rfl
    exact hcall.untouched horderly
  · rintro rfl
    obtain ⟨stored, loaded, hload, hread, hshows⟩ := hcall.shows horderly
    rw [hoverlay] at hshows
    exact ⟨stored, loaded, hload, hread, hshows⟩
  · rw [call_eq horderly, callWith_congr hf (writeVia_none ht)]

/-! ## A change that is lost -/

theorem get?_eq_none {stored : Fields CacheEntry} {m : String → Option CacheEntry} (h : Shows stored m)
    (hk : m k = none) : stored.get? k = none := by
  have hrel := h k
  rw [hk] at hrel
  cases hget : stored.get? k with
  | none => rfl
  | some e =>
    rw [hget] at hrel
    cases hrel

theorem exists_alike {stored : Fields CacheEntry} {m : String → Option CacheEntry} (h : Shows stored m)
    {e : CacheEntry} (hk : m k = some e) : ∃ e', stored.get? k = some e' ∧ e'.Alike e := by
  have hrel := h k
  rw [hk] at hrel
  cases hget : stored.get? k with
  | none =>
    rw [hget] at hrel
    cases hrel
  | some e' =>
    rw [hget] at hrel
    cases hrel with
    | some halike => exact ⟨e', rfl, halike⟩

/-- Surroundings with at most one node, under the name of the directory before the file. -/
def cellar (n : Option Node) : World :=
  { files := .dir (n.toList.map fun n => ("d", n)) }

def stocked (y : File) : World := cellar (some (.dir [("c.json", .file y)]))

theorem absolute_cellar (n : Option Node) : (cellar n).absolute "/d/c.json" = "/d/c.json" := by
  show Path.join "/" "/d/c.json" = "/d/c.json"
  decide +kernel

theorem makeParents_file (x : File) :
    (cellar (some (.file x))).makeParents "/d/c.json" = (false, cellar (some (.file x))) := by
  have hdirs : (World.splitLast (Path.components "/d/c.json")).1 = ["d"] := by decide +kernel
  have hpath : World.pathText ([] ++ ["d"]) = "/d" := by decide +kernel
  have hstat : (cellar (some (.file x))).files.stat "/d" = .ok (.file x) := rfl
  rw [World.makeParents, absolute_cellar, hdirs, World.makeDirs, hpath, hstat]

theorem makeParents_none : (cellar none).makeParents "/d/c.json" = (true, cellar (some (.dir []))) := rfl

theorem placeText_cellar (text : String) :
    ∃ y, y.text = some text ∧ (cellar (some (.dir []))).placeText "/d/c.json" text = stocked y :=
  ⟨⟨_, some text, _⟩, rfl, rfl⟩

theorem reachable_cellar : (World.hasNull "/d/c.json" || decide ("/d/c.json" = "")) = false := by
  decide +kernel

theorem probe_stocked (y : File) : (stocked y).probe "/d/c.json" = .ok (some (.file y)) := by
  have hstat : (stocked y).files.stat "/d/c.json" = .ok (.file y) := rfl
  unfold World.probe
  rw [reachable_cellar, stocked, absolute_cellar, ← stocked, hstat]
  rfl

theorem probe_file (x : File) : (cellar (some (.file x))).probe "/d/c.json" = .ok none := by
  have hstat : (cellar (some (.file x))).files.stat "/d/c.json" = .error .notADirectory := rfl
  unfold World.probe
  rw [reachable_cellar, absolute_cellar, hstat]
  rfl

theorem probe_none : (cellar none).probe "/d/c.json" = .ok none := rfl

theorem writeEntries_file (x : File) (entries : Fields CacheEntry) :
    writeEntries (cellar (some (.file x))) "/d/c.json" entries = (.ok (), cellar (some (.file x))) := by
  rw [writeEntries, makeParents_file]

theorem writeEntries_none {entries : Fields CacheEntry} {text : String} (h : fileText entries = .ok text) :
    ∃ y, y.text = some text ∧ writeEntries (cellar none) "/d/c.json" entries = (.ok (), stocked y) := by
  obtain ⟨y, hy, hplace⟩ := placeText_cellar text
  refine ⟨y, hy, ?_⟩
  rw [writeEntries, makeParents_none]
  simp only [h, hplace]

def cellarCache : Cache :=
  { Sharing.deskCache with file := some "/d/c.json" }

/-- A file in the place of the directory. -/
def lump : File := ⟨1, some "x", 0⟩

/-- The store after its first call. -/
def cellarFirst : Cache := Session.afterPut cellarCache [] "k" (Sharing.deskEntry "/k.js")

theorem put_first : cellarCache.put (cellar (some (.file lump))) "k" (Sharing.deskEntry "/k.js") =
    (.ok (), cellarFirst, cellar (some (.file lump))) := by
  have hload : cellarCache.load (cellar (some (.file lump))) = .ok [] :=
    Cache.load_of_absent rfl (probe_file lump)
  rw [Session.put_of_clean rfl rfl ⟨rfl, rfl⟩ hload, writeEntries_file]
  rfl

theorem put_second : ∃ y text, y.text = some text ∧ fileText [("l", Sharing.deskEntry "/l.js")] = .ok text ∧
    cellarFirst.put (cellar none) "l" (Sharing.deskEntry "/l.js") =
      (.ok (), Session.afterPut cellarFirst [] "l" (Sharing.deskEntry "/l.js"), stocked y) := by
  obtain ⟨text, htext⟩ := Cache.fileText_of_writable [("l", Sharing.deskEntry "/l.js")] (by decide +kernel)
  obtain ⟨y, hy, hwrite⟩ := writeEntries_none htext
  have hload : cellarFirst.load (cellar none) = .ok [] := Cache.load_of_absent rfl probe_none
  refine ⟨y, text, hy, htext, ?_⟩
  rw [Session.put_of_clean rfl rfl ⟨rfl, rfl⟩ hload]
  exact congrArg (fun r => (r.1, Session.afterPut cellarFirst [] "l" (Sharing.deskEntry "/l.js"), r.2)) hwrite

theorem vacant_cellar : (cellar (some (.dir []))).Vacant "/d/t" := by
  have hcomponents : Path.components ((cellar (some (.dir []))).absolute "/d/t") = ["d"] ++ ["t"] := by
    show Path.components (Path.join "/" "/d/t") = ["d"] ++ ["t"]
    decide +kernel
  exact ⟨["d"], "t", ["d"], [], hcomponents, by decide +kernel, rfl, rfl, rfl⟩

/-- One call fails, the file in the way is deleted, and the next call succeeds. -/
theorem call_after_blocked : Orderly cellarCache ∧ ∃ s',
    Run ⟨cellarCache, cellar (some (.file lump))⟩ [(.put "k" (Sharing.deskEntry "/k.js"), false)]
      ⟨cellarFirst, cellar none⟩ ∧
    Call ⟨cellarFirst, cellar none⟩ (.put "l" (Sharing.deskEntry "/l.js")) true s' ∧
    (∃ loaded, s'.cache.load s'.world = .ok loaded ∧ loaded.get? "k" = none ∧
      ∃ e, loaded.get? "l" = some e ∧ e.Alike (Sharing.deskEntry "/l.js")) ∧
    ((cellar none).makeParents "/d/c.json").2.Vacant "/d/t" ∧
    Edit.callWith (writeVia none "/d/t") cellarFirst (cellar none) (.put "l" (Sharing.deskEntry "/l.js")) =
      cellarFirst.put (cellar none) "l" (Sharing.deskEntry "/l.js") := by
  have horderly : Orderly cellarCache := ⟨rfl, ⟨_, rfl⟩, fun _ => rfl, fun _ hp => (List.not_mem_nil hp).elim⟩
  have hdistinct : ∀ key path, (Edit.put key (Sharing.deskEntry path)).Distinct := fun _ _ => List.nodup_nil
  have hblocked : Blocked (cellar (some (.file lump))) "/d/c.json" := .inl (by rw [makeParents_file])
  have hfirst := Call.blocked (s := ⟨cellarCache, cellar (some (.file lump))⟩)
    (hdistinct "k" "/k.js") rfl hblocked (by rw [Edit.call, put_first])
  rw [Edit.call, put_first] at hfirst
  have hrun := ((Run.refl _).call hfirst).outside (cellar none)
  obtain ⟨y, text, hy, htext, hput⟩ := put_second
  have hsaved : Saved (Edit.call cellarFirst (cellar none) (.put "l" (Sharing.deskEntry "/l.js"))) := by
    rw [Edit.call, hput]
    exact ⟨rfl, "/d/c.json", y, text, rfl, probe_stocked y, hy, htext⟩
  have hcall := Call.written (s := ⟨cellarFirst, cellar none⟩) (hdistinct "l" "/l.js") hsaved
  obtain ⟨-, hwritten, hstaged⟩ := call_after_run horderly hrun hcall
  obtain ⟨stored, loaded, hstored, hloaded, hshows⟩ := hwritten rfl
  rw [Cache.load_of_absent rfl probe_none] at hstored
  cases hstored
  have hvacant : ((cellar none).makeParents "/d/c.json").2.Vacant "/d/t" := by
    rw [makeParents_none]
    exact vacant_cellar
  refine ⟨horderly, _, hrun, hcall, ⟨loaded, hloaded, ?_, ?_⟩, hvacant, hstaged _ _ rfl hvacant⟩
  · apply get?_eq_none hshows
    simp [Edit.update, Update.apply]
  · apply exists_alike hshows
    simp [Edit.update, Update.apply]

/-- The store returns from both calls, but only the second entry is in the file. -/
theorem put_lost : ∃ c₁ c₂ w₂ loaded,
    cellarCache.put (cellar (some (.file lump))) "k" (Sharing.deskEntry "/k.js") =
      (.ok (), c₁, cellar (some (.file lump))) ∧
    c₁.put (cellar none) "l" (Sharing.deskEntry "/l.js") = (.ok (), c₂, w₂) ∧
    c₂.load w₂ = .ok loaded ∧ loaded.get? "k" = none ∧
    loaded.get? "l" = some (Sharing.deskEntry "/l.js") := by
  obtain ⟨y, text, hy, htext, hput⟩ := put_second
  refine ⟨_, _, _, [("l", Sharing.deskEntry "/l.js")], put_first, hput, ?_, rfl, rfl⟩
  exact Sharing.load_sorted rfl (probe_stocked y) hy htext (by simp) (by simp [Fields.keys])
    (by simp [Sharing.deskEntry])

end Recovery

end ShapeSearch
