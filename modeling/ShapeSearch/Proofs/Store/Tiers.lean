import ShapeSearch.Proofs.Store.Entry
import ShapeSearch.Proofs.World

/-!
# The tiers of a store

A lookup and a `put` read the file at most once, and what they do to the store is a change of its two tiers
(`put_eq`, `get_cache`, `ensureLoaded_eq_ok`).

A store `Holds P` if all entries in its tiers have a property `P`.  If the entries in its file have it too,
lookups and puts keep it so, and all that is written to the file has it:

    c.Holds P → (c.get w key).2.Holds P                                             (Holds.get)
    c.Holds P → P key e → (c.put w key e).2.1.Holds P                               (Holds.put)
-/

namespace ShapeSearch

namespace Cache

variable {P : String → CacheEntry → Prop} {c c' : Cache} {w : World} {key text f k : String} {e : CacheEntry}
  {x : File} {entries stored : Fields CacheEntry} {memory m : Lru CacheEntry} {p : String × CacheEntry}

theorem load_congr (h : c.file = c'.file) (w : World) : c.load w = c'.load w := by
  rw [load, load, h]

theorem load_of_probe {w' : World} (h : ∀ f, c.file = some f → w'.probe f = w.probe f) : c.load w' = c.load w := by
  unfold load
  split
  · rfl
  · next f hf => rw [h f hf]

theorem lines_of_fileText (hx : x.text = some text) (htext : fileText entries = .ok text) : x.lines = some text := by
  rw [File.lines, hx, Option.map_some, (fileText_eq_ok htext).2,
    Json.unifyLineEnds_write (Json.Style.readable_indented 2)]

theorem load_of_file {limits : Json.Limits} (hf : c.file = some f) (hprobe : w.probe f = .ok (some (.file x))) :
    c.load w limits = entriesOf (x.lines.getD "") limits := by
  rw [load, hf]
  exact bind_ok hprobe

theorem load_of_text (hf : c.file = some f) (hprobe : w.probe f = .ok (some (.file x)))
    (hx : x.text = some text) (htext : fileText entries = .ok text) : c.load w = entriesOf text := by
  rw [load_of_file hf hprobe, lines_of_fileText hx htext, Option.getD_some]

theorem load_of_absent (hf : c.file = some f) (hprobe : w.probe f = .ok none) : c.load w = .ok [] := by
  rw [load, hf]
  simp only [hprobe]
  rfl

theorem writeEntries_of_atTop {name : String} {es : List (String × Node)} {x : Option File}
    (h : w.AtTop f name es x) (htext : fileText entries = .ok text) : writeEntries w f entries = (.ok (), { w with
      files := .dir (Fields.put es name
        (.file ⟨World.textSize text, some text, w.nowNs⟩)) }) := by
  rw [writeEntries, h.makeParents_eq]
  simp only [htext, h.placeText_eq]

theorem nodup_load (h : c.load w = .ok stored) : stored.keys.Nodup ∧ ∀ p ∈ stored, p.2.breakdown.keys.Nodup := by
  unfold load at h
  split at h
  · cases h
    exact ⟨List.nodup_nil, by simp⟩
  · obtain ⟨found, -, h⟩ := bind_eq_ok.mp h
    split at h
    · exact nodup_entriesOf h
    · cases h
      exact ⟨List.nodup_nil, by simp⟩

theorem save_cache (henabled : c.enabled) (hload : c.load w = .ok stored) :
    (c.save w).2.1 = { c with persisted := c.merged stored, dirty := [], removed := [] } := by
  unfold save
  rw [if_pos henabled, hload]
  simp only
  split <;> rfl

theorem save_eq (henabled : c.enabled) (hfile : c.file = some f) (hload : c.load w = .ok stored) :
    c.save w = ((writeEntries w f (c.merged stored)).1,
      { c with persisted := c.merged stored, dirty := [], removed := [] },
      (writeEntries w f (c.merged stored)).2) := by
  unfold save
  rw [if_pos henabled, hload]
  simp only [hfile]

theorem merged_put (hdirty : c.dirty = [key]) (hremoved : c.removed = [])
    (hget : c.persisted.get? key = some e) (stored : Fields CacheEntry) : c.merged stored = stored.put key e := by
  have hall : (stored.filter fun p => !c.removed.contains p.1) = stored := by
    rw [hremoved]
    simp
  rw [merged, hall, hdirty]
  simp [hget]

theorem merged_removed (hdirty : c.dirty = []) (hremoved : c.removed = [key]) (stored : Fields CacheEntry) :
    c.merged stored = stored.filter fun p => !decide (p.1 = key) := by
  rw [merged, hdirty, hremoved]
  simp

/-- Entries by key with the noted changes of a store: those that it has put, and of the others those that it has
not removed. -/
def overlay (c : Cache) (m : String → Option CacheEntry) (k : String) : Option CacheEntry :=
  (if k ∈ c.dirty then c.persisted.get? k else none).or (if k ∈ c.removed then none else m k)

/-- Entries with one key taken over from those of a store. -/
def takeOver (c : Cache) (out : Fields CacheEntry) (k : String) : Fields CacheEntry :=
  match c.persisted.get? k with
  | some e => out.put k e
  | none => out

theorem merged_eq (c : Cache) (stored : Fields CacheEntry) :
    c.merged stored = c.dirty.foldl c.takeOver (stored.filter fun p => !c.removed.contains p.1) := rfl

theorem takeOver_of_some (h : c.persisted.get? k = some e) (out : Fields CacheEntry) :
    c.takeOver out k = out.put k e := by
  rw [takeOver, h]

theorem takeOver_of_none (h : c.persisted.get? k = none) (out : Fields CacheEntry) : c.takeOver out k = out := by
  rw [takeOver, h]

/-- The merged entries are the stored ones with the noted changes. -/
theorem get?_merged (c : Cache) (stored : Fields CacheEntry) (k : String) :
    (c.merged stored).get? k = c.overlay stored.get? k := by
  have hfold : ∀ (keys : List String) (out : Fields CacheEntry),
      Fields.get? (keys.foldl c.takeOver out) k =
        (if k ∈ keys then c.persisted.get? k else none).or (out.get? k) := by
    intro keys
    induction keys with
    | nil => exact fun out => rfl
    | cons n keys ih =>
      intro out
      rw [List.foldl_cons, ih]
      cases hget : c.persisted.get? n with
      | some e =>
        rw [takeOver_of_some hget]
        by_cases hn : k = n
        · subst hn
          by_cases hk : k ∈ keys <;> simp [hk, hget]
        · simp [hn]
      | none =>
        rw [takeOver_of_none hget]
        by_cases hn : k = n
        · subst hn
          simp [hget]
        · simp [hn]
  rw [merged_eq, hfold]
  rw [overlay, Fields.get?_filter fun n => !c.removed.contains n]
  by_cases hk : k ∈ c.removed <;> simp [hk]

theorem nodup_merged (c : Cache) (h : stored.keys.Nodup) : (c.merged stored).keys.Nodup := by
  have hfold : ∀ (keys : List String) (out : Fields CacheEntry), out.keys.Nodup →
      (Fields.keys (keys.foldl c.takeOver out)).Nodup := by
    intro keys
    induction keys with
    | nil => exact fun out h => h
    | cons k keys ih =>
      intro out hout
      rw [List.foldl_cons]
      refine ih _ ?_
      cases hget : c.persisted.get? k with
      | some e =>
        rw [takeOver_of_some hget]
        exact Fields.nodup_put hout _ _
      | none =>
        rw [takeOver_of_none hget]
        exact hout
  exact hfold c.dirty _ (Fields.nodup_filter _ h)

/-- The file is not read again, or its entries are taken over. -/
theorem ensureLoaded_eq_ok (h : c.ensureLoaded w = .ok c') :
    c' = c ∨ ∃ entries, c.load w = .ok entries ∧ c' = { c with persisted := entries, loaded := true } := by
  unfold ensureLoaded at h
  split at h
  · cases h
    exact .inl rfl
  · next hloaded =>
    obtain ⟨entries, hload, h⟩ := bind_eq_ok.mp h
    cases h
    exact .inr ⟨entries, hload, if_neg hloaded⟩

theorem file_ensureLoaded (h : c.ensureLoaded w = .ok c') : c'.file = c.file := by
  rcases ensureLoaded_eq_ok h with rfl | ⟨entries, -, rfl⟩ <;> rfl

theorem put_eq (henabled : c.enabled) (h : (c.put w key e).1 = .ok ()) :
    ∃ c₁, ensureLoaded { c with memory := c.memory.put key e } w = .ok c₁ ∧
      c.put w key e = (c₁.markPut key e).save w := by
  cases hloaded : ensureLoaded { c with memory := c.memory.put key e } w with
  | error m =>
    simp only [put, if_pos henabled, hloaded] at h
    cases h
  | ok c₁ =>
    exact ⟨c₁, rfl, by simp only [put, if_pos henabled, hloaded]⟩

/-- After a `put` that succeeds the store has taken over the entry, and no name twice. -/
theorem persisted_put (henabled : c.enabled) (h : (c.put w key e).1 = .ok ()) :
    (c.put w key e).2.1.persisted.get? key = some e ∧ (c.put w key e).2.1.persisted.keys.Nodup := by
  obtain ⟨c₁, hloaded, hput⟩ := put_eq henabled h
  have hstill : (c₁.markPut key e).enabled = true := by
    rcases ensureLoaded_eq_ok hloaded with rfl | ⟨entries, -, rfl⟩ <;> exact henabled
  have hdirty : key ∈ (c₁.markPut key e).dirty := by
    show key ∈ addKey key c₁.dirty
    unfold addKey
    split
    · next hmem => exact List.contains_iff_mem.mp hmem
    · exact List.mem_append_right _ (List.mem_singleton_self key)
  have hget : (c₁.markPut key e).persisted.get? key = some e := Fields.get?_put_self _ _ _
  cases hload : (c₁.markPut key e).load w with
  | error m =>
    rw [hput, save, if_pos hstill, hload] at h
    cases h
  | ok stored =>
    rw [hput, save_cache hstill hload]
    refine ⟨?_, nodup_merged _ (nodup_load hload).1⟩
    show Fields.get? (merged _ stored) key = some e
    rw [get?_merged, overlay, if_pos hdirty, hget, Option.some_or]

theorem invalidate_eq (henabled : c.enabled) (h : (c.invalidate w key).1 = .ok ()) :
    ∃ c₁, ensureLoaded { c with memory := (c.memory.pop key).2 } w = .ok c₁ ∧
      c.invalidate w key = (c₁.markRemoved key).save w := by
  cases hloaded : ensureLoaded { c with memory := (c.memory.pop key).2 } w with
  | error m =>
    simp only [invalidate, if_pos henabled, hloaded] at h
    cases h
  | ok c₁ =>
    exact ⟨c₁, rfl, by simp only [invalidate, if_pos henabled, hloaded]⟩

theorem lru_get_put (m : Lru CacheEntry) (h : 0 < m.capacity) (key : String) (e : CacheEntry) :
    ∃ memory, (m.put key e).get key = (some e, memory) := by
  have herased : key ∉ Fields.keys (Fields.erase m.entries key) := by
    intro hc
    obtain ⟨p, hp, hkey⟩ := List.mem_map.mp hc
    simpa [hkey] using (List.mem_filter.mp hp).2
  have hlength : (Fields.erase m.entries key ++ [(key, e)]).length - m.capacity ≤
      (Fields.erase m.entries key).length := by
    rw [List.length_append, List.length_singleton]
    omega
  have hget : Fields.get? (m.put key e).entries key = some e := by
    show Fields.get? ((Fields.erase m.entries key ++ [(key, e)]).drop _) key = some e
    rw [List.drop_append_of_le_length hlength, Fields.get?_append,
      Fields.get?_eq_none_iff.mpr fun hc => herased (List.map_subset _ (List.drop_subset _ _) hc)]
    simp [Fields.get?]
  rw [Lru.get, hget]
  exact ⟨_, rfl⟩

/-- A lookup that finds an entry in memory which still holds gives it. -/
theorem get_of_memory (h : c.memory.get key = (some e, memory)) (hvalid : e.isValid w w.nowMs = .ok true) :
    c.get w key = (.ok (some e), { c with memory }) := by
  unfold get
  rw [h]
  simp only [hvalid]

/-- The file of a store holds some entries. -/
def Keeps (c : Cache) (w : World) (entries : Fields CacheEntry) : Prop :=
  ∃ f x text, c.file = some f ∧ w.probe f = .ok (some (.file x)) ∧ x.text = some text ∧
    fileText entries = .ok text

/-- A lookup in a new store finds an entry that was written to its file, if it still holds. -/
theorem get_of_file (hmemory : c.memory.entries = []) (hloaded : c.loaded = false) (henabled : c.enabled)
    (hkeeps : c.Keeps w entries) (hnodup : entries.keys.Nodup) (hget : entries.get? key = some e)
    (hvalid : e.isValid w w.nowMs = .ok true) : (c.get w key).1 = .ok (some e.reread) := by
  obtain ⟨f, x, text, hf, hprobe, hx, htext⟩ := hkeeps
  obtain ⟨loaded, hentries⟩ : ∃ loaded, entriesOf text = .ok loaded := ⟨_, entriesOf_fileText htext⟩
  have hload : c.ensureLoaded w = .ok { c with persisted := loaded, loaded := true } := by
    have hread : c.load w = .ok loaded := (load_of_text hf hprobe hx htext).trans hentries
    rw [ensureLoaded, if_neg (by simp [hloaded]), bind_ok hread, install, if_neg (by simp [hloaded])]
  have hfound : Fields.get? loaded key = some e.reread := by
    rw [get?_entriesOf_fileText hnodup htext hentries, hget, Option.map_some]
  have hagain : e.reread.isValid w w.nowMs = .ok true := hvalid
  have hnone : c.memory.get key = (none, c.memory) := by rw [Lru.get, hmemory, Fields.get?_nil]
  rw [get, hnone]
  simp only [getPersisted, henabled, if_true, hload, hfound, hagain]

/-- A `put` does to the memory tier what it does without a file. -/
theorem memory_put (c : Cache) (w : World) (key : String) (e : CacheEntry) :
    (c.put w key e).2.1.memory = c.memory.put key e := by
  unfold put
  simp only
  split
  · split
    · rfl
    · next c₁ hloaded =>
      have hsave : ((c₁.markPut key e).save w).2.1.memory = c₁.memory := by
        unfold save
        split
        · split
          · rfl
          · simp only
            split <;> rfl
        · rfl
      rw [hsave]
      rcases ensureLoaded_eq_ok hloaded with rfl | ⟨entries, -, rfl⟩ <;> rfl
  · rfl

/-- A lookup behind the memory tier changes nothing, or reads the file and then only the memory tier. -/
theorem getPersisted_cache (c : Cache) (w : World) (key : String) : (c.getPersisted w key).2 = c ∨
      ∃ c₁ lru, c.ensureLoaded w = .ok c₁ ∧ (c.getPersisted w key).2 = { c₁ with memory := lru } := by
  unfold getPersisted
  split
  · split
    · exact .inl rfl
    · next c₁ hloaded =>
      right
      split
      · exact ⟨c₁, c₁.memory, hloaded, rfl⟩
      · split
        · exact ⟨c₁, c₁.memory, hloaded, rfl⟩
        · exact ⟨c₁, _, hloaded, rfl⟩
        · exact ⟨c₁, c₁.memory, hloaded, rfl⟩
  · exact .inl rfl

/-- A lookup changes the memory tier and then looks behind it, or it changes the memory tier only. -/
theorem get_cache (c : Cache) (w : World) (key : String) : ∃ lru, (c.get w key).2 = { c with memory := lru } ∨
      (c.get w key).2 = (getPersisted { c with memory := lru } w key).2 := by
  unfold get
  split
  · exact ⟨c.memory, .inr rfl⟩
  · next e memory _ =>
    simp only
    split
    · exact ⟨memory, .inl rfl⟩
    · exact ⟨memory, .inl rfl⟩
    · exact ⟨_, .inr rfl⟩

/-- What a `get` does to the memory tier leaves its capacity. -/
theorem capacity_getPersisted (c : Cache) (w : World) (key : String) :
    (c.getPersisted w key).2.memory.capacity = c.memory.capacity := by
  unfold getPersisted
  split
  · split
    · rfl
    · next c₁ hloaded =>
      have hsame : c₁.memory = c.memory := by
        rcases ensureLoaded_eq_ok hloaded with rfl | ⟨entries, -, rfl⟩ <;> rfl
      rw [← hsame]
      split
      · rfl
      · split <;> rfl
  · rfl

theorem capacity_get (c : Cache) (w : World) (key : String) :
    (c.get w key).2.memory.capacity = c.memory.capacity := by
  unfold get
  split
  · exact capacity_getPersisted c w key
  · next e memory hget =>
    have hsame : memory.capacity = c.memory.capacity := by
      unfold Lru.get at hget
      split at hget
      · cases hget
        rfl
      · cases hget
    simp only
    split
    · exact hsame
    · exact hsame
    · rw [capacity_getPersisted]
      exact hsame

theorem enabled_get (c : Cache) (w : World) (key : String) : (c.get w key).2.enabled = c.enabled := by
  have hpersisted : ∀ c : Cache, (c.getPersisted w key).2.enabled = c.enabled := by
    intro c
    rcases getPersisted_cache c w key with h | ⟨c₁, lru, hload, h⟩
    · rw [h]
    · rw [h]
      rcases ensureLoaded_eq_ok hload with rfl | ⟨entries, -, rfl⟩ <;> rfl
  obtain ⟨lru, h | h⟩ := get_cache c w key
  · rw [h]
  · rw [h]
    exact hpersisted { c with memory := lru }

/-! ## All entries of a store -/

/-- All entries in memory and all entries taken over from the file have a property. -/
structure Holds (P : String → CacheEntry → Prop) (c : Cache) : Prop where
  memory : ∀ k e, (k, e) ∈ c.memory.entries → P k e
  persisted : ∀ k e, (k, e) ∈ c.persisted → P k e

/-- All entries that a store finds in its file have a property. -/
def Finds (P : String → CacheEntry → Prop) (w : World) (c : Cache) : Prop :=
  ∀ entries, c.load w = .ok entries → ∀ k e, (k, e) ∈ entries → P k e

theorem mem_lru_pop : p ∈ (m.pop k).2.entries ↔ p ∈ m.entries ∧ p.1 ≠ k := by
  show p ∈ List.filter _ _ ↔ _
  rw [List.mem_filter, decide_eq_true_eq]

theorem mem_lru_put {v : CacheEntry} (h : p ∈ (m.put k v).entries) :
    p = (k, v) ∨ p ∈ m.entries ∧ p.1 ≠ k := by
  rcases List.mem_append.mp (List.mem_of_mem_drop h) with h | h
  · exact .inr (mem_lru_pop.mp h)
  · exact .inl (List.mem_singleton.mp h)

theorem mem_lru_get {v : CacheEntry} (h : m.get k = (some v, memory)) :
    (k, v) ∈ m.entries ∧ ∀ p ∈ memory.entries, p ∈ m.entries := by
  unfold Lru.get at h
  split at h
  · next x hx =>
    cases h
    have hmem := Fields.mem_of_get? hx
    refine ⟨hmem, fun p hp => ?_⟩
    rcases List.mem_append.mp hp with hp | hp
    · exact List.mem_of_mem_filter hp
    · rw [List.mem_singleton.mp hp]
      exact hmem
  · cases h

theorem Holds.remember (h : c.Holds P) (hm : ∀ k e, (k, e) ∈ memory.entries → P k e) :
    Holds P { c with memory } :=
  ⟨hm, h.persisted⟩

theorem Holds.ensureLoaded (h : c.Holds P) (hf : c.Finds P w) (hc : c.ensureLoaded w = .ok c') : c'.Holds P := by
  rcases ensureLoaded_eq_ok hc with rfl | ⟨entries, hload, rfl⟩
  · exact h
  · exact ⟨h.memory, hf entries hload⟩

theorem Holds.getPersisted (h : c.Holds P) (hf : c.Finds P w) :
    (c.getPersisted w key).2.Holds P ∧ ∀ e, (c.getPersisted w key).1 = .ok (some e) →
      P key e ∧ e.isValid w w.nowMs = .ok true := by
  unfold Cache.getPersisted
  split
  · split
    · exact ⟨h, by simp⟩
    · next c' hc =>
      have h' := h.ensureLoaded hf hc
      split
      · exact ⟨h', by simp⟩
      · next x hx =>
        have hp : P key x := h'.persisted key x (Fields.mem_of_get? hx)
        split
        · exact ⟨h', by simp⟩
        · next hv =>
          refine ⟨h'.remember fun k e hm => ?_, ?_⟩
          · rcases mem_lru_put hm with heq | ⟨hm, -⟩
            · cases heq
              exact hp
            · exact h'.memory k e hm
          · intro e he
            cases he
            exact ⟨hp, hv⟩
        · exact ⟨h', by simp⟩
  · exact ⟨h, by simp⟩

/-- A lookup keeps the property, and what it gives has it and still holds. -/
theorem Holds.get (h : c.Holds P) (hf : c.Finds P w) :
    (c.get w key).2.Holds P ∧ ∀ e, (c.get w key).1 = .ok (some e) →
      P key e ∧ e.isValid w w.nowMs = .ok true := by
  unfold Cache.get
  split
  · exact h.getPersisted hf
  · next x memory hx =>
    obtain ⟨hmem, hsub⟩ := mem_lru_get hx
    have hm : ∀ k e, (k, e) ∈ memory.entries → P k e := fun k e hk => h.memory k e (hsub _ hk)
    simp only
    split
    · exact ⟨h.remember hm, by simp⟩
    · next hv =>
      refine ⟨h.remember hm, fun e he => ?_⟩
      cases he
      exact ⟨h.memory key x hmem, hv⟩
    · have hpop : ∀ k e, (k, e) ∈ (memory.pop key).2.entries → P k e := fun k e hk =>
        hm k e (List.mem_of_mem_filter hk)
      exact (h.remember hpop).getPersisted (fun entries hload => hf entries hload)

/-- A merged entry was in the file, or the store has put it. -/
theorem mem_merged (h : p ∈ c.merged stored) : p ∈ stored ∨ p ∈ c.persisted := by
  have hfold : ∀ (keys : List String) (out : Fields CacheEntry), p ∈ keys.foldl c.takeOver out →
      p ∈ out ∨ p ∈ c.persisted := by
    intro keys
    induction keys with
    | nil => exact fun out h => .inl h
    | cons k keys ih =>
      intro out h
      rcases ih _ h with h | h
      · cases hk : c.persisted.get? k with
        | none =>
          rw [takeOver_of_none hk] at h
          exact .inl h
        | some e =>
          rw [takeOver_of_some hk] at h
          rcases Fields.mem_put h with rfl | h
          · exact .inr (Fields.mem_of_get? hk)
          · exact .inl h
      · exact .inr h
  exact (hfold c.dirty _ h).imp_left List.mem_of_mem_filter

/-- What a world becomes when entries with a property are written to the file of a store, if they are. -/
def Saves (P : String → CacheEntry → Prop) (c : Cache) (w w' : World) : Prop :=
  w' = w ∨ ∃ f entries, c.file = some f ∧ w' = (writeEntries w f entries).2 ∧
    ∀ k e, (k, e) ∈ entries → P k e

theorem Holds.save (h : c.Holds P) (hf : c.Finds P w) : (c.save w).2.1.Holds P ∧ c.Saves P w (c.save w).2.2 := by
  unfold Cache.save
  split
  · split
    · exact ⟨h, .inl rfl⟩
    · next stored hload =>
      have hall : ∀ k e, (k, e) ∈ c.merged stored → P k e := by
        intro k e hm
        rcases mem_merged hm with hm | hm
        · exact hf stored hload k e hm
        · exact h.persisted k e hm
      simp only
      split
      · next f hfile => exact ⟨⟨h.memory, hall⟩, .inr ⟨f, c.merged stored, hfile, rfl, hall⟩⟩
      · exact ⟨⟨h.memory, hall⟩, .inl rfl⟩
  · exact ⟨h, .inl rfl⟩

/-- An entry with the property can be put, and only such entries are written. -/
theorem Holds.put (h : c.Holds P) (hf : c.Finds P w) (he : P key e) :
    (c.put w key e).2.1.Holds P ∧ c.Saves P w (c.put w key e).2.2 := by
  have hm : ∀ k x, (k, x) ∈ (c.memory.put key e).entries → P k x := by
    intro k x hk
    rcases mem_lru_put hk with heq | ⟨hk, -⟩
    · cases heq
      exact he
    · exact h.memory k x hk
  have h₁ := h.remember hm
  have hf₁ : Finds P w { c with memory := c.memory.put key e } := hf
  unfold Cache.put
  simp only
  split
  · split
    · exact ⟨h₁, .inl rfl⟩
    · next c' hc =>
      have h₂ : c'.Holds P := h₁.ensureLoaded hf₁ hc
      have hfile : c'.file = c.file := (file_ensureLoaded hc).trans rfl
      have h₃ : (c'.markPut key e).Holds P := by
        refine ⟨h₂.memory, fun k x hk => ?_⟩
        rcases Fields.mem_put hk with heq | hk
        · cases heq
          exact he
        · exact h₂.persisted k x hk
      have hload : (c'.markPut key e).load w = c.load w := load_congr hfile w
      obtain ⟨hsaved, hw⟩ := h₃.save fun entries hl => hf entries (hload ▸ hl)
      refine ⟨hsaved, hw.imp_right ?_⟩
      rintro ⟨f, entries, hf', hrest⟩
      exact ⟨f, entries, hfile ▸ hf', hrest⟩
  · exact ⟨h₁, .inl rfl⟩

theorem holds_clear (P : String → CacheEntry → Prop) (c : Cache) (w : World) : (c.clear w).1.Holds P :=
  ⟨fun _ _ h => (List.not_mem_nil h).elim, fun _ _ h => (List.not_mem_nil h).elim⟩

/-! ## What stays -/

/-- The file and the lifetime of a store are fixed. -/
def Fixed (c c' : Cache) : Prop := c'.file = c.file ∧ c'.lifetime = c.lifetime

theorem fixed_ensureLoaded (h : c.ensureLoaded w = .ok c') : c.Fixed c' := by
  rcases ensureLoaded_eq_ok h with rfl | ⟨entries, -, rfl⟩ <;> exact ⟨rfl, rfl⟩

theorem fixed_getPersisted (c : Cache) (w : World) (key : String) : c.Fixed (c.getPersisted w key).2 := by
  rcases getPersisted_cache c w key with h | ⟨c₁, lru, hload, h⟩
  · rw [h]
    exact ⟨rfl, rfl⟩
  · have hfixed := fixed_ensureLoaded hload
    rw [h]
    exact ⟨hfixed.1, hfixed.2⟩

theorem fixed_get (c : Cache) (w : World) (key : String) : c.Fixed (c.get w key).2 := by
  obtain ⟨lru, h | h⟩ := get_cache c w key
  · rw [h]
    exact ⟨rfl, rfl⟩
  · rw [h]
    exact fixed_getPersisted { c with memory := lru } w key

theorem fixed_save (c : Cache) (w : World) : c.Fixed (c.save w).2.1 := by
  unfold Cache.save
  split
  · split
    · exact ⟨rfl, rfl⟩
    · simp only
      split <;> exact ⟨rfl, rfl⟩
  · exact ⟨rfl, rfl⟩

theorem fixed_put (c : Cache) (w : World) (key : String) (e : CacheEntry) : c.Fixed (c.put w key e).2.1 := by
  unfold Cache.put
  simp only
  split
  · split
    · exact ⟨rfl, rfl⟩
    · next c' hc =>
      have hload := fixed_ensureLoaded hc
      have hsave := fixed_save (c'.markPut key e) w
      exact ⟨hsave.1.trans hload.1, hsave.2.trans hload.2⟩
  · exact ⟨rfl, rfl⟩

end Cache

end ShapeSearch
