import ShapeSearch.Proofs.Store.Sharing
import ShapeSearch.Proofs.Store.Validity

/-!
# Records in a damaged file

A file of entries can hold anything.  `Describes` says which records stand for an entry: a path that is a
text, a score and a time of change that are quantities, an expiry that is none or a quantity; whatever else
cannot be used is replaced by its default.

Reading keeps exactly these records, and it ends well unless the text goes beyond the limits of the reader or
the way to an export is given by a list or a table (`SoundFile`).  This is said of files without an escaped half of
a pair of units that stands alone (`Paired`), for which no text could be read:

    (∃ loaded, entriesOf text limits = .ok loaded) ↔ SoundFile limits x                        (entriesOf_iff_sound)
    entriesOf text limits = .ok loaded → (loaded.get? k = some e ↔ RecordIn limits x k e)      (get?_entriesOf)
    (∃ found, (c.get w key limits).1 = .ok found) ↔
      SoundFile limits x ∧ ∀ e, RecordIn limits x key e → Checkable w e                        (load_any_file)
-/

namespace ShapeSearch

namespace CacheEntry

variable {v : Option Json} {r : Fields Json} {a : ExportAccess}

/-! ## What a record says -/

/-- A text as it is given; any other value counts as nothing. -/
def IsText (v : Option Json) (s : Option String) : Prop :=
  ∀ t, s = some t ↔ v = some (.str t)

/-- The way to an export: what cannot be used of it is the direct way without a name. -/
inductive IsAccess : Option Json → ExportAccess → Prop
  | table {fs : Fields Json} {a : ExportAccess}
      (known : ∀ t : AccessType, fs.get? "type" = some (.str t.text) → a.type = t)
      (unknown : (∀ t : AccessType, fs.get? "type" ≠ some (.str t.text)) → a.type = .direct)
      (name : IsText (fs.get? "name") a.name) : IsAccess (some (.obj fs)) a
  | other {v : Option Json} (h : ∀ fs, v ≠ some (.obj fs)) : IsAccess v {}

/-- The time of expiry: none, or a quantity. -/
inductive IsExpiry : Option Json → Option Quantity → Prop
  | absent : IsExpiry none none
  | null : IsExpiry (some .null) none
  | quantity (q : Quantity) : IsExpiry (some q.toJson) (some q)

/-- A breakdown: a table of quantities, and empty in the place of any other value. -/
inductive IsBreakdown : Option Json → Fields Quantity → Prop
  | table (b : Fields Quantity) : IsBreakdown (some (Quantity.tableJson b)) b
  | other {v : Option Json} (h : ∀ b, v ≠ some (Quantity.tableJson b)) : IsBreakdown v []

/-- A record stands for an entry. -/
structure Describes (r : Fields Json) (e : CacheEntry) : Prop where
  path : r.get? "path" = some (.str e.path)
  score : r.get? "score" = some e.score.toJson
  mtimeMs : r.get? "mtimeMs" = some e.mtimeMs.toJson
  expiresAt : IsExpiry (r.get? "expiresAt") e.expiresAt
  access : IsAccess (r.get? "access") e.access
  kind : IsText (r.get? "kind") e.kind
  exportName : IsText (r.get? "exportName") e.exportName
  breakdown : IsBreakdown (r.get? "breakdown") e.breakdown

/-- The way to an export is given by a list or a table, which cannot be looked up among the known ones. -/
def NestedType (v : Option Json) : Prop :=
  ∃ fs, v = some (.obj fs) ∧
    ((∃ xs, Fields.get? fs "type" = some (.arr xs)) ∨ ∃ gs, Fields.get? fs "type" = some (.obj gs))

/-! ## Reading one record -/

theorem text?_eq_some {v : Json} {s : String} : v.text? = some s ↔ v = .str s := by
  cases v <;> simp [Json.text?]

theorem ofJson?_eq_some {v : Json} {q : Quantity} : Quantity.ofJson? v = some q ↔ v = q.toJson := by
  constructor
  · intro h
    cases v <;> simp only [Quantity.ofJson?, reduceCtorEq, Option.some.injEq] at h <;> subst h <;> rfl
  · rintro rfl
    exact ofJson?_toJson q

theorem isText_iff {s : Option String} : IsText v s ↔ v.bind Json.text? = s := by
  have hread : ∀ t, v.bind Json.text? = some t ↔ v = some (.str t) := by
    intro t
    simp [Option.bind_eq_some_iff, text?_eq_some]
  constructor
  · intro h
    apply Option.ext
    intro t
    rw [hread, ← h t]
  · rintro rfl t
    exact hread t

theorem readExpiry_eq_some {t : Option Quantity} : readExpiry v = some t ↔ IsExpiry v t := by
  constructor
  · intro h
    unfold readExpiry at h
    split at h
    · cases h
      exact .absent
    · cases h
      exact .null
    · obtain ⟨q, hq, rfl⟩ := Option.map_eq_some_iff.mp h
      rw [ofJson?_eq_some.mp hq]
      exact .quantity q
  · intro h
    cases h with
    | absent => rfl
    | null => rfl
    | quantity q => cases q <;> rfl

theorem tableOf?_eq_some {fs : List (String × Json)} {b : Fields Quantity} :
    Quantity.tableOf? fs = some b ↔ fs = b.map fun p => (p.1, p.2.toJson) := by
  constructor
  · intro h
    induction fs generalizing b with
    | nil =>
      cases h
      rfl
    | cons f fs ih =>
      obtain ⟨k, v⟩ := f
      obtain ⟨q, hq, h⟩ := Option.bind_eq_some_iff.mp h
      obtain ⟨rest, hrest, h⟩ := Option.bind_eq_some_iff.mp h
      cases h
      rw [List.map_cons, ← ih hrest, ofJson?_eq_some.mp hq]
  · rintro rfl
    exact tableOf?_map b

theorem readBreakdown_eq {b : Fields Quantity} : readBreakdown v = b ↔ IsBreakdown v b := by
  constructor
  · rintro rfl
    unfold readBreakdown
    split
    · next fs =>
      cases htable : Quantity.tableOf? fs with
      | some b =>
        rw [tableOf?_eq_some.mp htable]
        exact .table b
      | none =>
        refine .other fun b hb => ?_
        cases hb
        rw [tableOf?_map] at htable
        cases htable
    · next hnone => exact .other fun b hb => hnone _ hb
  · intro h
    cases h with
    | table b => rw [Quantity.tableJson, readBreakdown, tableOf?_map, Option.getD_some]
    | other hnone =>
      unfold readBreakdown
      split
      · next fs =>
        cases htable : Quantity.tableOf? fs with
        | none => rfl
        | some b => exact absurd (by rw [tableOf?_eq_some.mp htable]; rfl) (hnone b)
      · rfl

theorem required?_eq_some {path : String} {score mtimeMs : Quantity} {expiresAt : Option Quantity} :
    required? r = some (path, score, mtimeMs, expiresAt) ↔
      r.get? "path" = some (.str path) ∧ r.get? "score" = some score.toJson ∧
        r.get? "mtimeMs" = some mtimeMs.toJson ∧ IsExpiry (r.get? "expiresAt") expiresAt := by
  unfold required?
  simp only [Option.bind_eq_bind, Option.bind_eq_some_iff, text?_eq_some, ofJson?_eq_some,
    readExpiry_eq_some, Option.some.injEq, Prod.mk.injEq]
  constructor
  · rintro ⟨_, ⟨v, hv, rfl⟩, _, ⟨v', hv', rfl⟩, _, ⟨v'', hv'', rfl⟩, _, hexpiry, rfl, rfl, rfl, rfl⟩
    exact ⟨hv, hv'', hv', hexpiry⟩
  · rintro ⟨hpath, hscore, hmtime, hexpiry⟩
    exact ⟨_, ⟨_, hpath, rfl⟩, _, ⟨_, hmtime, rfl⟩, _, ⟨_, hscore, rfl⟩, _, hexpiry, rfl, rfl, rfl, rfl⟩

theorem ofText?_eq_some {s : String} {t : AccessType} : AccessType.ofText? s = some t ↔ s = t.text := by
  constructor
  · intro h
    unfold AccessType.ofText? at h
    split at h
    · next hs => cases h; exact hs
    · split at h
      · next hs => cases h; exact hs
      · split at h
        · next hs => cases h; exact hs
        · cases h
  · rintro rfl
    exact ofText?_text t

/-- The way that a type names, the direct one if it names none. -/
theorem isAccess_table {fs : Fields Json} :
    IsAccess (some (.obj fs)) a ↔
      a.type = (((fs.get? "type").bind Json.text?).bind AccessType.ofText?).getD .direct ∧
        (fs.get? "name").bind Json.text? = a.name := by
  have hnamed : ∀ t : AccessType, ((fs.get? "type").bind Json.text?).bind AccessType.ofText? = some t ↔
      fs.get? "type" = some (.str t.text) := by
    intro t
    simp [Option.bind_eq_some_iff, text?_eq_some, ofText?_eq_some]
  rw [← isText_iff]
  constructor
  · intro h
    cases h with
    | other hnone => exact absurd rfl (hnone fs)
    | table known unknown name =>
      refine ⟨?_, name⟩
      cases htype : ((fs.get? "type").bind Json.text?).bind AccessType.ofText? with
      | some t => exact known t ((hnamed t).mp htype)
      | none =>
        refine unknown fun t ht => ?_
        rw [(hnamed t).mpr ht] at htype
        cases htype
  · rintro ⟨htype, hname⟩
    refine .table (fun t ht => ?_) (fun hunknown => ?_) hname
    · rw [htype, (hnamed t).mpr ht, Option.getD_some]
    · rw [htype, Option.eq_none_iff_forall_ne_some.mpr fun t ht => hunknown t ((hnamed t).mp ht),
        Option.getD_none]

theorem isAccess_other (h : ∀ fs, v ≠ some (.obj fs)) : IsAccess v a ↔ a = {} := by
  constructor
  · intro ha
    cases ha with
    | table => exact absurd rfl (h _)
    | other => rfl
  · rintro rfl
    exact .other h

/-- The way to an export can be read unless it is given by a list or a table. -/
theorem ofJson_access_eq_ok : ExportAccess.ofJson v = .ok a ↔ IsAccess v a ∧ ¬NestedType v := by
  unfold ExportAccess.ofJson
  split
  · next fs =>
    have hnested : NestedType (some (.obj fs)) ↔
        (∃ xs, Fields.get? fs "type" = some (.arr xs)) ∨ ∃ gs, Fields.get? fs "type" = some (.obj gs) := by
      simp [NestedType]
    obtain ⟨type, name⟩ := a
    rw [isAccess_table, hnested]
    cases htype : Fields.get? fs "type" with
    | none => simp [bind, Except.bind, eq_comm]
    | some v => cases v <;> simp [bind, Except.bind, Json.text?, eq_comm]
  · next hother =>
    rw [isAccess_other fun fs => hother fs]
    have hplain : ¬NestedType v := by
      rintro ⟨fs, hfs, -⟩
      exact hother fs hfs
    simp [hplain, eq_comm]

theorem exists_isAccess (v : Option Json) : ∃ a, IsAccess v a := by
  by_cases h : ∃ fs, v = some (.obj fs)
  · obtain ⟨fs, rfl⟩ := h
    exact ⟨⟨_, _⟩, isAccess_table.mpr ⟨rfl, rfl⟩⟩
  · exact ⟨{}, .other fun fs hfs => h ⟨fs, hfs⟩⟩

theorem describes_iff {e : CacheEntry} :
    Describes r e ↔ required? r = some (e.path, e.score, e.mtimeMs, e.expiresAt) ∧
      IsAccess (r.get? "access") e.access ∧ (r.get? "kind").bind Json.text? = e.kind ∧
      (r.get? "exportName").bind Json.text? = e.exportName ∧
      readBreakdown (r.get? "breakdown") = e.breakdown := by
  rw [required?_eq_some, ← isText_iff, ← isText_iff, readBreakdown_eq]
  constructor
  · rintro ⟨hpath, hscore, hmtime, hexpires, haccess, hkind, hname, hbreakdown⟩
    exact ⟨⟨hpath, hscore, hmtime, hexpires⟩, haccess, hkind, hname, hbreakdown⟩
  · rintro ⟨⟨hpath, hscore, hmtime, hexpires⟩, haccess, hkind, hname, hbreakdown⟩
    exact ⟨hpath, hscore, hmtime, hexpires, haccess, hkind, hname, hbreakdown⟩

/-- What is read from a record is the entry that it stands for. -/
theorem ofJson_obj_eq_some {e : CacheEntry} :
    ofJson (.obj r) = .ok (some e) ↔ Describes r e ∧ ¬NestedType (r.get? "access") := by
  rw [describes_iff]
  unfold ofJson
  simp only
  split
  · next hnone =>
    rw [hnone]
    simp
  · next path score mtimeMs expiresAt hsome =>
    obtain ⟨path', access, score', mtimeMs', expiresAt', kind, exportName, breakdown⟩ := e
    rw [hsome, bind_eq_ok]
    simp only [ofJson_access_eq_ok, Except.ok.injEq, Option.some.injEq, CacheEntry.mk.injEq, Prod.mk.injEq]
    constructor
    · rintro ⟨a, ⟨ha, hplain⟩, rfl, rfl, rfl, rfl, rfl, rfl, rfl, rfl⟩
      exact ⟨⟨⟨rfl, rfl, rfl, rfl⟩, ha, rfl, rfl, rfl⟩, hplain⟩
    · rintro ⟨⟨⟨rfl, rfl, rfl, rfl⟩, ha, rfl, rfl, rfl⟩, hplain⟩
      exact ⟨access, ⟨ha, hplain⟩, rfl, rfl, rfl, rfl, rfl, rfl, rfl, rfl⟩

/-- A value that can be read: it is no record for an entry, or the way to its export is no list or table. -/
def Readable (v : Json) : Prop :=
  ∀ (r : Fields Json) e, v = .obj r → Describes r e → ¬NestedType (r.get? "access")

theorem readable_iff {v : Json} : Readable v ↔ ∃ found, ofJson v = .ok found := by
  cases v with
  | obj r =>
    cases hrequired : required? r with
    | none =>
      have hnone : ofJson (.obj r) = .ok none := by
        unfold ofJson
        simp only [hrequired]
      refine iff_of_true (fun r' e hr he => ?_) ⟨none, hnone⟩
      cases hr
      rw [describes_iff, hrequired] at he
      cases he.1
    | some fields =>
      obtain ⟨path, score, mtimeMs, expiresAt⟩ := fields
      obtain ⟨access, haccess⟩ := exists_isAccess (Fields.get? r "access")
      obtain ⟨e, he⟩ : ∃ e, Describes r e := ⟨⟨path, access, score, mtimeMs, expiresAt, _, _, _⟩,
        describes_iff.mpr ⟨hrequired, haccess, rfl, rfl, rfl⟩⟩
      constructor
      · intro h
        exact ⟨_, ofJson_obj_eq_some.mpr ⟨he, h r _ rfl he⟩⟩
      · rintro ⟨found, h⟩ r' e hr -
        cases hr
        unfold ofJson at h
        simp only [hrequired] at h
        obtain ⟨a, ha, -⟩ := bind_eq_ok.mp h
        exact (ofJson_access_eq_ok.mp ha).2
  | _ => exact iff_of_true (fun r e hr => by cases hr) ⟨none, rfl⟩

end CacheEntry

namespace Cache

open CacheEntry (Describes Readable)

variable {limits : Json.Limits} {e : CacheEntry} {x : File} {w : World} {c : Cache}

/-! ## Reading a table of records -/

theorem readEntries_iff_readable {fs : List (String × Json)} :
    (∃ loaded, readEntries fs = .ok loaded) ↔ ∀ p ∈ fs, Readable p.2 := by
  induction fs with
  | nil => exact iff_of_true ⟨[], rfl⟩ (by simp)
  | cons p fs ih =>
    obtain ⟨k, v⟩ := p
    rw [List.forall_mem_cons, ← ih, CacheEntry.readable_iff, readEntries]
    simp only [bind_eq_ok]
    constructor
    · rintro ⟨loaded, found, hfound, rest, hrest, -⟩
      exact ⟨⟨found, hfound⟩, rest, hrest⟩
    · rintro ⟨⟨found, hfound⟩, rest, hrest⟩
      exact ⟨_, found, hfound, rest, hrest, rfl⟩

theorem mem_readEntries {fs : List (String × Json)} {loaded : Fields CacheEntry} (h : readEntries fs = .ok loaded)
    {k : String} : (k, e) ∈ loaded ↔ ∃ r, (k, .obj r) ∈ fs ∧ Describes r e := by
  constructor
  · intro he
    obtain ⟨v, hv, hof⟩ := (readEntries_eq_ok h).2 _ he
    cases v with
    | obj r => exact ⟨r, hv, (CacheEntry.ofJson_obj_eq_some.mp hof).1⟩
    | _ => cases hof
  · rintro ⟨r, hr, he⟩
    have hreadable := readEntries_iff_readable.mp ⟨loaded, h⟩ _ hr
    have hof := CacheEntry.ofJson_obj_eq_some.mpr ⟨he, hreadable r e rfl he⟩
    clear hreadable
    induction fs generalizing loaded with
    | nil => cases hr
    | cons p fs ih =>
      obtain ⟨k', v⟩ := p
      obtain ⟨found, hfound, h⟩ := bind_eq_ok.mp h
      obtain ⟨rest, hrest, h⟩ := bind_eq_ok.mp h
      cases h
      rcases List.mem_cons.mp hr with heq | hr
      · cases heq
        rw [hof] at hfound
        cases hfound
        exact List.mem_cons_self
      · exact List.mem_append_right _ (ih hrest hr)

/-! ## Reading a file -/

/-- Whether every escaped half of a pair of units stands beside the other half; `half` says that a first half comes
before. -/
def pairedFrom : Bool → List Char → Bool
  | half, '\\' :: 'u' :: a :: b :: c :: d :: r =>
    let unit := ((Json.readUnit? [a, b, c, d]).map (·.1)).getD 0
    if 0xd800 ≤ unit && unit < 0xdc00 then !half && pairedFrom true r
    else if 0xdc00 ≤ unit && unit < 0xe000 then half && pairedFrom false r
    else !half && pairedFrom false r
  | half, '\\' :: _ :: r => !half && pairedFrom false r
  | half, _ :: r => !half && pairedFrom false r
  | half, [] => !half

/-- A file in which no escaped half of a pair stands alone, so that all its texts are made of characters. -/
def Paired (x : File) : Prop :=
  pairedFrom false (x.lines.getD "").toList = true

/-- A file spells a table with texts that are made of characters. -/
def Spells (limits : Json.Limits) (x : File) (fs : Fields Json) : Prop :=
  Paired x ∧ Json.parse (x.lines.getD "").toList limits = .ok (some (.obj fs))

/-- A file holds a record under a name that stands for an entry. -/
def RecordIn (limits : Json.Limits) (x : File) (k : String) (e : CacheEntry) : Prop :=
  ∃ fs r, Spells limits x fs ∧ fs.get? k = some (.obj r) ∧ Describes r e

/-- A file that can be read: it keeps the limits of the reader, and so does every record in it. -/
structure SoundFile (limits : Json.Limits) (x : File) : Prop where
  within : ∃ found, Json.parse (x.lines.getD "").toList limits = .ok found
  readable : ∀ fs, Spells limits x fs → ∀ k v, fs.get? k = some v → Readable v

theorem nodup_spells {fs : Fields Json} (h : Spells limits x fs) : fs.keys.Nodup := by
  cases Json.distinct_parse h.2 with
  | obj hn _ => exact hn

theorem Spells.unique {fs gs : Fields Json} (h : Spells limits x fs)
    (hparse : Json.parse (x.lines.getD "").toList limits = .ok (some (.obj gs))) : fs = gs := by
  cases h.2.symm.trans hparse
  rfl

theorem entriesOf_iff_sound (hx : Paired x) :
    (∃ loaded, entriesOf (x.lines.getD "") limits = .ok loaded) ↔ SoundFile limits x := by
  unfold entriesOf
  constructor
  · rintro ⟨loaded, h⟩
    obtain ⟨found, hparse, h⟩ := bind_eq_ok.mp h
    refine ⟨⟨found, hparse⟩, fun fs hfs k v hv => ?_⟩
    cases hparse.symm.trans hfs.2
    exact readEntries_iff_readable.mp ⟨loaded, h⟩ _ (Fields.mem_of_get? hv)
  · rintro ⟨⟨found, hparse⟩, hreadable⟩
    rw [bind_ok hparse]
    split
    · next fs =>
      refine readEntries_iff_readable.mpr fun p hp => ?_
      have hspells : Spells limits x fs := ⟨hx, hparse⟩
      exact hreadable fs hspells p.1 p.2 ((Fields.get?_eq_some_iff (nodup_spells hspells)).mpr hp)
    · exact ⟨[], rfl⟩

theorem get?_entriesOf (hx : Paired x) {loaded : Fields CacheEntry}
    (h : entriesOf (x.lines.getD "") limits = .ok loaded) {k : String} :
    loaded.get? k = some e ↔ RecordIn limits x k e := by
  rw [Fields.get?_eq_some_iff (nodup_entriesOf h).1]
  unfold entriesOf at h
  obtain ⟨found, hparse, h⟩ := bind_eq_ok.mp h
  split at h
  · next fs =>
    have hspells : Spells limits x fs := ⟨hx, hparse⟩
    rw [mem_readEntries h]
    constructor
    · rintro ⟨r, hr, he⟩
      exact ⟨fs, r, hspells, (Fields.get?_eq_some_iff (nodup_spells hspells)).mpr hr, he⟩
    · rintro ⟨fs', r, hfs', hr, he⟩
      cases hparse.symm.trans hfs'.2
      exact ⟨r, Fields.mem_of_get? hr, he⟩
  · next hnone =>
    cases h
    refine iff_of_false List.not_mem_nil ?_
    rintro ⟨fs, r, hfs, -, -⟩
    exact hnone fs (Except.ok.inj (hparse.symm.trans hfs.2))

/-! ## Lookups in a new store -/

/-- A store that has just been made. -/
structure IsNew (c : Cache) : Prop where
  enabled : c.enabled = true
  memory : c.memory.entries = []
  dirty : c.dirty = []
  removed : c.removed = []
  loaded : c.loaded = false

theorem isNew_make {f : String} {lifetime size : Json} (h : make w (some f) lifetime true size = .ok c) :
    c.IsNew ∧ c.file = some f := by
  obtain ⟨capacity, -, h⟩ := bind_eq_ok.mp h
  obtain ⟨parts, -, h⟩ := bind_eq_ok.mp h
  cases h
  exact ⟨⟨rfl, rfl, rfl, rfl, rfl⟩, rfl⟩

/-- What a lookup gives for what is stored: the entry if it holds. -/
def answer (w : World) : Option CacheEntry → Except Misfit (Option CacheEntry)
  | none => .ok none
  | some e => do .ok (if ← e.isValid w w.nowMs then some e else none)

theorem getPersisted_eq_answer {c' : Cache} {key : String} (henabled : c.enabled)
    (hloaded : c.ensureLoaded w limits = .ok c') :
    (c.getPersisted w key limits).1 = answer w (c'.persisted.get? key) := by
  unfold getPersisted
  rw [if_pos henabled, hloaded]
  simp only
  cases c'.persisted.get? key with
  | none => rfl
  | some e =>
    rw [answer]
    cases hvalid : e.isValid w w.nowMs with
    | error m => simp only [hvalid]; rfl
    | ok valid => cases valid <;> simp only [hvalid] <;> rfl

theorem get_new (hnew : c.IsNew) (key : String) :
    (c.get w key limits).1 = (c.load w limits >>= fun loaded => answer w (loaded.get? key)) := by
  have hnone : c.memory.get key = (none, c.memory) := by rw [Lru.get, hnew.memory, Fields.get?_nil]
  have hunread : ¬c.loaded = true := by simp [hnew.loaded]
  rw [get, hnone]
  cases hload : c.load w limits with
  | error m =>
    have hfails : c.ensureLoaded w limits = .error m := by
      rw [ensureLoaded, if_neg hunread, hload]
      rfl
    simp only [getPersisted, hnew.enabled, if_true, hfails]
    rfl
  | ok loaded =>
    have hloaded : c.ensureLoaded w limits = .ok { c with persisted := loaded, loaded := true } := by
      rw [ensureLoaded, if_neg hunread, bind_ok hload, install, if_neg hunread]
    exact getPersisted_eq_answer hnew.enabled hloaded

/-- An entry that can be checked: it has expired, or its path is one that a file can have. -/
def Checkable (w : World) (e : CacheEntry) : Prop :=
  World.hasNull e.path = false ∨ ∃ t, e.expiresAt = some t ∧ t.value.le w.nowMs = true

theorem checkable_iff : Checkable w e ↔ ∃ valid, e.isValid w w.nowMs = .ok valid := by
  constructor
  · intro h
    cases hvalid : e.isValid w w.nowMs with
    | ok valid => exact ⟨valid, rfl⟩
    | error m =>
      obtain ⟨-, hnull, hfuture⟩ := CacheEntry.isValid_eq_error.mp hvalid
      rcases h with h | ⟨t, ht, hle⟩
      · rw [hnull] at h
        cases h
      · rw [hfuture t ht] at hle
        cases hle
  · rintro ⟨valid, hvalid⟩
    by_contra h
    obtain ⟨hnull, hfuture⟩ : World.hasNull e.path = true ∧
        ∀ t, e.expiresAt = some t → t.value.le w.nowMs = false := by simpa [Checkable] using h
    rw [CacheEntry.isValid_eq_error.mpr ⟨rfl, hnull, hfuture⟩] at hvalid
    cases hvalid

theorem answer_isOk_iff {stored : Option CacheEntry} :
    (∃ found, answer w stored = .ok found) ↔ ∀ e, stored = some e → Checkable w e := by
  cases stored with
  | none => exact iff_of_true ⟨none, rfl⟩ (by simp)
  | some e =>
    simp only [answer, bind_eq_ok, Option.some.injEq, forall_eq', checkable_iff]
    constructor
    · rintro ⟨found, valid, hvalid, -⟩
      exact ⟨valid, hvalid⟩
    · rintro ⟨valid, hvalid⟩
      exact ⟨_, valid, hvalid, rfl⟩

theorem answer_eq_ok {stored found : Option CacheEntry} (h : answer w stored = .ok found) (e : CacheEntry) :
    found = some e ↔ stored = some e ∧ e.isValid w w.nowMs = .ok true := by
  cases stored with
  | none =>
    cases h
    simp
  | some e' =>
    obtain ⟨valid, hvalid, h⟩ := bind_eq_ok.mp h
    cases h
    cases valid with
    | true =>
      simp only [if_true, Option.some.injEq]
      constructor
      · rintro rfl
        exact ⟨rfl, hvalid⟩
      · exact fun h => h.1
    | false =>
      simp only [Bool.false_eq_true, if_false, reduceCtorEq, false_iff, Option.some.injEq]
      rintro ⟨rfl, htrue⟩
      rw [hvalid] at htrue
      cases htrue

/-- What a new store reads from a file, whatever the file holds, within any limits.  Reading ends well if and only if
the file is sound, and gives exactly the records that stand for an entry; a lookup ends well if and only if besides
the record under its key can be checked, and gives the entry if it holds. -/
theorem load_any_file {limits : Json.Limits} {w₀ w : World} {f : String} {lifetime size : Json} {c : Cache} {x : File}
    (hmake : make w₀ (some f) lifetime true size = .ok c) (hx : w.probe f = .ok (some (.file x)))
    (hpaired : Paired x) :
    ((∃ loaded, c.load w limits = .ok loaded) ↔ SoundFile limits x) ∧
    (∀ loaded, c.load w limits = .ok loaded → ∀ k e, loaded.get? k = some e ↔ RecordIn limits x k e) ∧
    ∀ key, ((∃ found, (c.get w key limits).1 = .ok found) ↔
        SoundFile limits x ∧ ∀ e, RecordIn limits x key e → Checkable w e) ∧
      ∀ found, (c.get w key limits).1 = .ok found →
        ∀ e, found = some e ↔ RecordIn limits x key e ∧ e.isValid w w.nowMs = .ok true := by
  obtain ⟨hnew, hf⟩ := isNew_make hmake
  rw [load_of_file hf hx]
  refine ⟨entriesOf_iff_sound hpaired, fun loaded h k e => get?_entriesOf hpaired h, fun key => ?_⟩
  rw [get_new hnew, load_of_file hf hx]
  constructor
  · rw [← entriesOf_iff_sound hpaired]
    constructor
    · rintro ⟨found, h⟩
      obtain ⟨loaded, hloaded, h⟩ := bind_eq_ok.mp h
      refine ⟨⟨loaded, hloaded⟩, fun e he => ?_⟩
      exact answer_isOk_iff.mp ⟨found, h⟩ e ((get?_entriesOf hpaired hloaded).mpr he)
    · rintro ⟨⟨loaded, hloaded⟩, hcheck⟩
      rw [bind_ok hloaded]
      exact answer_isOk_iff.mpr fun e he => hcheck e ((get?_entriesOf hpaired hloaded).mp he)
  · intro found h e
    obtain ⟨loaded, hloaded, h⟩ := bind_eq_ok.mp h
    rw [answer_eq_ok h, get?_entriesOf hpaired hloaded]

/-! ## Two damaged files -/

def fileOf (v : Json) : File := ⟨0, some (v.write (.indented 2)), 0⟩

theorem spells_fileOf {v : Json} {fs : Fields Json} (hv : v.unified = .obj fs)
    (h : v.fits .usual Json.Limits.usual.depth) (hpaired : pairedFrom false (v.write (.indented 2)).toList) :
    Spells .usual (fileOf v) fs := by
  have hreadable := Json.Style.readable_indented 2
  have hlines : (fileOf v).lines = some (v.write (.indented 2)) := by
    rw [File.lines, fileOf, Option.map_some, Json.unifyLineEnds_write hreadable]
  rw [Spells, Paired, hlines, Option.getD_some, Json.parse_write_of_fits hreadable h, hv]
  exact ⟨hpaired, rfl⟩

/-- A record that stands for no entry, and one with a kind that is no text. -/
def halfDamaged : Fields Json :=
  [("bad", .obj [("path", .ofInt 1)]),
   ("good", .obj [("path", .str "t"), ("score", .ofInt 5), ("mtimeMs", .ofInt 0), ("kind", .ofInt 7)])]

theorem spells_halfDamaged : Spells .usual (fileOf (.obj halfDamaged)) halfDamaged :=
  spells_fileOf rfl (by decide +kernel) (by decide +kernel)

theorem sound_halfDamaged : SoundFile .usual (fileOf (.obj halfDamaged)) where
  within := ⟨_, spells_halfDamaged.2⟩
  readable fs hfs k v hv := by
    cases hfs.unique spells_halfDamaged.2
    simp only [halfDamaged, Fields.get?] at hv
    rw [CacheEntry.readable_iff]
    split at hv
    · cases hv
      exact ⟨none, rfl⟩
    · split at hv
      · cases hv
        exact ⟨some _, rfl⟩
      · cases hv

/-- The entry that is left of a half damaged file. -/
def goodEntry : CacheEntry :=
  { path := "t", access := {}, score := .number (.int 5), mtimeMs := .number (.int 0) }

theorem record_halfDamaged : RecordIn .usual (fileOf (.obj halfDamaged)) "good" goodEntry :=
  ⟨halfDamaged, _, spells_halfDamaged, rfl, (CacheEntry.ofJson_obj_eq_some.mp rfl).1⟩

theorem load_half_damaged :
    make {} (some "/c.json") .null true (.ofInt 10) = .ok Sharing.deskCache ∧
      ∃ loaded, Sharing.deskCache.load (Sharing.deskWorld (some (fileOf (.obj halfDamaged)))) = .ok loaded ∧
        loaded.get? "good" = some goodEntry ∧ loaded.get? "bad" = none ∧
        ∃ found, (Sharing.deskCache.get (Sharing.deskWorld (some (fileOf (.obj halfDamaged)))) "good").1 =
          .ok found := by
  have hmake : make {} (some "/c.json") .null true (.ofInt 10) = .ok Sharing.deskCache := rfl
  obtain ⟨hsound, hrecords, hget⟩ :=
    load_any_file hmake (Sharing.probe_deskWorld (some (fileOf (.obj halfDamaged)))) spells_halfDamaged.1
  obtain ⟨loaded, hloaded⟩ := hsound.mpr sound_halfDamaged
  refine ⟨hmake, loaded, hloaded, (hrecords loaded hloaded _ _).mpr record_halfDamaged, ?_, ?_⟩
  · apply Option.eq_none_iff_forall_ne_some.mpr
    intro e he
    obtain ⟨fs, r, hfs, hr, he⟩ := (hrecords loaded hloaded _ _).mp he
    cases hfs.unique spells_halfDamaged.2
    cases hr
    have hpath : some (Json.ofInt 1) = some (.str e.path) := he.path
    cases hpath
  · refine (hget "good").1.mpr ⟨sound_halfDamaged, fun e he => .inl ?_⟩
    -- the record stands for one entry only
    have hentry : some e = some goodEntry :=
      ((hrecords loaded hloaded _ _).mpr he).symm.trans ((hrecords loaded hloaded _ _).mpr record_halfDamaged)
    cases hentry
    decide +kernel

/-- A record whose way to the export is a list. -/
def nestedType : Fields Json :=
  [("k", .obj [("path", .str "t.py"), ("score", .ofInt 1), ("mtimeMs", .ofInt 1600000000000),
    ("access", .obj [("type", .arr [])])])]

theorem spells_nestedType : Spells .usual (fileOf (.obj nestedType)) nestedType :=
  spells_fileOf rfl (by decide +kernel) (by decide +kernel)

theorem load_nestedType :
    Sharing.deskCache.load (Sharing.deskWorld (some (fileOf (.obj nestedType)))) = .error .wrongKind := by
  rw [load_of_file rfl (Sharing.probe_deskWorld _), entriesOf, bind_ok spells_nestedType.2]
  rfl

/-- The entry that the record stands for, with the direct way in the place of the list. -/
def nestedEntry : CacheEntry :=
  { path := "t.py", access := {}, score := .number (.int 1), mtimeMs := .number (.int 1600000000000) }

/-- One record stops the reading of a file, although it stands for an entry. -/
theorem load_nested_type :
    RecordIn .usual (fileOf (.obj nestedType)) "k" nestedEntry ∧
    Sharing.deskCache.load (Sharing.deskWorld (some (fileOf (.obj nestedType)))) = .error .wrongKind := by
  constructor
  · refine ⟨nestedType, _, spells_nestedType, rfl, CacheEntry.describes_iff.mpr ⟨rfl, ?_, rfl, rfl, rfl⟩⟩
    exact CacheEntry.isAccess_table.mpr ⟨rfl, rfl⟩
  · exact load_nestedType

end Cache

end ShapeSearch
