import ShapeSearch.Proofs.Discovery.History

/-!
# Answers that repeat a search

A search that finds a result stores an entry for it.  As long as the entry holds, the next call for the same
signature is answered from the store, by the same engine from its memory, and by a new engine for the same
root from the file that they share.  The answer has the path, access, score, breakdown, kind and signature of
the result, and shows the path as it is shown now (`Repeats`):

    e.discover w signature gives R → … → the next call gives r with Repeats … R r      (discover_repeats)

The name of the export is repeated if it is not empty.  In place of an empty one the answer has the name by
which the export is accessed (`Named`).
-/

namespace ShapeSearch

namespace Engine

variable {root : String} {entry : CacheEntry}

variable {e : Engine} {w w' : World} {sig : Signature} {signature : Json} {R r : SearchResult}
  {winner : Candidate}

/-- An answer from the store repeats the result of a search. -/
structure Repeats (root : String) (w : World) (R r : SearchResult) : Prop where
  fromCache : r.fromCache = true
  path : r.path = R.path
  access : r.access = R.access
  score : r.score = R.score
  breakdown : ∀ k, r.breakdown.get? k = R.breakdown.get? k
  kind : r.kind = R.kind
  signature : r.signature = R.signature
  relativePath : w.shownPath root R.path = .ok r.relativePath
  exportName : r.exportName = (Matching.nonEmpty R.exportName).orElse fun _ => R.access.name

/-- The name of an export is not empty, or it is the name by which the export is accessed. -/
def Named (R : SearchResult) : Prop :=
  (∃ name, R.exportName = some name ∧ name ≠ "") ∨ R.exportName = R.access.name

/-- The name of the export is repeated in just these cases. -/
theorem Repeats.exportName_eq_iff (h : Repeats root w R r) : r.exportName = R.exportName ↔ Named R := by
  rw [h.exportName, Named]
  cases hname : R.exportName with
  | none => simp [Matching.nonEmpty, eq_comm]
  | some name =>
    by_cases hempty : name = ""
    · simp [Matching.nonEmpty, hempty, eq_comm]
    · simp [Matching.nonEmpty, hempty]

/-- An entry for a result, with its breakdown in any order, stands for an answer that repeats the result. -/
theorem repeats_resultAt (hfinds : e.Finds w sig R winner) {e₁ : Engine}
    (hentry : e₁.entryOf w R winner = .ok entry)
    {shown : String} (breakdown : Fields Quantity) (hbreakdown : ∀ k, breakdown.get? k = R.breakdown.get? k)
    (hshown : w'.shownPath root R.path = .ok shown) :
    Repeats root w' R (resultAt { entry with breakdown } shown sig) := by
  obtain ⟨expiresAt, -, hentry⟩ := bind_eq_ok.mp hentry
  cases hentry
  obtain ⟨-, -, hscore, -⟩ := hfinds.result
  obtain ⟨-, hsignature, -⟩ := hfinds.shows
  exact ⟨rfl, rfl, rfl, hscore.symm, hbreakdown, rfl, hsignature.symm, hshown, rfl⟩

def Answers (e : Engine) (w : World) (signature : Json) (R : SearchResult) : Prop :=
  ∃ r, (e.discover w signature true).result = .ok r ∧ Repeats e.root w R r ∧
    (r.exportName = R.exportName ↔ Named R)

theorem discover_of_get (hsig : Signature.normalize signature = .ok sig)
    (hget : (e.cache.get w (sig.key (some e.root))).1 = .ok (some entry))
    (hr : storedResult e.root w entry sig = .ok r) : (e.discover w signature true).result = .ok r := by
  rw [discover, hsig]
  rcases hboth : e.cache.get w (sig.key (some e.root)) with ⟨o, cache⟩
  rw [hboth] at hget
  cases hget
  simp only [discoverFor, hboth, answerStored, hr, if_true]

theorem consulted_same (e : Engine) (w : World) (key : String) (useCache : Bool) :
    (e.consulted w key useCache).lifetime = e.cache.lifetime ∧
      (e.consulted w key useCache).enabled = e.cache.enabled ∧
      (e.consulted w key useCache).memory.capacity = e.cache.memory.capacity := by
  unfold consulted
  split
  · exact ⟨(Cache.fixed_get e.cache w key).2, Cache.enabled_get e.cache w key, Cache.capacity_get e.cache w key⟩
  · exact ⟨rfl, rfl, rfl⟩

/-- A new engine for the same root answers with what was written to its file. -/
theorem discover_of_file (hsig : Signature.normalize signature = .ok sig) (hfinds : e.Finds w sig R winner)
    {e₁ new : Engine} (hentry : e₁.entryOf w R winner = .ok entry) {w₀ : World} {settings : Settings}
    (hnew : Engine.make w₀ root settings = .ok new) (henabled : new.cache.enabled)
    {entries : Fields CacheEntry} (hkeeps : new.cache.Keeps w' entries) (hnodup : entries.keys.Nodup)
    (hget : entries.get? (sig.key (some new.root)) = some entry) (hvalid : entry.isValid w' w'.nowMs = .ok true)
    (hexact : ∀ l : Fields Quantity, l.Perm R.breakdown → Quantity.sumOf l = .ok R.score.value) {shown : String}
    (hshown : w'.shownPath new.root R.path = .ok shown) :
    (new.discover w' signature true).result = .ok (resultAt entry.reread shown sig) ∧
      Repeats new.root w' R (resultAt entry.reread shown sig) := by
  obtain ⟨hmemory, -, hloaded⟩ := History.cache_make hnew
  obtain ⟨hpath, -, hscore, -, hbreakdown, -⟩ := entryOf_eq_ok hentry
  have hfound := Cache.get_of_file hmemory hloaded henabled hkeeps hnodup hget hvalid
  -- the points are read back in another order
  have hkeys : entry.breakdown.keys.Nodup := by
    rw [hbreakdown]
    exact hfinds.shows.2.2
  have hperm : entry.reread.breakdown.Perm R.breakdown := hbreakdown ▸ CacheEntry.perm_reread hkeys
  have hpoints : ∀ k, entry.reread.breakdown.get? k = R.breakdown.get? k := fun k =>
    (Fields.get?_perm hperm.symm hfinds.shows.2.2 k).symm
  have hsum : Quantity.sumOf entry.reread.breakdown = .ok entry.reread.score.value := by
    show _ = Except.ok entry.score.value
    rw [hexact _ hperm, hscore]
    rfl
  have hplace : w'.shownPath new.root entry.reread.path = .ok shown := by
    show w'.shownPath new.root entry.path = .ok shown
    rw [hpath]
    exact hshown
  exact ⟨discover_of_get hsig hfound (storedResult_of_sum hsum hplace sig),
    repeats_resultAt hfinds hentry entry.reread.breakdown hpoints hshown⟩

/-- A search is repeated by the answers from the store.  While the file that was found has the same time of
change and its entry has not expired, the engine answers its next call from memory, and so does a new engine
for the same root from the file, if the store was written to it; there the points are read back in another
order, so they have to add up to the score in any order. -/
theorem discover_repeats (useCache : Bool) (hR : (e.discover w signature useCache).result = .ok R)
    (hfresh : R.fromCache = false) (hmtime : w'.mtimeMs R.path = w.mtimeMs R.path)
    (hclock : ∀ t, CacheEntry.expiry e.cache.lifetime w.nowMs = .ok (some t) → t.value.le w'.nowMs = false) :
    w.shownPath e.root R.path = .ok R.relativePath ∧
      (0 < e.cache.memory.capacity → (e.discover w signature useCache).engine.Answers w' signature R) ∧
      ∀ (w₀ : World) (root : String) (settings : Settings) (new : Engine),
        Engine.make w₀ root settings = .ok new → new.root = e.root → e.cache.enabled = true →
        new.cache.enabled = true →
        new.cache.Keeps w' (e.discover w signature useCache).engine.cache.persisted →
        (∀ l : Fields Quantity, l.Perm R.breakdown → Quantity.sumOf l = .ok R.score.value) →
        new.Answers w' signature R := by
  obtain ⟨sig, winner, hsig, hfinds, hroot, hstored⟩ := discover_fresh hR hfresh
  obtain ⟨hlifetime, henabled, hcapacity⟩ := consulted_same e w (sig.key (some e.root)) useCache
  obtain ⟨shown, hshown⟩ := shownPath_again hfinds hmtime e.root
  have hvalid : ∀ entry, entryOf { e with cache := e.consulted w (sig.key (some e.root)) useCache } w R winner =
      .ok entry → entry.isValid w' w'.nowMs = .ok true := fun entry hentry =>
    isValid_entryOf hfinds hentry hmtime fun t ht => hclock t (hlifetime ▸ ht)
  refine ⟨hfinds.shows.1, fun hroom => ?_, ?_⟩
  · have hfinds' := (finds_congr e (e.consulted w (sig.key (some e.root)) useCache) e.phase e.stats).mpr hfinds
    obtain ⟨entry, hentry, hagain⟩ :=
      hstored.discover_again hsig hfinds' hroot (by rw [hcapacity]; exact hroom) hshown hvalid
    obtain ⟨-, -, -, -, hbreakdown, -⟩ := entryOf_eq_ok hentry
    have hrepeats := repeats_resultAt hfinds hentry entry.breakdown (fun k => by rw [hbreakdown]) hshown
    rw [← hroot] at hrepeats
    exact ⟨_, hagain, hrepeats, hrepeats.exportName_eq_iff⟩
  · intro w₀ root settings new hnew hsame hon hnewOn hkeeps hexact
    obtain ⟨entry, hentry, hcache, -⟩ := hstored.put
    obtain ⟨hput, hnodup⟩ := Cache.persisted_put (henabled.trans hon) (hstored.done hR entry hentry)
    rw [hcache] at hkeeps
    rw [← hsame] at hshown
    obtain ⟨hanswer, hrepeats⟩ := discover_of_file hsig hfinds hentry hnew hnewOn hkeeps hnodup
      (by rw [hsame]; exact hput) (hvalid entry hentry) hexact hshown
    exact ⟨_, hanswer, hrepeats, hrepeats.exportName_eq_iff⟩

/-- A call that finds a result gives it, if the entry for it can be stored and its score can be announced. -/
theorem discover_of_put (hsig : Signature.normalize signature = .ok sig) (hfinds : e.Finds w sig R winner)
    (hentry : e.entryOf w R winner = .ok entry) (hput : (e.cache.put w (sig.key (some e.root)) entry).1 = .ok ())
    {text : String} (hscore : Decimal.general R.score.value = .ok text) :
    (e.discover w signature false).result = .ok R := by
  obtain ⟨phase, stats, hsearch⟩ := search_eq_remember hfinds (sig.key (some e.root))
  have hentry' : entryOf { e with phase, stats } w R winner = .ok entry := hentry
  have hout : e.discover w signature false = e.search w (sig.key (some e.root)) sig := by
    rw [discover, hsig]
    rfl
  rw [hout, hsearch, remember, hentry']
  rcases hboth : e.cache.put w (sig.key (some e.root)) entry with ⟨o, cache, w₁⟩
  rw [hboth] at hput
  cases hput
  simp only [hboth, hscore]

end Engine

namespace History

open Engine

/-! ## A file that is found twice -/

theorem writeEntries_solo (text : String) {entries : Fields CacheEntry} {out : String}
    (h : Cache.fileText entries = .ok out) : ∃ x, x.text = some out ∧
      Cache.writeEntries (solo text 5.0 none) "/c.json" entries = (.ok (), solo text 5.0 (some x)) := by
  refine ⟨⟨World.textSize out, some out, (solo text 5.0 none).nowNs⟩, rfl, ?_⟩
  rw [Cache.writeEntries_of_atTop (atTop_solo text 5.0 none) h]
  simp [solo, Fields.put]

theorem put_solo (text key : String) {entry : CacheEntry} (hw : entry.toJson.isWritable) :
    ∃ x out, Cache.fileText [(key, entry)] = .ok out ∧ x.text = some out ∧
      loneEngine.cache.put (solo text 5.0 none) key entry = (.ok (),
        { loneEngine.cache with
          memory := loneEngine.cache.memory.put key entry, persisted := [(key, entry)], loaded := true },
        solo text 5.0 (some x)) := by
  have hwritable : (Json.obj (Cache.tableOf [(key, entry)])).isWritable = true := by
    rw [Json.isWritable, Json.fieldsWritable_iff]
    intro f hf
    rw [List.mem_singleton.mp hf]
    exact hw
  obtain ⟨out, hout⟩ := Cache.fileText_of_writable _ hwritable
  obtain ⟨x, hx, hwrite⟩ := writeEntries_solo text hout
  have hload : ∀ c : Cache, c.file = some "/c.json" → c.load (solo text 5.0 none) = .ok [] :=
    fun c hc => Cache.load_of_absent hc (atTop_solo text 5.0 none).probe_eq
  refine ⟨x, out, hout, hx, ?_⟩
  simp [Cache.put, Cache.ensureLoaded, Cache.install, Cache.save, Cache.markPut, Cache.merged, Cache.addKey,
    Cache.dropKey, loneEngine, hload, hwrite, bind, Except.bind, Fields.put, Fields.get?]

theorem eq_of_isZero {n : Number} (h : isZero n) : n = .int 0 ∨ n = .float 0.0 := by
  cases n with
  | int n => exact .inl (by rw [beq_iff_eq.mp h])
  | float x =>
    have hzero : (0.0 : Float).toBits = 0 := by decide +kernel
    exact .inr (by rw [Number.eq_of_toBits ((beq_iff_eq.mp h).trans hzero.symm)])

/-- Zeros add up to zero in any order; the sum is a float if one of them is. -/
theorem sumFrom_zero (l : List Number) : ∀ total, (∀ n ∈ l, isZero n = true) →
    (total = .float 0.0 ∨ total = .int 0 ∧ Number.float 0.0 ∈ l) →
      Number.sumFrom total l = .ok (.float 0.0) := by
  have hint : (Number.int 0).toFloat = .ok 0.0 := by
    have hlimit : (0 : Int).natAbs < Number.floatLimit := by decide +kernel
    have hzero : Rounding.ofInt 0 = 0.0 := Number.eq_of_toBits (by decide +kernel)
    rw [Number.toFloat, if_pos hlimit, hzero]
  have hsum : Float.add 0.0 0.0 = 0.0 := Number.eq_of_toBits (by decide +kernel)
  have hff : (Number.float 0.0).add (.float 0.0) = .ok (.float 0.0) := congrArg (Except.ok ∘ Number.float) hsum
  have hfi : (Number.float 0.0).add (.int 0) = .ok (.float 0.0) := by
    show Number.onFloats Float.add _ _ = _
    rw [Number.onFloats, hint]
    exact hff
  have hif : (Number.int 0).add (.float 0.0) = .ok (.float 0.0) := by
    show Number.onFloats Float.add _ _ = _
    rw [Number.onFloats, hint]
    exact hff
  induction l with
  | nil =>
    rintro total - (rfl | ⟨-, hmem⟩)
    · rfl
    · cases hmem
  | cons n l ih =>
    intro total hall htotal
    obtain ⟨hn, hl⟩ := List.forall_mem_cons.mp hall
    rw [Number.sumFrom]
    rcases htotal with rfl | ⟨rfl, hmem⟩
    · rcases eq_of_isZero hn with rfl | rfl
      · rw [bind_ok hfi]
        exact ih _ hl (.inl rfl)
      · rw [bind_ok hff]
        exact ih _ hl (.inl rfl)
    · rcases eq_of_isZero hn with rfl | rfl
      · exact ih _ hl (.inr ⟨rfl, (List.mem_cons.mp hmem).resolve_left (by simp)⟩)
      · rw [bind_ok hif]
        exact ih _ hl (.inl rfl)

variable {e : Engine} {text : String} {sig : Signature} {R : SearchResult} {winner : Candidate}

/-- What a call does that finds such a result: it gives it, and its entry is written to the file. -/
theorem discover_solo (hcache : e.cache = loneEngine.cache) {signature : Json}
    (hsig : Signature.normalize signature = .ok sig) (hfinds : e.Finds (solo text 5.0 none) sig R winner)
    (hplain : isPlain e text R winner) :
    R.path = "/a.py" ∧ (∀ l : Fields Quantity, l.Perm R.breakdown → Quantity.sumOf l = .ok R.score.value) ∧
      (e.discover (solo text 5.0 none) signature false).result = .ok R ∧
      ∃ x entry, e.entryOf (solo text 5.0 none) R winner = .ok entry ∧
        (e.discover (solo text 5.0 none) signature false).world = solo text 5.0 (some x) ∧
        (e.discover (solo text 5.0 none) signature false).engine.cache.persisted =
          [(sig.key (some e.root), entry)] ∧
        ∀ clock, loneEngine.cache.Keeps (solo text clock (some x)) [(sig.key (some e.root), entry)] := by
  simp only [isPlain, Bool.and_eq_true] at hplain
  obtain ⟨⟨⟨⟨hwritable, hgeneral⟩, hpath⟩, hzeros⟩, hfloat⟩ := hplain
  obtain ⟨entry, hentry, hwritable⟩ : ∃ entry, e.entryOf (solo text 5.0 none) R winner = .ok entry ∧
      entry.toJson.isWritable = true := by
    cases hentry : e.entryOf (solo text 5.0 none) R winner with
    | error m =>
      rw [hentry] at hwritable
      cases hwritable
    | ok entry =>
      rw [hentry] at hwritable
      exact ⟨entry, rfl, hwritable⟩
  obtain ⟨score, hscore⟩ : ∃ score, Decimal.general R.score.value = .ok score := by
    cases hscore : Decimal.general R.score.value with
    | error m =>
      rw [hscore] at hgeneral
      cases hgeneral
    | ok score => exact ⟨score, rfl⟩
  obtain ⟨x, out, hout, hx, hput⟩ := put_solo text (sig.key (some e.root)) hwritable
  have hdone : (e.cache.put (solo text 5.0 none) (sig.key (some e.root)) entry).1 = .ok () := by
    rw [hcache, hput]
  obtain ⟨-, hstored⟩ := discover_stores hsig hfinds hentry
  obtain ⟨entry', hentry', hstoredCache, hworld⟩ := hstored.put
  cases hentry.symm.trans hentry'
  rw [hcache, hput] at hstoredCache hworld
  -- every sum of the points is zero, and so is the score
  have hsum : ∀ l : Fields Quantity, l.Perm R.breakdown → Quantity.sumOf l = .ok (.float 0.0) := by
    intro l hl
    have hall : ∀ n ∈ l.map (·.2.value), isZero n = true := by
      intro n hn
      obtain ⟨p, hp, rfl⟩ := List.mem_map.mp hn
      exact List.all_eq_true.mp hzeros p (hl.mem_iff.mp hp)
    have hmem : Number.float 0.0 ∈ l.map (·.2.value) := by
      obtain ⟨p, hp, hp'⟩ := List.any_eq_true.mp hfloat
      refine List.mem_map.mpr ⟨p, hl.mem_iff.mpr hp, ?_⟩
      rcases eq_of_isZero (List.all_eq_true.mp hzeros p hp) with hzero | hzero
      · simp only [hzero] at hp'
        cases hp'
      · exact hzero
    exact sumFrom_zero _ _ hall (.inr ⟨rfl, hmem⟩)
  refine ⟨hfinds.result.1.trans (beq_iff_eq.mp hpath), fun l hl => ?_,
    discover_of_put hsig hfinds hentry hdone hscore, x, entry, hentry, hworld, by rw [hstoredCache], fun clock => ?_⟩
  · have htotal := hfinds.result.2.2.2
    rw [hsum _ (.refl _)] at htotal
    rw [hsum l hl, htotal]
  · exact ⟨"/c.json", x, out, rfl, (atTop_solo text clock (some x)).probe_eq, hx, hout⟩

/-- A minute later the entry for such a result still holds. -/
theorem holds_solo (hcache : e.cache = loneEngine.cache) (hfinds : e.Finds (solo text 5.0 none) sig R winner)
    (hpath : R.path = "/a.py") (x : Option File) :
    (solo text 60.0 x).mtimeMs R.path = (solo text 5.0 none).mtimeMs R.path ∧
      (∃ shown, (solo text 60.0 x).shownPath e.root R.path = .ok shown) ∧
      ∀ entry, e.entryOf (solo text 5.0 none) R winner = .ok entry →
        entry.isValid (solo text 60.0 x) (solo text 60.0 x).nowMs = .ok true := by
  have hmtime : (solo text 60.0 x).mtimeMs R.path = (solo text 5.0 none).mtimeMs R.path := by
    rw [hpath, mtimeMs_solo, mtimeMs_solo]
  refine ⟨hmtime, shownPath_again hfinds hmtime e.root, fun entry hentry => ?_⟩
  exact isValid_entryOf hfinds hentry hmtime fun t ht => expiry_solo text x t (hcache ▸ ht)

theorem discover_solo_again (hcache : e.cache = loneEngine.cache) {signature : Json}
    (hsig : Signature.normalize signature = .ok sig) (hfinds : e.Finds (solo text 5.0 none) sig R winner)
    (hplain : isPlain e text R winner) (x : Option File) :
    ∃ r, ((e.discover (solo text 5.0 none) signature false).engine.discover (solo text 60.0 x) signature
      true).result = .ok r ∧ Repeats e.root (solo text 60.0 x) R r := by
  obtain ⟨hpath, -, -, -, entry, hentry, -⟩ := discover_solo hcache hsig hfinds hplain
  obtain ⟨-, ⟨shown, hshown⟩, hvalid⟩ := holds_solo hcache hfinds hpath x
  obtain ⟨hroot, hstored⟩ := discover_stores hsig hfinds hentry
  have hroom : 0 < e.cache.memory.capacity := by
    rw [hcache]
    decide
  obtain ⟨entry', hentry', hagain⟩ := hstored.discover_again hsig hfinds hroot hroom hshown hvalid
  obtain ⟨-, -, -, -, hbreakdown, -⟩ := entryOf_eq_ok hentry'
  exact ⟨_, hagain, repeats_resultAt hfinds hentry' entry'.breakdown (fun k => by rw [hbreakdown]) hshown⟩

/-- The empty file is found; a minute later the engine and a new engine give it from the store, with its
name. -/
theorem discover_repeats_lone : ∃ R x,
    (loneEngine.discover (lone 5.0 none) moduleQuestion false).result = .ok R ∧ R.fromCache = false ∧
      R.exportName = some "a" ∧
      (loneEngine.discover (lone 5.0 none) moduleQuestion false).engine.Answers (lone 60.0 x) moduleQuestion R ∧
      loneEngine.Answers (lone 60.0 x) moduleQuestion R := by
  have hsig : Signature.normalize moduleQuestion = .ok moduleSignature := rfl
  obtain ⟨R, winner, hfinds, hplain, hname⟩ := finds_lone
  obtain ⟨hpath, hexact, hR, x, entry, hentry, hworld, hpersisted, hkeeps⟩ := discover_solo rfl hsig hfinds hplain
  obtain ⟨hmtime, -⟩ := holds_solo rfl hfinds hpath (some x)
  obtain ⟨-, hsame, hnew⟩ := discover_repeats false hR hfinds.result.2.1 hmtime (expiry_solo "" (some x))
  refine ⟨R, some x, hR, hfinds.result.2.1, hname, hsame (by decide), ?_⟩
  refine hnew (lone 5.0 none) "/" loneSettings loneEngine make_lone rfl rfl rfl ?_ hexact
  rw [hpersisted]
  exact hkeeps 60.0

/-- A file that describes its own exports: a class that is accessed as `X` and has no name. -/
def namelessText : String :=
  "\x7b\"exports\":[\x7b\"access\":\x7b\"type\":\"named\",\"name\":\"X\"\x7d," ++
    "\"info\":\x7b\"kind\":\"class\"\x7d\x7d]\x7d"

/-- An engine that takes the exports of a file from its text. -/
def catEngine : Engine :=
  { loneEngine with
    settings := { loneSettings with
      languages := .obj [("python",
        .obj [("extensions", .ofTexts [".py"]), ("parser", .obj [("command", .str "cat")])])] } }

def classSignature : Signature := { type := some .classDef }

def classQuestion : Json := .obj [("type", .str "class")]

/-- The class is found without a name.  A minute later, with the file unchanged, the store gives it the name
by which it is accessed. -/
theorem discover_nameless : ∃ R r x,
    (catEngine.discover (solo namelessText 5.0 none) classQuestion false).result = .ok R ∧
      (catEngine.discover (solo namelessText 5.0 none) classQuestion false).world = solo namelessText 5.0 x ∧
      ((catEngine.discover (solo namelessText 5.0 none) classQuestion false).engine.discover
        (solo namelessText 60.0 x) classQuestion true).result = .ok r ∧
      R.fromCache = false ∧ r.fromCache = true ∧ r.path = R.path ∧
      R.exportName = none ∧ r.exportName = some "X" := by
  have hsig : Signature.normalize classQuestion = .ok classSignature := rfl
  have hcache : catEngine.cache = loneEngine.cache := rfl
  have htest : findsSingle catEngine (solo namelessText 5.0 none) classSignature (fun r winner =>
      isPlain catEngine namelessText r winner && (r.exportName.isNone && r.access.name == some "X")) = true := by
    decide +kernel
  obtain ⟨R, winner, hfinds, hboth⟩ := finds_of_single htest
  obtain ⟨hplain, hnames⟩ := Bool.and_eq_true_iff.mp hboth
  obtain ⟨hname, haccess⟩ := Bool.and_eq_true_iff.mp hnames
  obtain ⟨-, -, hR, x, -, -, hworld, -⟩ := discover_solo hcache hsig hfinds hplain
  obtain ⟨r, hr, hrepeats⟩ := discover_solo_again hcache hsig hfinds hplain (some x)
  refine ⟨R, r, some x, hR, hworld, hr, hfinds.result.2.1, hrepeats.fromCache, hrepeats.path,
    Option.isNone_iff_eq_none.mp hname, ?_⟩
  rw [hrepeats.exportName, Option.isNone_iff_eq_none.mp hname]
  exact beq_iff_eq.mp haccess

end History

end ShapeSearch
