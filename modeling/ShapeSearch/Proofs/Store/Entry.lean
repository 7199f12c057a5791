import ShapeSearch.Proofs.Json.Sorted
import ShapeSearch.Misfit
import ShapeSearch.Store.Cache

/-!
# Entries in a file

A file of entries holds a table with its names in order, and so does every record in it.  Reading the file
gives the entries back; all that has changed is the order of the entries and of the parts of their
breakdowns (`CacheEntry.reread`):

    fileText entries = .ok text → entriesOf text = .ok loaded → entries.keys.Nodup →
      loaded.get? k = (entries.get? k).map reread                          (get?_entriesOf_fileText)
    e.breakdown.keys.Nodup → e.reread.Alike e                              (alike_reread)
-/

namespace ShapeSearch

theorem Json.refiled_quantity (q : Quantity) : q.toJson.refiled = q.toJson := by
  cases q <;> simp [Json.refiled, Quantity.toJson, Json.sorted, Json.unified]

namespace CacheEntry

theorem ofText?_text (t : AccessType) : AccessType.ofText? t.text = some t := by
  cases t <;> decide

/-- The fields that an access is written with. -/
def accessFields (a : ExportAccess) : Fields Json :=
  ("type", .str a.type.text) :: match a.name with
    | some n => [("name", .str n)]
    | none => []

theorem toJson_access (a : ExportAccess) : a.toJson = .obj (accessFields a) := rfl

theorem ofJson_access_refiled (a : ExportAccess) :
    ExportAccess.ofJson (some a.toJson.refiled) = .ok a := by
  obtain ⟨t, name⟩ := a
  have hnodup : (accessFields ⟨t, name⟩).keys.Nodup := by
    cases name <;> simp [accessFields, Fields.keys]
  obtain ⟨gs, hgs⟩ : ∃ gs, (Json.obj (accessFields ⟨t, name⟩)).refiled = .obj gs :=
    ⟨_, Json.refiled_obj _⟩
  have hget := Json.get?_refiled hnodup hgs
  rw [toJson_access, hgs, ExportAccess.ofJson, hget, hget]
  cases name with
  | none => simp [accessFields, Fields.get?, Json.refiled_str, ofText?_text, bind, Except.bind]
  | some n => simp [accessFields, Fields.get?, Json.refiled_str, ofText?_text, Json.text?, bind, Except.bind]

theorem ofJson?_toJson (q : Quantity) : Quantity.ofJson? q.toJson = some q := by
  cases q <;> rfl

theorem tableOf?_map (b : Fields Quantity) :
    Quantity.tableOf? (b.map fun p => (p.1, p.2.toJson)) = some b := by
  induction b with
  | nil => rfl
  | cons p b ih =>
    rw [List.map_cons, Quantity.tableOf?, ofJson?_toJson, ih]
    rfl

theorem readBreakdown_refiled {b : Fields Quantity} (h : b.keys.Nodup) :
    readBreakdown (some (Quantity.tableJson b).refiled) = b.mergeSort Json.byName := by
  rw [Quantity.tableJson, Json.refiled_obj_of_nodup (by rw [Fields.keys_map]; exact h), List.map_map]
  have hmap : (b.map ((fun f => (f.1, f.2.refiled)) ∘ fun p => (p.1, p.2.toJson))) =
      b.map fun p => (p.1, p.2.toJson) :=
    List.map_congr_left fun p _ => by simp [Json.refiled_quantity]
  rw [hmap, ← List.map_mergeSort (r := Json.byName) (by simp [Json.byName]), readBreakdown, tableOf?_map]
  rfl

def fields (e : CacheEntry) : Fields Json :=
  [
    ("path", .str e.path),
    ("access", e.access.toJson),
    ("score", e.score.toJson),
    ("mtimeMs", e.mtimeMs.toJson),
    ("expiresAt", (e.expiresAt.map Quantity.toJson).getD .null)] ++
    textField "kind" e.kind ++ textField "exportName" e.exportName ++
    if e.breakdown.isEmpty then []
    else [("breakdown", Quantity.tableJson e.breakdown)]

theorem nodup_fields (e : CacheEntry) : e.fields.keys.Nodup := by
  obtain ⟨path, access, score, mtimeMs, expiresAt, kind, exportName, breakdown⟩ := e
  cases kind <;> cases exportName <;> cases breakdown <;>
    simp [fields, textField, Fields.keys]

theorem get?_fields (e : CacheEntry) :
    e.fields.get? "path" = some (.str e.path) ∧ e.fields.get? "access" = some e.access.toJson ∧
    e.fields.get? "score" = some e.score.toJson ∧ e.fields.get? "mtimeMs" = some e.mtimeMs.toJson ∧
    e.fields.get? "expiresAt" = some ((e.expiresAt.map Quantity.toJson).getD .null) ∧
    e.fields.get? "kind" = e.kind.map Json.str ∧ e.fields.get? "exportName" = e.exportName.map Json.str ∧
    e.fields.get? "breakdown" =
      if e.breakdown.isEmpty then none else some (Quantity.tableJson e.breakdown) := by
  obtain ⟨path, access, score, mtimeMs, expiresAt, kind, exportName, breakdown⟩ := e
  cases kind <;> cases exportName <;> cases breakdown <;>
    simp [fields, textField, Fields.get?]

theorem readExpiry_refiled (t : Option Quantity) :
    readExpiry (some ((t.map Quantity.toJson).getD .null).refiled) = some t := by
  cases t with
  | none => rw [Option.map_none, Option.getD_none, Json.refiled_null]; rfl
  | some q =>
    rw [Option.map_some, Option.getD_some, Json.refiled_quantity]
    cases q <;> rfl

/-- The entry as its record is read back. -/
def reread (e : CacheEntry) : CacheEntry :=
  { e with breakdown := readBreakdown ((e.fields.get? "breakdown").map Json.refiled) }

theorem ofJson_refiled (e : CacheEntry) : ofJson e.toJson.refiled = .ok (some e.reread) := by
  obtain ⟨gs, hgs⟩ : ∃ gs, e.toJson.refiled = .obj gs := ⟨_, Json.refiled_obj _⟩
  have hget := Json.get?_refiled (nodup_fields e) hgs
  obtain ⟨hpath, haccess, hscore, hmtime, hexpires, hkind, hname, -⟩ := get?_fields e
  have htext : ∀ s : Option String, ((s.map Json.str).map Json.refiled).bind Json.text? = s := by
    intro s
    cases s with
    | none => rfl
    | some s => rw [Option.map_some, Option.map_some, Json.refiled_str]; rfl
  have hrequired : required? gs = some (e.path, e.score, e.mtimeMs, e.expiresAt) := by
    unfold required?
    rw [hget, hget, hget, hget, hpath, hmtime, hscore, hexpires]
    simp only [Option.map_some, Json.refiled_str, Json.refiled_quantity, Option.bind_some,
      ofJson?_toJson, readExpiry_refiled]
    rfl
  rw [hgs, ofJson, hrequired]
  simp only
  rw [hget "access", haccess, Option.map_some, ofJson_access_refiled, hget "kind", hget "exportName",
    hget "breakdown", hkind, hname, htext, htext]
  rfl

variable {e : CacheEntry}

theorem reread_of_empty (h : e.breakdown = []) : e.reread = e := by
  obtain ⟨-, -, -, -, -, -, -, hbreakdown⟩ := get?_fields e
  rw [reread, hbreakdown, h]
  cases e
  cases h
  rfl

/-- The same entry, whatever the order of the parts of its breakdown. -/
structure Alike (a b : CacheEntry) : Prop where
  rest : { a with breakdown := [] } = { b with breakdown := [] }
  breakdown : ∀ k, a.breakdown.get? k = b.breakdown.get? k

theorem Alike.refl (e : CacheEntry) : Alike e e := ⟨rfl, fun _ => rfl⟩

theorem Alike.trans {a b c : CacheEntry} (h : Alike a b) (h' : Alike b c) : Alike a c :=
  ⟨h.rest.trans h'.rest, fun k => (h.breakdown k).trans (h'.breakdown k)⟩

theorem perm_reread (h : e.breakdown.keys.Nodup) : e.reread.breakdown.Perm e.breakdown := by
  obtain ⟨-, -, -, -, -, -, -, hbreakdown⟩ := get?_fields e
  rw [reread, hbreakdown]
  split
  · next hempty =>
    rw [List.isEmpty_iff.mp hempty]
    exact .nil
  · rw [Option.map_some, readBreakdown_refiled h]
    exact List.mergeSort_perm e.breakdown Json.byName

theorem alike_reread (h : e.breakdown.keys.Nodup) : Alike e.reread e :=
  ⟨rfl, fun k => (Fields.get?_perm (perm_reread h).symm h k).symm⟩

/-! ## Entries of any file -/

theorem keys_tableOf? {fs : List (String × Json)} {b : Fields Quantity}
    (h : Quantity.tableOf? fs = some b) : b.keys = Fields.keys fs := by
  induction fs generalizing b with
  | nil =>
    cases h
    rfl
  | cons f fs ih =>
    obtain ⟨k, v⟩ := f
    obtain ⟨q, -, h⟩ := Option.bind_eq_some_iff.mp h
    obtain ⟨rest, hrest, h⟩ := Option.bind_eq_some_iff.mp h
    cases h
    simp only [Fields.keys, List.map_cons]
    congr 1
    exact ih hrest

theorem nodup_readBreakdown {v : Option Json} (h : ∀ x ∈ v, Json.Distinct x) :
    (readBreakdown v).keys.Nodup := by
  unfold readBreakdown
  split
  · next fs =>
    have hfs := h _ rfl
    cases htable : Quantity.tableOf? fs with
    | none => exact List.nodup_nil
    | some b =>
      rw [Option.getD_some, keys_tableOf? htable]
      cases hfs with
      | obj hn _ => exact hn
  · exact List.nodup_nil

/-- An entry that is read from a value with distinct names has a breakdown with distinct names. -/
theorem nodup_breakdown_ofJson {v : Json} (hv : Json.Distinct v) (h : ofJson v = .ok (some e)) :
    e.breakdown.keys.Nodup := by
  cases hv with
  | obj hn hfs =>
    unfold ofJson at h
    simp only at h
    split at h
    · cases h
    · obtain ⟨access, -, h⟩ := bind_eq_ok.mp h
      cases h
      refine nodup_readBreakdown fun x hx => ?_
      exact hfs _ (Fields.mem_of_get? hx)
  | _ => cases h

end CacheEntry

/-! ## Records within the limits -/

namespace Json

/-- A text, a quantity or nothing. -/
inductive Plain : Json → Prop
  | null : Plain .null
  | str (s : String) : Plain (.str s)
  | quantity (q : Quantity) : Plain q.toJson

theorem Plain.fits {v : Json} (h : Plain v) (hw : v.isWritable) (depth : ℕ) :
    fits .usual depth v = true := by
  cases h with
  | null => rfl
  | str s => rfl
  | quantity q =>
    cases q with
    | truth b => rfl
    | number n =>
      cases n with
      | int n =>
        simp only [Quantity.toJson, isWritable, decide_eq_true_eq] at hw
        simp only [Quantity.toJson, Json.fits, decide_eq_true_eq, String.length_toList]
        exact hw
      | float x => rfl

theorem fits_plain_fields {fs : List (String × Json)} (h : ∀ f ∈ fs, Plain f.2)
    (hw : (Json.obj fs).isWritable) (depth : ℕ) : fits .usual (depth + 1) (.obj fs) = true := by
  rw [isWritable, fieldsWritable_iff] at hw
  rw [fits, Bool.and_eq_true]
  exact ⟨by simp, fitsFields_iff.mpr fun f hf => (h f hf).fits (hw f hf) _⟩

end Json

/-- A record that can be written can be read. -/
theorem CacheEntry.fits_toJson {e : CacheEntry} (hw : e.toJson.isWritable) (depth : ℕ) :
    Json.fits .usual (depth + 2) e.toJson = true := by
  have hobj : e.toJson = .obj e.fields := rfl
  rw [hobj, Json.isWritable, Json.fieldsWritable_iff] at hw
  rw [hobj, Json.fits, Bool.and_eq_true]
  refine ⟨by simp, Json.fitsFields_iff.mpr fun f hf => ?_⟩
  have hf' := hw f hf
  have haccess : ∀ g ∈ accessFields e.access, Json.Plain g.2 := by
    unfold accessFields
    cases e.access.name <;> simp [Json.Plain.str]
  have htable : ∀ g ∈ e.breakdown.map (fun p => (p.1, p.2.toJson)), Json.Plain g.2 := by
    intro g hg
    obtain ⟨p, -, rfl⟩ := List.mem_map.mp hg
    exact .quantity p.2
  have hcases : Json.Plain f.2 ∨ f.2 = e.access.toJson ∨ f.2 = Quantity.tableJson e.breakdown := by
    simp only [fields, List.mem_append, List.mem_cons, List.not_mem_nil, or_false] at hf
    rcases hf with (((rfl | rfl | rfl | rfl | rfl) | hf) | hf) | hf
    · exact .inl (.str _)
    · exact .inr (.inl rfl)
    · exact .inl (.quantity _)
    · exact .inl (.quantity _)
    · cases e.expiresAt with
      | none => exact .inl .null
      | some q => exact .inl (.quantity q)
    · cases hk : e.kind with
      | none => simp [hk, textField] at hf
      | some k =>
        simp only [hk, textField, List.mem_singleton] at hf
        exact .inl (hf ▸ .str k)
    · cases hk : e.exportName with
      | none => simp [hk, textField] at hf
      | some k =>
        simp only [hk, textField, List.mem_singleton] at hf
        exact .inl (hf ▸ .str k)
    · split at hf
      · cases hf
      · rw [List.mem_singleton.mp hf]
        exact .inr (.inr rfl)
  rcases hcases with h | h | h
  · exact h.fits hf' _
  · rw [h] at hf' ⊢
    exact Json.fits_plain_fields haccess hf' depth
  · rw [h] at hf' ⊢
    exact Json.fits_plain_fields htable hf' depth

/-! ## Files -/

namespace Cache

variable {entries loaded : Fields CacheEntry} {text : String}

/-- The table that a file of entries holds. -/
def tableOf (entries : Fields CacheEntry) : Fields Json :=
  entries.map fun p => (p.1, p.2.toJson)

theorem fileText_eq_ok (h : fileText entries = .ok text) :
    (Json.obj (tableOf entries)).isWritable = true ∧
      text = (Json.obj (tableOf entries)).sorted.write (.indented 2) := by
  unfold fileText Json.writeChecked at h
  split at h
  · next hw =>
    cases h
    rw [Json.isWritable_sorted] at hw
    exact ⟨hw, rfl⟩
  · cases h

theorem fileText_of_writable (entries : Fields CacheEntry) (h : (Json.obj (tableOf entries)).isWritable) :
    ∃ text, fileText entries = .ok text := by
  unfold fileText Json.writeChecked
  rw [Json.isWritable_sorted]
  exact ⟨_, if_pos h⟩

theorem parse_fileText (h : fileText entries = .ok text) :
    Json.parse text.toList = .ok (some (Json.obj (tableOf entries)).refiled) := by
  obtain ⟨hw, rfl⟩ := fileText_eq_ok h
  refine Json.parse_write_of_fits (Json.Style.readable_indented 2) ?_
  rw [Json.isWritable, Json.fieldsWritable_iff] at hw
  rw [Json.fits_sorted, Json.fits, Bool.and_eq_true]
  refine ⟨by decide, Json.fitsFields_iff.mpr fun f hf => ?_⟩
  have hf' := hw f hf
  obtain ⟨p, -, rfl⟩ := List.mem_map.mp hf
  exact CacheEntry.fits_toJson hf' 985

theorem readEntries_refiled (l : Fields CacheEntry) :
    readEntries (l.map fun p => (p.1, p.2.toJson.refiled)) = .ok (l.map fun p => (p.1, p.2.reread)) := by
  induction l with
  | nil => rfl
  | cons p l ih =>
    rw [List.map_cons, readEntries, CacheEntry.ofJson_refiled, ih]
    rfl

theorem readEntries_eq_ok {fs : List (String × Json)} (h : readEntries fs = .ok loaded) :
    (Fields.keys loaded).Sublist (Fields.keys fs) ∧
      ∀ p ∈ loaded, ∃ v, (p.1, v) ∈ fs ∧ CacheEntry.ofJson v = .ok (some p.2) := by
  induction fs generalizing loaded with
  | nil =>
    cases h
    exact ⟨List.Sublist.slnil, by simp⟩
  | cons f fs ih =>
    obtain ⟨k, v⟩ := f
    rw [readEntries] at h
    obtain ⟨e, he, h⟩ := bind_eq_ok.mp h
    obtain ⟨rest, hrest, h⟩ := bind_eq_ok.mp h
    cases h
    obtain ⟨hkeys, hmem⟩ := ih hrest
    have hmem' : ∀ p ∈ rest, ∃ v', (p.1, v') ∈ (k, v) :: fs ∧ CacheEntry.ofJson v' = .ok (some p.2) := by
      intro p hp
      obtain ⟨v', hv', hof⟩ := hmem p hp
      exact ⟨v', List.mem_cons_of_mem _ hv', hof⟩
    cases e with
    | none => exact ⟨hkeys.cons k, hmem'⟩
    | some e =>
      refine ⟨hkeys.cons_cons k, fun p hp => ?_⟩
      rcases List.mem_cons.mp hp with rfl | hp
      · exact ⟨v, List.mem_cons_self, he⟩
      · exact hmem' p hp

/-- Whatever the text, the entries in it have distinct names, also in their breakdowns. -/
theorem nodup_entriesOf {limits : Json.Limits} (h : entriesOf text limits = .ok loaded) :
    (Fields.keys loaded).Nodup ∧ ∀ p ∈ loaded, p.2.breakdown.keys.Nodup := by
  unfold entriesOf at h
  obtain ⟨found, hparse, h⟩ := bind_eq_ok.mp h
  split at h
  · next fs =>
    obtain ⟨hkeys, hmem⟩ := readEntries_eq_ok h
    cases Json.distinct_parse hparse with
    | obj hn hfs =>
      refine ⟨hn.sublist hkeys, fun p hp => ?_⟩
      obtain ⟨v, hv, hof⟩ := hmem p hp
      exact CacheEntry.nodup_breakdown_ofJson (hfs _ hv) hof
  · cases h
    exact ⟨List.nodup_nil, by simp⟩

/-- The entries in a written file: of two entries with one name the last, each as its record is read. -/
theorem entriesOf_fileText (h : fileText entries = .ok text) :
    entriesOf text =
      .ok ((Fields.ofList (entries.mergeSort Json.byName)).map fun p => (p.1, p.2.reread)) := by
  have hsort : ((tableOf entries).map fun f => (f.1, f.2.refiled)).mergeSort Json.byName =
      (entries.mergeSort Json.byName).map fun p => (p.1, p.2.toJson.refiled) := by
    rw [tableOf, List.map_map, List.map_mergeSort (s := Json.byName) (by simp [Json.byName])]
    rfl
  have hunify := Fields.ofList_map (fun e : CacheEntry => e.toJson.refiled)
    (entries.mergeSort Json.byName)
  rw [entriesOf, parse_fileText h, Json.refiled_obj, hsort, hunify]
  exact readEntries_refiled _

/-- An entry in a written file comes from an entry that was written. -/
theorem mem_entriesOf_fileText (h : fileText entries = .ok text) (hl : entriesOf text = .ok loaded) {k : String}
    {e : CacheEntry} (he : (k, e) ∈ loaded) : ∃ e', (k, e') ∈ entries ∧ e = e'.reread := by
  rw [entriesOf_fileText h] at hl
  cases hl
  obtain ⟨⟨k', e'⟩, hm, heq⟩ := List.mem_map.mp he
  cases heq
  exact ⟨e', List.mem_mergeSort.mp (Fields.mem_ofList hm), rfl⟩

theorem get?_entriesOf_fileText (hn : entries.keys.Nodup) (h : fileText entries = .ok text)
    (hl : entriesOf text = .ok loaded) (k : String) : loaded.get? k = (entries.get? k).map CacheEntry.reread := by
  have hperm := List.mergeSort_perm entries Json.byName
  have hkeys : (Fields.keys (entries.mergeSort Json.byName)).Nodup :=
    (hperm.map Prod.fst).nodup_iff.mpr hn
  rw [entriesOf_fileText h, Fields.ofList_of_nodup hkeys] at hl
  cases hl
  rw [Fields.get?_map, Fields.get?_perm hperm hkeys]

end Cache

end ShapeSearch
