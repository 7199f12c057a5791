import ShapeSearch.Proofs.Store.Record

/-!
# Reading again what was read

What is read from an untrusted value, described files and stored results alike, is written in a form that is
read as the same again:

    ofJson d = .ok m → ofJson m.toJson = .ok m                                    (ofJson_toJson_stable)

A description that has been read is `Settled`: its kind is not empty, so it is not taken for an absent one,
and it is without an exported name only if its entity has no name either, so nothing else is put in its place.
-/

namespace ShapeSearch

/-! ## Kinds -/

theorem Decimal.plain_ne_empty (n : Number) : plain n ≠ "" := by
  have hopen : ∀ (l : Layout) d, l.keepPoint = true → (l.text d).toList ≠ [] := by
    intro l d hl
    unfold Layout.text
    simp only [hl, if_true]
    split
    · split <;> simp [digitText]
    · split
      · simp
      · split <;> simp
  intro h
  have hnil : (plain n).toList = [] := by rw [h]; rfl
  cases n with
  | int n =>
    rw [plain, Json.intText_eq, Json.toList_natText] at hnil
    simp [Json.writtenDigits_ne_nil] at hnil
  | float x =>
    rw [plain, plainFloat, floatText] at hnil
    split at hnil
    · cases hnil
    · cases hnil
    · cases hnil
    · simp only at hnil
      split at hnil
      · simp [Layout.zero, plainLayout] at hnil
      · rw [String.toList_append, List.append_eq_nil_iff] at hnil
        exact hopen _ _ rfl hnil.2

theorem Json.display_ne_empty {v : Json} (h : v.isTruthy) : v.display ≠ "" := by
  cases v with
  | null => cases h
  | bool b => cases b <;> decide
  | num n => exact Decimal.plain_ne_empty n
  | str s => simpa [isTruthy, display] using h
  | arr xs => simp [display, literal]
  | obj fs => simp [display, literal]

/-! ## Described files -/

theorem ExportAccess.ofJson_toJson (a : ExportAccess) : ofJson (some a.toJson) = .ok a := by
  obtain ⟨t, name⟩ := a
  cases name <;> simp [toJson, ofJson, Fields.get?, CacheEntry.ofText?_text, Json.text?, bind, Except.bind]

namespace ExportInfo

theorem textsOf_ofTexts (xs : List String) : textsOf (some (.ofTexts xs)) = .ok xs := by
  have hread : (xs.map Json.str).filterMap Json.text? = xs := by
    rw [List.filterMap_map]
    exact List.filterMap_some
  cases xs with
  | nil => rfl
  | cons x xs => exact congrArg Except.ok hread

theorem kind_of_ofFields {fs : Fields Json} {i : ExportInfo} (h : ofFields fs = .ok i) : i.kind ≠ "" := by
  obtain ⟨methods, -, h⟩ := bind_eq_ok.mp h
  obtain ⟨properties, -, h⟩ := bind_eq_ok.mp h
  cases h
  simp only
  split
  · split
    · next ht => exact Json.display_ne_empty ht
    · decide
  · decide

def fields (i : ExportInfo) : Fields Json :=
  [("name", .ofText? i.name), ("kind", .str i.kind), ("methods", .ofTexts i.methods),
    ("properties", .ofTexts i.properties), ("extends", .ofText? i.base)]

theorem ofFields_fields {i : ExportInfo} (h : i.kind ≠ "") : ofFields i.fields = .ok i := by
  obtain ⟨name, kind, methods, properties, base⟩ := i
  have htext : ∀ s : Option String, (Json.ofText? s).text? = s := fun s => by cases s <;> rfl
  simp [ofFields, fields, Fields.get?, textsOf_ofTexts, htext, Json.isTruthy, Json.display, h, bind, Except.bind]

end ExportInfo

namespace ExportEntry

/-- An entry in which nothing is taken for absent when it is read again. -/
structure Settled (e : ExportEntry) : Prop where
  kind : e.info.kind ≠ ""
  named : e.exportedName = none → e.info.name = none

theorem settled_of_ofJson {v : Json} {e : ExportEntry} (h : ofJson v = .ok (some e)) : e.Settled := by
  unfold ofJson at h
  split at h
  · split at h
    · obtain ⟨info, hinfo, h⟩ := bind_eq_ok.mp h
      obtain ⟨access, -, h⟩ := bind_eq_ok.mp h
      cases h
      exact ⟨ExportInfo.kind_of_ofFields hinfo, fun hnone => ((Option.orElse_eq_none _ _).mp hnone).2⟩
    · cases h
  · cases h

theorem Settled.ofJson_toJson {e : ExportEntry} (h : e.Settled) : ofJson e.toJson = .ok (some e) := by
  obtain ⟨exportedName, access, info⟩ := e
  have hinfo : ExportInfo.ofFields info.fields = .ok info := ExportInfo.ofFields_fields h.kind
  have hname : ((Json.ofText? exportedName).text?.orElse fun _ => info.name) = exportedName := by
    cases exportedName with
    | none => exact h.named rfl
    | some s => rfl
  show (do
    let i ← ExportInfo.ofFields info.fields
    let a ← ExportAccess.ofJson (some access.toJson)
    Except.ok (some (ExportEntry.mk ((Json.ofText? exportedName).text?.orElse fun _ => i.name) a i))) = _
  rw [bind_ok hinfo, bind_ok (ExportAccess.ofJson_toJson access), hname]

end ExportEntry

namespace ExportMetadata

variable {m : ExportMetadata}

theorem settled_of_ofItems {vs : List Json} (h : ofItems vs = .ok m) : ∀ e ∈ m, e.Settled := by
  induction vs generalizing m with
  | nil =>
    cases h
    simp
  | cons v vs ih =>
    obtain ⟨found, hfound, h⟩ := bind_eq_ok.mp h
    obtain ⟨rest, hrest, h⟩ := bind_eq_ok.mp h
    cases h
    intro e he
    rcases List.mem_append.mp he with he | he
    · cases found with
      | none => cases he
      | some d =>
        rw [List.mem_singleton.mp he]
        exact ExportEntry.settled_of_ofJson hfound
    · exact ih hrest e he

theorem ofItems_toJson (h : ∀ e ∈ m, e.Settled) : ofItems (m.map ExportEntry.toJson) = .ok m := by
  induction m with
  | nil => rfl
  | cons e m ih =>
    obtain ⟨he, hm⟩ := List.forall_mem_cons.mp h
    rw [List.map_cons, ofItems, bind_ok he.ofJson_toJson, bind_ok (ih hm)]
    rfl

theorem ofJson_toJson_of_settled (h : ∀ e ∈ m, e.Settled) : ofJson m.toJson = .ok m := by
  cases m with
  | nil => rfl
  | cons e m => exact ofItems_toJson h

theorem settled_of_ofJson {v : Json} (h : ofJson v = .ok m) : ∀ e ∈ m, e.Settled := by
  unfold ofJson at h
  split at h
  · obtain ⟨items, -, h⟩ := bind_eq_ok.mp h
    exact settled_of_ofItems h
  · cases h
    simp

end ExportMetadata

/-! ## Stored results -/

/-- The fields of a written entry stand for it. -/
theorem CacheEntry.describes_fields (e : CacheEntry) : Describes e.fields e := by
  obtain ⟨hpath, haccess, hscore, hmtime, hexpires, hkind, hname, hbreakdown⟩ := get?_fields e
  have htext : ∀ s : Option String, IsText (s.map Json.str) s := fun s t => by cases s <;> simp
  refine ⟨hpath, hscore, hmtime, ?_, ?_, hkind ▸ htext _, hname ▸ htext _, ?_⟩
  · rw [hexpires]
    cases e.expiresAt with
    | none => exact .null
    | some q => exact .quantity q
  · rw [haccess]
    exact (ofJson_access_eq_ok.mp (ExportAccess.ofJson_toJson e.access)).1
  · rw [hbreakdown]
    split
    · next hempty =>
      rw [List.isEmpty_iff.mp hempty]
      exact .other fun b hb => by cases hb
    · exact .table e.breakdown

theorem CacheEntry.ofJson_toJson (e : CacheEntry) : ofJson e.toJson = .ok (some e) := by
  refine ofJson_obj_eq_some.mpr ⟨describes_fields e, ?_⟩
  show ¬NestedType (e.fields.get? "access")
  rw [(get?_fields e).2.1]
  exact (ofJson_access_eq_ok.mp (ExportAccess.ofJson_toJson e.access)).2

/-- What is read from any value, or made for a file, is written in a form that is read as the same again. -/
theorem ofJson_toJson_stable :
    (∀ d m, ExportMetadata.ofJson d = .ok m → ExportMetadata.ofJson m.toJson = .ok m) ∧
    (∀ d e, CacheEntry.ofJson d = .ok (some e) → CacheEntry.ofJson e.toJson = .ok (some e)) ∧
    ∀ (c : Cache) path access score mtimeMs now kind exportName breakdown e,
      c.entryFor path access score mtimeMs now kind exportName breakdown = .ok e →
        CacheEntry.ofJson e.toJson = .ok (some e) :=
  ⟨fun _ _ h => ExportMetadata.ofJson_toJson_of_settled (ExportMetadata.settled_of_ofJson h),
    fun _ e _ => e.ofJson_toJson, fun _ _ _ _ _ _ _ _ _ e _ => e.ofJson_toJson⟩

/-- A description with a kind and members of other kinds than texts, and an export under its other name. -/
def sloppyExports : Json :=
  .obj [("exports", .arr [.null, .obj [("exported_name", .ofNat 5), ("access", .null),
    ("info", .obj [("name", .str "A"), ("kind", .arr [.ofNat 1]), ("methods", .arr [.str "run", .null])])]])]

/-- A record with an unknown way to its export, and a breakdown that is none. -/
def sloppyRecord : Json :=
  .obj [("path", .str "a.py"), ("score", .bool true), ("mtimeMs", .ofNat 7), ("kind", .ofNat 1),
    ("access", .obj [("type", .str "star"), ("name", .str "A")]), ("breakdown", .obj [("x", .str "y")])]

theorem ofJson_toJson_stable_sloppy :
    (∃ m, ExportMetadata.ofJson sloppyExports = .ok m ∧ m.map (·.info.kind) = ["[1]"] ∧
      ExportMetadata.ofJson m.toJson = .ok m) ∧
    ∃ e, CacheEntry.ofJson sloppyRecord = .ok (some e) ∧ e.breakdown = [] ∧
      CacheEntry.ofJson e.toJson = .ok (some e) := by
  have hm : ExportMetadata.ofJson sloppyExports =
      .ok [⟨some "A", ⟨.direct, none⟩, ⟨some "A", "[1]", ["run"], [], none⟩⟩] := by rfl
  have he : CacheEntry.ofJson sloppyRecord = .ok (some
      ⟨"a.py", ⟨.direct, some "A"⟩, .truth true, .number (.int 7), none, none, none, []⟩) := by rfl
  exact ⟨⟨_, hm, rfl, ofJson_toJson_stable.1 _ _ hm⟩, ⟨_, he, rfl, ofJson_toJson_stable.2.1 _ _ he⟩⟩

end ShapeSearch
