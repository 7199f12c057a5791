import ShapeSearch.Proofs.Json.Codec

/-!
# Values written with their fields in order

A value is often written with the fields of every table in order of their names.  What is read back then
(`Json.refiled`) has the same fields with the same values, and is within the limits of a reader if the value
is:

    (obj fs).refiled = obj gs → names of fs distinct → gs.get? k = (fs.get? k).map refiled   (get?_refiled)
    fits limits depth v.sorted = fits limits depth v                                          (fits_sorted)
-/

namespace ShapeSearch

namespace Json

/-- The order of fields by their names. -/
def byName {α : Type} (a b : String × α) : Bool := a.1 ≤ b.1

theorem sortedItems_eq (xs : List Json) : sortedItems xs = xs.map sorted := by
  induction xs with
  | nil => rfl
  | cons x xs ih => rw [sortedItems, ih, List.map_cons]

theorem sortedFields_eq (fs : List (String × Json)) :
    sortedFields fs = fs.map fun f => (f.1, f.2.sorted) := by
  induction fs with
  | nil => rfl
  | cons f fs ih => rw [sortedFields, ih, List.map_cons]

/-- What is read back of a value that is written with its fields in order. -/
def refiled (v : Json) : Json := v.sorted.unified

theorem refiled_str (s : String) : (Json.str s).refiled = .str s := by
  simp [refiled, sorted, unified]

theorem refiled_null : Json.null.refiled = .null := by
  simp [refiled, sorted, unified]

theorem refiled_obj (fs : List (String × Json)) : (Json.obj fs).refiled =
    .obj (Fields.ofList ((fs.map fun f => (f.1, f.2.refiled)).mergeSort byName)) := by
  rw [refiled, sorted, unified, unifiedFields_eq, sortedFields_eq]
  congr 2
  rw [List.map_mergeSort (s := byName) (by simp [byName]), List.map_map]
  rfl

variable {fs : List (String × Json)}

theorem refiled_obj_of_nodup (h : (Fields.keys fs).Nodup) :
    (Json.obj fs).refiled = .obj ((fs.map fun f => (f.1, f.2.refiled)).mergeSort byName) := by
  rw [refiled_obj, Fields.ofList_of_nodup]
  have hperm := (List.mergeSort_perm (fs.map fun f => (f.1, f.2.refiled)) byName).map Prod.fst
  refine hperm.nodup_iff.mpr ?_
  rw [← Fields.keys, Fields.keys_map]
  exact h

theorem get?_refiled {gs : List (String × Json)} (h : (Fields.keys fs).Nodup) (hg : (Json.obj fs).refiled = .obj gs)
    (k : String) : Fields.get? gs k = (Fields.get? fs k).map refiled := by
  rw [refiled_obj_of_nodup h] at hg
  cases hg
  rw [← Fields.get?_map, ← Fields.get?_perm (List.mergeSort_perm _ byName).symm]
  rw [Fields.keys_map]
  exact h

/-! ## Limits -/

theorem fitsItems_iff {limits : Limits} {depth : ℕ} {xs : List Json} :
    fitsItems limits depth xs = true ↔ ∀ x ∈ xs, fits limits depth x = true := by
  induction xs with
  | nil => simp [fitsItems]
  | cons x xs ih => simp [fitsItems, ih]

theorem fitsFields_iff {limits : Limits} {depth : ℕ} :
    fitsFields limits depth fs = true ↔ ∀ f ∈ fs, fits limits depth f.2 = true := by
  induction fs with
  | nil => simp [fitsFields]
  | cons f fs ih => simp [fitsFields, ih]

theorem itemsWritable_iff {xs : List Json} :
    itemsWritable xs = true ↔ ∀ x ∈ xs, isWritable x = true := by
  induction xs with
  | nil => simp [itemsWritable]
  | cons x xs ih => simp [itemsWritable, ih]

theorem fieldsWritable_iff : fieldsWritable fs = true ↔ ∀ f ∈ fs, isWritable f.2 = true := by
  induction fs with
  | nil => simp [fieldsWritable]
  | cons f fs ih => simp [fieldsWritable, ih]

theorem forall_mem_sortedFields (p : Json → Prop) (fs : List (String × Json)) :
    (∀ f ∈ (sortedFields fs).mergeSort byName, p f.2) ↔ ∀ f ∈ fs, p f.2.sorted := by
  have hmem : ∀ f, f ∈ (sortedFields fs).mergeSort byName ↔ ∃ g ∈ fs, (g.1, g.2.sorted) = f := by
    intro f
    rw [List.mem_mergeSort, sortedFields_eq, List.mem_map]
  constructor
  · intro h f hf
    exact h (f.1, f.2.sorted) ((hmem _).mpr ⟨f, hf, rfl⟩)
  · intro h f hf
    obtain ⟨g, hg, rfl⟩ := (hmem f).mp hf
    exact h g hg

theorem fits_sorted (limits : Limits) (v : Json) (depth : ℕ) :
    fits limits depth v.sorted = fits limits depth v := by
  induction v using members_induction generalizing depth with
  | null => rfl
  | bool b => rfl
  | num n => simp [sorted]
  | str s => rfl
  | arr xs ih =>
    rw [sorted, fits, fits, sortedItems_eq]
    congr 1
    rw [Bool.eq_iff_iff, fitsItems_iff, fitsItems_iff, List.forall_mem_map]
    exact forall₂_congr fun x hx => by rw [ih x hx]
  | obj fs ih =>
    rw [sorted, fits, fits]
    congr 1
    rw [Bool.eq_iff_iff, fitsFields_iff, fitsFields_iff]
    refine (forall_mem_sortedFields (fun v => fits limits (depth - 1) v = true) fs).trans ?_
    exact forall₂_congr fun f hf => by rw [ih f hf]

theorem isWritable_sorted (v : Json) : v.sorted.isWritable = v.isWritable := by
  induction v using members_induction with
  | null => rfl
  | bool b => rfl
  | num n => simp [sorted]
  | str s => rfl
  | arr xs ih =>
    rw [sorted, isWritable, isWritable, sortedItems_eq, Bool.eq_iff_iff, itemsWritable_iff,
      itemsWritable_iff, List.forall_mem_map]
    exact forall₂_congr fun x hx => by rw [ih x hx]
  | obj fs ih =>
    rw [sorted, isWritable, isWritable, Bool.eq_iff_iff, fieldsWritable_iff, fieldsWritable_iff]
    refine (forall_mem_sortedFields (fun v => isWritable v = true) fs).trans ?_
    exact forall₂_congr fun f hf => by rw [ih f hf]

end Json

end ShapeSearch
