import Mathlib.Data.List.Nodup
import ShapeSearch.Fields

/-!
# Lookups in tables

A table with distinct names is a map: a lookup finds the one pair of its name, whatever the order of the
pairs.

    (keys t).Nodup → (get? t k = some v ↔ (k, v) ∈ t)                         (get?_eq_some_iff)
    t.Perm u → (keys t).Nodup → get? t k = get? u k                           (get?_perm)
    (keys ps).Nodup → ofList ps = ps                                          (ofList_of_nodup)
-/

namespace ShapeSearch.Fields

variable {α β : Type}

variable {t u : Fields α} {k : String} {v : α} {p : String × α}

theorem mem_of_get? (h : get? t k = some v) : (k, v) ∈ t := by
  induction t with
  | nil => cases h
  | cons e r ih =>
    obtain ⟨n, w⟩ := e
    rw [get?] at h
    split at h
    · next hn =>
      cases h
      rw [hn]
      exact List.mem_cons_self
    · exact List.mem_cons_of_mem _ (ih h)

theorem mem_keys (h : (k, v) ∈ t) : k ∈ keys t :=
  List.mem_map.mpr ⟨(k, v), h, rfl⟩

theorem get?_eq_none_iff : get? t k = none ↔ k ∉ keys t := by
  induction t with
  | nil => simp [keys]
  | cons e r ih =>
    obtain ⟨n, w⟩ := e
    by_cases h : n = k
    · simp [get?, keys, h]
    · simp only [get?, h, if_false, ih, keys, List.map_cons, List.mem_cons, not_or]
      exact ⟨fun hr => ⟨fun hk => h hk.symm, hr⟩, fun hr => hr.2⟩

theorem get?_append (t u : Fields α) (k : String) : get? (t ++ u) k = (get? t k).or (get? u k) := by
  induction t with
  | nil => rfl
  | cons e r ih =>
    obtain ⟨n, w⟩ := e
    rw [List.cons_append, get?, get?, ih]
    split <;> rfl

/-! ## Distinct names -/

theorem get?_eq_some_iff (hn : (keys t).Nodup) : get? t k = some v ↔ (k, v) ∈ t := by
  refine ⟨mem_of_get?, fun h => ?_⟩
  induction t with
  | nil => cases h
  | cons e r ih =>
    obtain ⟨n, w⟩ := e
    obtain ⟨hnr, hr⟩ := List.nodup_cons.mp hn
    rcases List.mem_cons.mp h with heq | h
    · cases heq
      simp [get?]
    · have hne : n ≠ k := by
        rintro rfl
        exact hnr (mem_keys h)
      rw [get?, if_neg hne]
      exact ih hr h

theorem get?_perm (h : t.Perm u) (hn : (keys t).Nodup) (k : String) : get? t k = get? u k := by
  have hu : (keys u).Nodup := (h.map Prod.fst).nodup_iff.mp hn
  apply Option.ext
  intro v
  rw [get?_eq_some_iff hn, get?_eq_some_iff hu]
  exact h.mem_iff

theorem get?_map (f : α → β) (t : Fields α) (k : String) :
    get? (t.map fun p => (p.1, f p.2)) k = (get? t k).map f := by
  induction t with
  | nil => rfl
  | cons e r ih =>
    obtain ⟨n, w⟩ := e
    by_cases h : n = k
    · simp [get?, h]
    · simp only [List.map_cons, get?, h, if_false, ih]

theorem keys_map (f : α → β) (t : Fields α) : keys (t.map fun p => (p.1, f p.2)) = keys t := by
  simp [keys]

theorem get?_filter (p : String → Bool) (t : Fields α) (k : String) :
    get? (t.filter fun e => p e.1) k = if p k then get? t k else none := by
  induction t with
  | nil => simp
  | cons e r ih =>
    obtain ⟨n, w⟩ := e
    by_cases hn : n = k
    · subst hn
      by_cases hp : p n
      · simp [get?, hp]
      · simp [hp, ih]
    · by_cases hp : p n
      · simp only [List.filter_cons, hp, if_true, get?, hn, if_false, ih]
      · simp only [List.filter_cons, hp, Bool.false_eq_true, if_false, get?, hn, ih]

theorem nodup_filter (p : String × α → Bool) (h : (keys t).Nodup) : (keys (t.filter p)).Nodup :=
  h.sublist (List.filter_sublist.map Prod.fst)

/-! ## Putting -/

theorem mem_put (h : p ∈ put t k v) : p = (k, v) ∨ p ∈ t := by
  induction t with
  | nil => exact .inl (List.mem_singleton.mp h)
  | cons e r ih =>
    obtain ⟨n, w⟩ := e
    rw [put] at h
    split at h
    · rcases List.mem_cons.mp h with h | h
      · exact .inl h
      · exact .inr (List.mem_cons_of_mem _ h)
    · rcases List.mem_cons.mp h with h | h
      · exact .inr (h ▸ List.mem_cons_self)
      · exact (ih h).imp_right (List.mem_cons_of_mem _)

theorem nodup_put (h : (keys t).Nodup) (k : String) (v : α) : (keys (put t k v)).Nodup := by
  rw [keys_put]
  split
  · exact h
  · next hk => exact List.nodup_append.mpr ⟨h, by simp, by
      rintro a ha b hb rfl
      exact hk (List.mem_singleton.mp hb ▸ ha)⟩

theorem put_of_not_mem (h : k ∉ keys t) (v : α) : put t k v = t ++ [(k, v)] := by
  induction t with
  | nil => rfl
  | cons e r ih =>
    obtain ⟨n, w⟩ := e
    simp only [keys, List.map_cons, List.mem_cons, not_or] at h
    rw [put, if_neg (Ne.symm h.1), ih h.2, List.cons_append]

theorem erase_put_of_not_mem (h : k ∉ keys t) (v : α) : erase (put t k v) k = t := by
  have hall : t.filter (·.1 ≠ k) = t := by
    apply List.filter_eq_self.mpr
    intro p hp
    have hne : p.1 ≠ k := fun hk => h (hk ▸ mem_keys hp)
    simpa using hne
  rw [put_of_not_mem h, erase, List.filter_append, hall]
  simp

theorem put_put (t : Fields α) (k : String) (v w : α) : put (put t k w) k v = put t k v := by
  induction t with
  | nil => simp [put]
  | cons e r ih =>
    obtain ⟨n, u⟩ := e
    by_cases hn : n = k <;> simp [put, hn, ih]

theorem put_of_get? (h : get? t k = some v) : put t k v = t := by
  induction t with
  | nil => cases h
  | cons e r ih =>
    obtain ⟨n, u⟩ := e
    rw [get?] at h
    by_cases hn : n = k
    · rw [if_pos hn] at h
      cases h
      simp [put, hn]
    · rw [if_neg hn] at h
      simp [put, hn, ih h]

theorem mem_putAll (h : p ∈ putAll t u) : p ∈ t ∨ p ∈ u := by
  induction u generalizing t with
  | nil => exact .inl h
  | cons e r ih =>
    rcases ih h with h | h
    · rcases mem_put h with rfl | h
      · exact .inr List.mem_cons_self
      · exact .inl h
    · exact .inr (List.mem_cons_of_mem _ h)

theorem mem_ofList {ps : List (String × α)} (h : p ∈ ofList ps) : p ∈ ps :=
  (mem_putAll h).resolve_left List.not_mem_nil

theorem nodup_putAll (h : (keys t).Nodup) (u : Fields α) : (keys (putAll t u)).Nodup := by
  induction u generalizing t with
  | nil => exact h
  | cons e r ih => exact ih (nodup_put h e.1 e.2)

theorem nodup_ofList (ps : List (String × α)) : (keys (ofList ps)).Nodup :=
  nodup_putAll (t := []) List.nodup_nil ps

theorem putAll_of_nodup (h : (keys (t ++ u)).Nodup) : putAll t u = t ++ u := by
  induction u generalizing t with
  | nil => simp [putAll]
  | cons e r ih =>
    obtain ⟨k, v⟩ := e
    have hk : k ∉ keys t := by
      simp only [keys, List.map_append, List.map_cons, List.nodup_append] at h
      exact fun hk => h.2.2 k hk k List.mem_cons_self rfl
    have happ : t ++ (k, v) :: r = (t ++ [(k, v)]) ++ r := by simp
    rw [putAll, List.foldl_cons, put_of_not_mem hk, happ]
    exact ih (happ ▸ h)

theorem ofList_of_nodup {ps : List (String × α)} (h : (keys ps).Nodup) : ofList ps = ps :=
  putAll_of_nodup (t := []) h

theorem put_map (f : α → β) (t : Fields α) (k : String) (v : α) :
    put (t.map fun p => (p.1, f p.2)) k (f v) = (put t k v).map fun p => (p.1, f p.2) := by
  induction t with
  | nil => rfl
  | cons e r ih =>
    obtain ⟨n, w⟩ := e
    by_cases h : n = k
    · simp [put, h]
    · simp only [List.map_cons, put, h, if_false, ih]

theorem putAll_map (f : α → β) (t u : Fields α) :
    putAll (t.map fun p => (p.1, f p.2)) (u.map fun p => (p.1, f p.2)) =
      (putAll t u).map fun p => (p.1, f p.2) := by
  induction u generalizing t with
  | nil => rfl
  | cons e r ih =>
    rw [List.map_cons, putAll, List.foldl_cons, put_map]
    exact ih (put t e.1 e.2)

theorem ofList_map (f : α → β) (ps : List (String × α)) :
    ofList (ps.map fun p => (p.1, f p.2)) = (ofList ps).map fun p => (p.1, f p.2) :=
  putAll_map f [] ps

end ShapeSearch.Fields
