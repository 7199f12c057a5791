import Mathlib.Data.List.Forall2
import Mathlib.Data.List.Induction
import ShapeSearch.Proofs.Outline.Exports

/-!
# Entries of an outline

What the loops over a script note are references, each a local name with a way to reach it.  The outline has one
entry for each of them, in the order in which they are first noted (`scriptOutline_firsts`).  Declarations are kept
under their own names (`standsFor_entryOf`), so that the names of the entries tell apart what the references do.
-/

namespace ShapeSearch.Outline

open Pattern (Match)

variable {x : Noted} {source : List Char}

/-! ## First occurrences -/

/-- The members of a list, each once, in the order of their first occurrences. -/
structure Firsts (l firsts : List Noted) : Prop where
  mem : ∀ x, x ∈ firsts ↔ x ∈ l
  order : firsts.Pairwise fun x y => l.idxOf x < l.idxOf y

theorem firsts_eraseDups (l : List Noted) : Firsts l l.eraseDups := by
  refine ⟨fun x => List.mem_eraseDups, ?_⟩
  -- one more at the end leaves the places of all others as they are
  induction l using List.reverseRecOn with
  | nil => simp
  | append_singleton l x ih =>
    have hkept : ∀ y ∈ l.eraseDups, (l ++ [x]).idxOf y = l.idxOf y := fun y hy =>
      List.idxOf_append_of_mem (List.mem_eraseDups.mp hy)
    have hbefore : l.eraseDups.Pairwise fun y z => (l ++ [x]).idxOf y < (l ++ [x]).idxOf z := by
      refine ih.imp_of_mem fun hy hz h => ?_
      rwa [hkept _ hy, hkept _ hz]
    rw [List.eraseDups_append]
    by_cases hx : x ∈ l
    · simpa [List.removeAll, hx] using hbefore
    · have hnew : ([x].removeAll l).eraseDups = [x] := by simp [List.removeAll, hx, List.eraseDups_cons]
      rw [hnew, List.pairwise_append]
      refine ⟨hbefore, by simp, fun y hy z hz => ?_⟩
      obtain rfl : z = x := by simpa using hz
      rw [hkept y hy, List.idxOf_append, if_neg hx]
      exact Nat.lt_add_left _ (List.idxOf_lt_length_of_mem (List.mem_eraseDups.mp hy))

theorem Firsts.nodup {l firsts : List Noted} (h : Firsts l firsts) : firsts.Nodup := by
  refine h.order.imp ?_
  rintro x _ hlt rfl
  exact Nat.lt_irrefl _ hlt

/-! ## References -/

/-- A name goes with access by name, and with no other. -/
def Fits (a : ExportAccess) : Prop :=
  a.name.isSome = true ↔ a.type = .named

theorem fits_named (n : String) : Fits ⟨.named, some n⟩ := by simp [Fits]

theorem fits_default : Fits ⟨.default, none⟩ := by simp [Fits]

theorem fits_of_mem_declared (h : x ∈ (declared source).exports) : Fits x.2 := by
  obtain ⟨m, -, h⟩ | ⟨m, -, -, rfl⟩ := mem_declared.mp h
  · obtain ⟨-, rfl⟩ := mem_ownExport.mp h
    unfold declaredAccess
    split
    · exact fits_default
    · exact fits_named _
  · exact fits_named _

theorem fits_of_mem_listedExports {body : List Char} (h : x ∈ listedExports body) : Fits x.2 := by
  obtain ⟨part, -, h⟩ := List.mem_filterMap.mp h
  simp only [Option.ite_none_left_eq_some] at h
  obtain ⟨-, ⟨⟩⟩ | ⟨-, ⟨⟩⟩ := ite_eq_iff.mp h.2
  · exact fits_default
  · exact fits_named _

theorem fits_of_mem_assignedExports {m : Match} (h : x ∈ assignedExports m) : Fits x.2 := by
  unfold assignedExports at h
  simp only at h
  split at h
  · obtain ⟨⟨key, name⟩, -, rfl⟩ := List.mem_map.mp h
    exact fits_named _
  · cases List.mem_singleton.mp h
    simp [Fits]

theorem fits_of_mem_noted (h : x ∈ noted source (declared source)) : Fits x.2 := by
  simp only [noted, List.mem_append, List.mem_map, List.mem_flatMap] at h
  obtain (((h | ⟨m, -, rfl⟩) | ⟨m, -, h⟩) | ⟨m, -, h⟩) | ⟨m, -, rfl⟩ := h
  · exact fits_of_mem_declared h
  · exact fits_default
  · exact fits_of_mem_listedExports h
  · exact fits_of_mem_assignedExports h
  · exact fits_named _

/-! ## Entries -/

/-- An entry for a reference: it is reached as noted, and described as its name is declared or, where nothing
declares it, by the name alone. -/
structure StandsFor (infos : Fields ExportInfo) (x : Noted) (e : ExportEntry) : Prop where
  access : e.access = x.2
  name : e.info.name = some x.1
  info : infos.get? x.1 = some e.info ∨ infos.get? x.1 = none ∧ e.info = { name := some x.1, kind := "unknown" }

theorem standsFor_entryOf (source : List Char) (x : Noted) :
    StandsFor (declared source).infos x (entryOf (declared source).infos x) := by
  refine ⟨rfl, name_entryOf source x, ?_⟩
  rw [entryOf]
  cases (declared source).infos.get? x.1 with
  | none => exact .inr ⟨rfl, rfl⟩
  | some i => exact .inl rfl

/-- Entries differ in their names or in how they are reached, a name is given with access by name and then is the
exported one, and the entries stand one by one for the distinct references in the order of their first occurrences. -/
theorem scriptOutline_firsts (text : String) :
    ((scriptOutline text).map fun e => (e.info.name, e.access.type, e.access.name)).Nodup ∧
    (∀ e ∈ scriptOutline text, (e.access.name.isSome = true ↔ e.access.type = .named) ∧
      e.exportedName = if e.access.type = .named then e.access.name else e.info.name) ∧
    ∃ firsts, Firsts (noted (withoutComments text.toList) (declared (withoutComments text.toList))) firsts ∧
      List.Forall₂ (StandsFor (declared (withoutComments text.toList)).infos) firsts (scriptOutline text) := by
  unfold scriptOutline
  generalize withoutComments text.toList = source
  have hfirsts := firsts_eraseDups (noted source (declared source))
  refine ⟨?_, ?_, _, hfirsts, ?_⟩
  · rw [List.map_map]
    refine hfirsts.nodup.map ?_
    rintro ⟨n, t, a⟩ ⟨k, u, b⟩ h
    simp only [Function.comp_apply, name_entryOf, Prod.mk.injEq, Option.some.injEq] at h
    obtain ⟨rfl, htype, hname⟩ := h
    cases (htype : t = u)
    cases (hname : a = b)
    rfl
  · intro e he
    obtain ⟨x, hx, rfl⟩ := List.mem_map.mp he
    rw [name_entryOf]
    exact ⟨fits_of_mem_noted (List.mem_eraseDups.mp hx), rfl⟩
  · rw [List.forall₂_map_right_iff, List.forall₂_same]
    exact fun x _ => standsFor_entryOf source x

end ShapeSearch.Outline
