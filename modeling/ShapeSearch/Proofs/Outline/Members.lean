import Mathlib.Data.List.Nodup
import ShapeSearch.Outline.Module

/-!
# Members of a class

The members of a class are collected statement by statement, each name once.  What is collected in the end is the
list of all declared names without private ones and repetitions (`foldl_addMember`), so that it can be said of each
name by itself where it is listed (`mem_describeClassDef`).
-/

namespace ShapeSearch.Outline

open Source (Expr Stmt)

theorem mem_addPublic {xs : List String} {k n : String} :
    n ∈ addPublic xs k ↔ n ∈ xs ∨ n = k ∧ n.startsWith "_" = false := by
  unfold addPublic
  split
  · next h =>
    simp only [Bool.or_eq_true, List.contains_iff_mem] at h
    refine ⟨.inl, ?_⟩
    rintro (hn | ⟨rfl, hpublic⟩)
    · exact hn
    · exact h.resolve_left (by simp [hpublic])
  · next h =>
    simp only [Bool.or_eq_true, not_or, Bool.not_eq_true] at h
    rw [List.mem_append, List.mem_singleton]
    refine or_congr_right ⟨?_, And.left⟩
    rintro rfl
    exact ⟨rfl, h.1⟩

theorem nodup_addPublic {xs : List String} (h : xs.Nodup) (k : String) : (addPublic xs k).Nodup := by
  unfold addPublic
  split
  · exact h
  · next hk =>
    simp only [Bool.or_eq_true, not_or, List.contains_iff_mem] at hk
    simpa using List.Nodup.concat hk.2 h

theorem mem_foldl_addPublic {ks xs : List String} {n : String} :
    n ∈ ks.foldl addPublic xs ↔ n ∈ xs ∨ n ∈ ks ∧ n.startsWith "_" = false := by
  induction ks generalizing xs with
  | nil => simp
  | cons k r ih => rw [List.foldl_cons, ih, mem_addPublic, List.mem_cons, or_and_right, or_assoc]

theorem nodup_foldl_addPublic {ks xs : List String} (h : xs.Nodup) : (ks.foldl addPublic xs).Nodup := by
  induction ks generalizing xs with
  | nil => exact h
  | cons k r ih => exact ih (nodup_addPublic h k)

/-- The method that a statement of the body of a class declares. -/
def methodOf : Stmt → List String
  | .functionDef name decorators _ => if makesProperty decorators then [] else [name]
  | _ => []

/-- The properties that a statement of the body of a class declares. -/
def propertiesOf : Stmt → List String
  | .functionDef name decorators body =>
    (if makesProperty decorators then [name] else []) ++ assignedIn (.functionDef name decorators body)
  | .assign targets _ => targets.filterMap nameOf?
  | .annotated (.name id) _ => [id]
  | _ => []

theorem addMember_eq (m : Members) (child : Stmt) : addMember m child =
    ⟨(methodOf child).foldl addPublic m.methods, (propertiesOf child).foldl addPublic m.properties⟩ := by
  cases child with
  | functionDef name decorators body =>
    rw [addMember, methodOf, propertiesOf]
    split <;> rfl
  | annotated target value => cases target <;> rfl
  | _ => rfl

/-- All members of a class, by what its statements declare. -/
theorem foldl_addMember (body : List Stmt) (m : Members) : body.foldl addMember m =
    ⟨(body.flatMap methodOf).foldl addPublic m.methods,
      (body.flatMap propertiesOf).foldl addPublic m.properties⟩ := by
  induction body generalizing m with
  | nil => rfl
  | cons child r ih => rw [List.foldl_cons, ih, addMember_eq, List.flatMap_cons, List.flatMap_cons,
      List.foldl_append, List.foldl_append]

section

variable {name n : String} {bases : List Expr} {body : List Stmt}

theorem mem_describeClassDef : (n ∈ (describeClassDef name bases body).methods ↔
      (∃ child ∈ body, n ∈ methodOf child) ∧ n.startsWith "_" = false) ∧
    (n ∈ (describeClassDef name bases body).properties ↔
      (∃ child ∈ body, n ∈ propertiesOf child) ∧ n.startsWith "_" = false) ∧
    (describeClassDef name bases body).properties.Nodup := by
  simp only [describeClassDef, foldl_addMember, mem_foldl_addPublic, List.mem_flatMap]
  exact ⟨by simp, by simp, nodup_foldl_addPublic List.nodup_nil⟩

/-- A definition of a name in the body of a class. -/
def Defines (body : List Stmt) (n : String) (decorators : List Expr) : Prop :=
  ∃ inner, Stmt.functionDef n decorators inner ∈ body

/-- A public name that is defined as a property is listed once among the properties.  It is listed among the methods
too exactly if one of its definitions, such as that of an accessor, is not decorated as a property. -/
theorem describeClassDef_property {decorators : List Expr} (hpublic : n.startsWith "_" = false)
    (hdefined : Defines body n decorators) (hproperty : makesProperty decorators = true) :
    (describeClassDef name bases body).properties.count n = 1 ∧
    (n ∈ (describeClassDef name bases body).methods ↔
      ∃ others, Defines body n others ∧ makesProperty others = false) := by
  obtain ⟨hmethods, hproperties, hnodup⟩ := @mem_describeClassDef name n bases body
  constructor
  · obtain ⟨inner, hmem⟩ := hdefined
    refine List.count_eq_one_of_mem hnodup (hproperties.mpr ⟨⟨_, hmem, ?_⟩, hpublic⟩)
    simp [propertiesOf, hproperty]
  · rw [hmethods]
    constructor
    · rintro ⟨⟨child, hmem, hn⟩, -⟩
      unfold methodOf at hn
      split at hn
      · next k others inner =>
        split at hn
        · cases hn
        · next hplain =>
          cases List.mem_singleton.mp hn
          exact ⟨others, ⟨inner, hmem⟩, by simpa using hplain⟩
      · cases hn
    · rintro ⟨others, ⟨inner, hmem⟩, hplain⟩
      exact ⟨⟨_, hmem, by simp [methodOf, hplain]⟩, hpublic⟩

end

/-- A property that a method fills. -/
def filled : List Stmt :=
  [.functionDef "load" [] [.assign [.attribute (.name "self") "x"] .other],
    .functionDef "x" [.attribute (.name "functools") "cached_property"] []]

theorem describeClassDef_property_filled : Defines filled "x" [.attribute (.name "functools") "cached_property"] ∧
    (describeClassDef "A" [] filled).properties.count "x" = 1 ∧ "x" ∉ (describeClassDef "A" [] filled).methods := by
  have hdefined : Defines filled "x" [.attribute (.name "functools") "cached_property"] := ⟨[], by simp [filled]⟩
  have hpublic : "x".startsWith "_" = false := by decide +kernel
  obtain ⟨hcount, hmethods⟩ := @describeClassDef_property "A" "x" [] filled _ hpublic hdefined (by decide)
  refine ⟨hdefined, hcount, fun h => ?_⟩
  obtain ⟨others, ⟨inner, hmem⟩, hplain⟩ := hmethods.mp h
  simp only [filled, List.mem_cons, Stmt.functionDef.injEq, List.not_mem_nil, or_false] at hmem
  rcases hmem with ⟨hname, -⟩ | ⟨-, rfl, -⟩
  · exact absurd hname (by decide)
  · exact absurd hplain (by decide)

/-- A property with a way to set it. -/
def settable : List Stmt :=
  [.functionDef "x" [.name "property"] [], .functionDef "x" [.attribute (.name "x") "setter"] []]

/-- A property is listed among the methods because of its accessor. -/
theorem accessor_among_methods : Defines settable "x" [.name "property"] ∧
    (∀ ds, Defines settable "x" ds → ds = [.name "property"] ∨ ds = [.attribute (.name "x") "setter"]) ∧
    (describeClassDef "A" [] settable).methods = ["x"] := by
  refine ⟨⟨[], by simp [settable]⟩, ?_, by decide +kernel⟩
  rintro ds ⟨inner, h⟩
  simp only [settable, List.mem_cons, Stmt.functionDef.injEq, List.not_mem_nil, or_false] at h
  exact h.imp (fun h => h.2.1) fun h => h.2.1

end ShapeSearch.Outline
