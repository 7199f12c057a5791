import ShapeSearch.Outline.Script
import ShapeSearch.Proofs.Fields
import ShapeSearch.Proofs.Pattern.Scan

/-!
# Declared exports

Three loops collect the declarations of a script, and each notes the exports it comes across.  A class or a function
that is exported is always noted; a variable only if nothing of its name has been declared before
(`mem_declared`).  What has been noted becomes an entry of its name (`listed_of_noted`), so that

    m exports n → Listed text n (declaredAccess m)                                  (scriptOutline_exports)

for the classes and functions of a script, and for the variables that come first (`IsFirst`).
-/

namespace ShapeSearch.Outline

open Pattern (Match fixedFrom fixed_append fixed_append_append)

variable {x : Noted} {n text : String}

/-- Whether a group of a match holds a text. -/
def carries (m : Match) (group : String) : Bool :=
  (m.named? group).any (· ≠ "")

/-- How the declaration that a match exports is reached. -/
def declaredAccess (m : Match) : ExportAccess :=
  if carries m "default" then ⟨.default, none⟩ else ⟨.named, some (declaredName m)⟩

/-! ## The loops -/

/-- What a class or a function notes. -/
def ownExport (m : Match) : List Noted :=
  if carries m "export" then [(declaredName m, declaredAccess m)] else []

/-- What a variable notes: nothing, if its name has been declared. -/
def freshExport (d : Declared) (m : Match) : List Noted :=
  if d.infos.has (declaredName m) = false ∧ carries m "export" = true then
    [(declaredName m, ⟨.named, some (declaredName m)⟩)] else []

theorem noteExport_eq (m : Match) (es : List Noted) : noteExport m (declaredName m) es = es ++ ownExport m := by
  unfold noteExport ownExport declaredAccess carries
  cases m.named? "export" with
  | none => simp
  | some e =>
    by_cases he : e = ""
    · simp [he]
    · cases m.named? "default" with
      | none => simp [he]
      | some d => by_cases hd : d = "" <;> simp [he, hd]

theorem exports_addVariable (d : Declared) (m : Match) :
    (addVariable d m).exports = d.exports ++ freshExport d m := by
  unfold addVariable
  simp only
  split
  · next h => simp [freshExport, h]
  · next h =>
    show (if carries m "export" = true then _ else _) = _
    split <;> simp_all [freshExport]

section

variable {f : Declared → Match → Declared} {ms : List Match} {d : Declared}

/-- A loop notes what each of its rounds notes after the rounds before it. -/
theorem mem_exports_foldl (note : Declared → Match → List Noted)
    (hf : ∀ d m, (f d m).exports = d.exports ++ note d m) {x : Noted} : x ∈ (ms.foldl f d).exports ↔
      x ∈ d.exports ∨ ∃ before m after, ms = before ++ m :: after ∧ x ∈ note (before.foldl f d) m := by
  induction ms generalizing d with
  | nil => simp
  | cons m r ih =>
    rw [List.foldl_cons, ih, hf, List.mem_append, or_assoc]
    refine or_congr_right ⟨?_, ?_⟩
    · rintro (hx | ⟨before, k, after, rfl, hx⟩)
      · exact ⟨[], m, r, rfl, hx⟩
      · exact ⟨m :: before, k, after, rfl, hx⟩
    · rintro ⟨before, k, after, hms, hx⟩
      cases before with
      | nil =>
        cases hms
        exact .inl hx
      | cons b before =>
        cases hms
        exact .inr ⟨before, k, after, rfl, hx⟩

/-- A round declares its own name and keeps what has been declared; descriptions go by their names. -/
structure Declares (f : Declared → Match → Declared) : Prop where
  has : ∀ d m n, (f d m).infos.has n = true ↔ d.infos.has n = true ∨ declaredName m = n
  named : ∀ d m, (∀ n i, d.infos.get? n = some i → i.name = some n) →
    ∀ n i, (f d m).infos.get? n = some i → i.name = some n

theorem Declares.has_foldl (h : Declares f) {n : String} : (ms.foldl f d).infos.has n = true ↔
    d.infos.has n = true ∨ ∃ m ∈ ms, declaredName m = n := by
  induction ms generalizing d with
  | nil => simp
  | cons m r ih => simp [ih, h.has, or_assoc]

theorem Declares.named_foldl (h : Declares f) (hd : ∀ n i, d.infos.get? n = some i → i.name = some n) :
    ∀ n i, (ms.foldl f d).infos.get? n = some i → i.name = some n := by
  induction ms generalizing d with
  | nil => exact hd
  | cons m r ih => exact ih (h.named d m hd)

end

theorem declares_addClass : Declares addClass where
  has d m n := by
    by_cases hn : declaredName m = n
    · simp [addClass, Fields.has, hn]
    · simp [addClass, Fields.has, hn, Fields.get?_put_of_ne _ _ (Ne.symm hn)]
  named d m hd n i hi := by
    by_cases hn : declaredName m = n
    · subst hn
      rw [addClass, Fields.get?_put_self] at hi
      cases hi
      rfl
    · rw [addClass, Fields.get?_put_of_ne _ _ (Ne.symm hn)] at hi
      exact hd n i hi

/-- Functions and variables are added under new names only. -/
theorem declares_of_putNew {f : Declared → Match → Declared} (hf : ∀ d m, ∃ i : ExportInfo,
    i.name = some (declaredName m) ∧ (f d m).infos = d.infos.putNew (declaredName m) i) : Declares f where
  has d m n := by
    obtain ⟨i, -, hi⟩ := hf d m
    rw [hi, Fields.putNew]
    split
    · next h => exact ⟨.inl, fun hn => hn.elim id fun hn => hn ▸ h⟩
    · by_cases hn : declaredName m = n <;> simp [Fields.has, Fields.get?_append, Fields.get?, hn]
  named d m hd n i hi := by
    obtain ⟨j, hj, hinfos⟩ := hf d m
    rw [hinfos, Fields.putNew] at hi
    split at hi
    · exact hd n i hi
    · rw [Fields.get?_append, Option.or_eq_some_iff] at hi
      rcases hi with hi | ⟨-, hi⟩
      · exact hd n i hi
      · obtain ⟨rfl, rfl⟩ : declaredName m = n ∧ j = i := by simpa [Fields.get?] using hi
        exact hj

theorem declares_addFunction : Declares addFunction :=
  declares_of_putNew fun _ _ => ⟨_, rfl, rfl⟩

theorem name_describeValue (n : String) (value source : List Char) : (describeValue n value source).name = some n := by
  simp only [describeValue, apply_ite ExportInfo.name, ite_self]

theorem name_describeVariable (m : Match) : (describeVariable m).name = some (declaredName m) := by
  unfold describeVariable
  split <;> exact name_describeValue _ _ _

theorem declares_addVariable : Declares addVariable := by
  refine declares_of_putNew fun d m => ⟨describeVariable m, name_describeVariable m, ?_⟩
  simp only [addVariable, Fields.putNew, apply_ite Declared.infos]

/-! ## All declarations -/

/-- A variable whose name no class, no function and no earlier variable declares. -/
def IsFirst (source : List Char) (m : Match) : Prop :=
  (∀ k ∈ classPattern.findAll source ++ functionPattern.findAll source, declaredName k ≠ declaredName m) ∧
  ∃ before after, variablePattern.findAll source = before ++ m :: after ∧
    ∀ k ∈ before, declaredName k ≠ declaredName m

theorem mem_ownExport {m : Match} :
    x ∈ ownExport m ↔ carries m "export" = true ∧ x = (declaredName m, declaredAccess m) := by
  rw [ownExport]
  split <;> simp_all

theorem mem_freshExport {d : Declared} {m : Match} : x ∈ freshExport d m ↔
    ¬ d.infos.has (declaredName m) = true ∧ carries m "export" = true ∧
      x = (declaredName m, ⟨.named, some (declaredName m)⟩) := by
  rw [freshExport]
  split <;> simp_all

/-- What the loops note. -/
theorem mem_declared {source : List Char} : x ∈ (declared source).exports ↔
    (∃ m ∈ classPattern.findAll source ++ functionPattern.findAll source, x ∈ ownExport m) ∨
    ∃ m, IsFirst source m ∧ carries m "export" = true ∧
      x = (declaredName m, ⟨.named, some (declaredName m)⟩) := by
  have hown : ∀ {ms : List Match}, (∃ before m after, ms = before ++ m :: after ∧ x ∈ ownExport m) ↔
      ∃ m ∈ ms, x ∈ ownExport m := by
    intro ms
    constructor
    · rintro ⟨before, m, after, rfl, h⟩
      exact ⟨m, by simp, h⟩
    · rintro ⟨m, hmem, h⟩
      obtain ⟨before, after, rfl⟩ := List.append_of_mem hmem
      exact ⟨before, m, after, rfl, h⟩
  unfold declared
  rw [mem_exports_foldl freshExport exports_addVariable,
    mem_exports_foldl (fun _ => ownExport) fun d m => noteExport_eq m d.exports,
    mem_exports_foldl (fun _ => ownExport) fun d m => noteExport_eq m d.exports, hown, hown]
  simp only [mem_freshExport, declares_addVariable.has_foldl, declares_addFunction.has_foldl,
    declares_addClass.has_foldl]
  have hnone : x ∉ ({} : Declared).exports := List.not_mem_nil
  have hempty : ∀ n, ¬ Fields.has ({} : Declared).infos n = true := by simp [Fields.has]
  simp only [hnone, hempty, Bool.false_eq_true, false_or, not_or, not_exists, not_and, List.mem_append,
    or_and_right, exists_or, IsFirst]
  refine or_congr_right ⟨?_, ?_⟩
  · rintro ⟨before, m, after, hms, ⟨⟨hc, hf⟩, hb⟩, h⟩
    exact ⟨m, ⟨fun k hk => hk.elim (hc k) (hf k), before, after, hms, hb⟩, h⟩
  · rintro ⟨m, ⟨hd, before, after, hms, hb⟩, h⟩
    exact ⟨before, m, after, hms, ⟨⟨fun k hk => hd k (.inl hk), fun k hk => hd k (.inr hk)⟩, hb⟩, h⟩

/-- An entry of the outline that is reached in a given way and described under a given name. -/
def Listed (text : String) (n : String) (a : ExportAccess) : Prop :=
  ∃ e ∈ scriptOutline text, e.access = a ∧ e.info.name = some n

theorem named_declared (source : List Char) {i : ExportInfo} (h : (declared source).infos.get? n = some i) :
    i.name = some n := by
  unfold declared at h
  exact declares_addVariable.named_foldl (declares_addFunction.named_foldl
    (declares_addClass.named_foldl (by simp))) n i h

theorem name_entryOf (source : List Char) (x : Noted) :
    (entryOf (declared source).infos x).info.name = some x.1 := by
  rw [entryOf]
  cases hi : (declared source).infos.get? x.1 with
  | none => rfl
  | some i => exact named_declared source hi

theorem listed_of_noted {a : ExportAccess} (h : (n, a) ∈ (declared (withoutComments text.toList)).exports) :
    Listed text n a := by
  rw [Listed, scriptOutline]
  generalize withoutComments text.toList = source at h ⊢
  refine ⟨_, List.mem_map_of_mem (List.mem_eraseDups.mpr (?_ : (n, a) ∈ _)), rfl, name_entryOf source _⟩
  simp only [noted, List.mem_append]
  exact .inl (.inl (.inl (.inl h)))

/-- A match that declares a name and exports it. -/
def Exports (m : Match) (n : String) : Prop :=
  m.named? "name" = some n ∧ carries m "export" = true

/-- Every class and function that is exported is listed, by default or by name; so is every variable that is
exported, provided that nothing of its name is declared before. -/
theorem scriptOutline_exports (text n : String) :
    (∀ m ∈ classPattern.findAll (withoutComments text.toList) ++
        functionPattern.findAll (withoutComments text.toList),
      Exports m n → Listed text n (if carries m "default" then ⟨.default, none⟩ else ⟨.named, some n⟩)) ∧
    ∀ m, IsFirst (withoutComments text.toList) m → Exports m n → Listed text n ⟨.named, some n⟩ := by
  have hname : ∀ {m}, Exports m n → declaredName m = n := fun h => by rw [declaredName, h.1, Option.getD_some]
  constructor
  · intro m hm h
    refine listed_of_noted (mem_declared.mpr (.inl ⟨m, hm, mem_ownExport.mpr ⟨h.2, ?_⟩⟩))
    rw [declaredAccess, hname h]
  · intro m hm h
    exact listed_of_noted (mem_declared.mpr (.inr ⟨m, hm, h.2, by rw [hname h]⟩))

/-- The names that the matches of a pattern declare, and whether they are exported. -/
def declarations (p : Pattern.Compiled) (text : String) : List (Option String × Bool) :=
  (p.findAll (withoutComments text.toList)).map fun m => (m.named? "name", carries m "export")

theorem eq_nil_of_declarations {p : Pattern.Compiled} (h : declarations p text = []) :
    p.findAll (withoutComments text.toList) = [] :=
  List.map_eq_nil_iff.mp h

theorem exists_of_declarations {p : Pattern.Compiled} (h : declarations p text = [(some n, true)]) :
    ∃ m, p.findAll (withoutComments text.toList) = [m] ∧ Exports m n := by
  obtain ⟨m, hms, hm⟩ := List.map_eq_singleton_iff.mp h
  exact ⟨m, hms, congrArg Prod.fst hm, congrArg Prod.snd hm⟩

def openText : String := "export function f(){}export let x=1"

theorem scriptOutline_exports_open : ∃ m k, m ∈ functionPattern.findAll (withoutComments openText.toList) ∧
    Exports m "f" ∧ IsFirst (withoutComments openText.toList) k ∧ Exports k "x" ∧
    Listed openText "f" (if carries m "default" then ⟨.default, none⟩ else ⟨.named, some "f"⟩) ∧
    Listed openText "x" ⟨.named, some "x"⟩ := by
  have hclass : classPattern = fixedFrom _ _ {} := fixed_append_append rfl rfl rfl {}
  have hfunction : functionPattern = fixedFrom _ _ {} := fixed_append rfl rfl {}
  have hvariable : variablePattern = fixedFrom _ _ {} := fixed_append rfl rfl {}
  have h : declarations classPattern openText = [] ∧ declarations functionPattern openText = [(some "f", true)] ∧
      declarations variablePattern openText = [(some "x", true)] := by
    rw [hclass, hfunction, hvariable]
    decide +kernel
  obtain ⟨m, hms, hm⟩ := exists_of_declarations h.2.1
  obtain ⟨k, hks, hk⟩ := exists_of_declarations h.2.2
  have hfirst : IsFirst (withoutComments openText.toList) k := by
    refine ⟨?_, [], [], hks, by simp⟩
    rw [eq_nil_of_declarations h.1, hms]
    simp [declaredName, hm.1, hk.1]
  have hmem : m ∈ functionPattern.findAll (withoutComments openText.toList) := by simp [hms]
  exact ⟨m, k, hmem, hm, hfirst, hk, (scriptOutline_exports openText "f").1 m (List.mem_append_right _ hmem) hm,
    (scriptOutline_exports openText "x").2 k hfirst hk⟩

/-- A function expression of the same name. -/
def reboundText : String := "export let f=function f()"

theorem scriptOutline_of_rebound :
    (∃ m ∈ variablePattern.findAll (withoutComments reboundText.toList), Exports m "f") ∧
      scriptOutline reboundText = [] := by
  have hclass : classPattern = fixedFrom _ _ {} := fixed_append_append rfl rfl rfl {}
  have hfunction : functionPattern = fixedFrom _ _ {} := fixed_append rfl rfl {}
  have hvariable : variablePattern = fixedFrom _ _ {} := fixed_append rfl rfl {}
  have h : declarations variablePattern reboundText = [(some "f", true)] ∧ scriptOutline reboundText = [] := by
    unfold scriptOutline declared
    rw [hclass, hfunction, hvariable]
    decide +kernel
  obtain ⟨m, hms, hm⟩ := exists_of_declarations h.1
  exact ⟨⟨m, by simp [hms], hm⟩, h.2⟩

end ShapeSearch.Outline
