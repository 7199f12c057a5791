import ShapeSearch.Aliases
import ShapeSearch.Proofs.World

/-!
# Aliases lead back to files

An alias and the files it stands for are patterns with a star.  An alias that is found for a file is the pattern with
some text for its star, and the same text leads from the base directory to the file:

    the patterns of a table fit → s ∈ specifiers of a file → s is resolved to the file    (aliasesFor_resolved)

Patterns fit if their stars stand at their ends.  A star elsewhere is dropped, so that such an alias may lead nowhere.
-/

namespace ShapeSearch

namespace Path

variable {x y n m : String}

/-- Texts for the same place. -/
def Same (x y : String) : Prop :=
  isAbsolute x = isAbsolute y ∧ components x = components y

theorem isAbsolute_append (h : x ≠ "") (y : String) : isAbsolute (x ++ y) = isAbsolute x := by
  have hx : x.toList ≠ [] := by simpa using h
  rw [isAbsolute, isAbsolute, String.toList_append, List.head?_append_of_ne_nil _ hx]

theorem components_slash (x y : String) : components (x ++ "/" ++ y) = components x ++ components y := by
  have hslash : (x ++ "/" ++ y).toList = x.toList ++ '/' :: y.toList := by simp
  rw [components, hslash, Text.splitOnChar_append, List.filter_append, List.map_append]
  rfl

@[simp] theorem components_empty : components "" = [] := rfl

theorem components_slash_left (y : String) : components ("/" ++ y) = components y := by
  rw [← String.empty_append (s := "/"), components_slash]
  rfl

theorem components_anchor (s y : String) : components (anchor s ++ y) = components y := by
  unfold anchor
  split
  · exact components_slash_left y
  · rw [(by decide : "//" = "/" ++ "/"), String.append_assoc, components_slash_left, components_slash_left]
  · exact components_slash_left y
  · rw [String.empty_append]

theorem components_intercalate (cs : List String) (h : ∀ s ∈ cs, IsComponent s) :
    components ("/".intercalate cs) = cs :=
  (components_slash_left _).symm.trans (components_pathText h)

theorem components_clean (x : String) : components (clean x) = components x := by
  have h : components (anchor x ++ "/".intercalate (components x)) = components x := by
    rw [components_anchor, components_intercalate _ fun _ => isComponent_of_mem]
  rw [clean]
  split
  · next ht =>
    rw [ht] at h
    exact h
  · exact h

theorem isAbsolute_of_not_mem (h : '/' ∉ x.toList) : isAbsolute x = false := by
  rw [isAbsolute, beq_eq_false_iff_ne]
  exact fun hhead => h (List.mem_of_head? hhead)

theorem isAbsolute_intercalate {cs : List String} (h : ∀ s ∈ cs, IsComponent s) :
    isAbsolute ("/".intercalate cs) = false := by
  cases cs with
  | nil => rfl
  | cons c cs =>
    obtain ⟨hne, -, hslash⟩ := h c List.mem_cons_self
    have hc := isAbsolute_of_not_mem hslash
    cases cs with
    | nil => simpa using hc
    | cons d ds => rw [String.intercalate_cons_cons, String.append_assoc, isAbsolute_append hne, hc]

theorem isAbsolute_clean (x : String) : isAbsolute (clean x) = isAbsolute x := by
  have hanchor : anchor x = "" ∧ isAbsolute x = false ∨ isAbsolute (anchor x) = true ∧ isAbsolute x = true := by
    unfold anchor isAbsolute
    split <;> simp_all [List.head?_eq_some_iff]
  rw [clean]
  rcases hanchor with ⟨ha, hx⟩ | ⟨ha, hx⟩
  · rw [ha, String.empty_append, hx]
    split
    · rfl
    · exact isAbsolute_intercalate fun _ => isComponent_of_mem
  · have hne : anchor x ≠ "" := by
      rintro h
      rw [h] at ha
      cases ha
    rw [if_neg (by simp [hne]), isAbsolute_append hne, ha, hx]

/-- A text that ends with a slash, or nothing. -/
def Closed (x : String) : Prop :=
  x = "" ∨ ∃ y, x = y ++ "/"

theorem Closed.components_append (h : Closed x) (y : String) : components (x ++ y) = components x ++ components y := by
  rcases h with rfl | ⟨z, rfl⟩
  · simp
  · have hz := components_slash z ""
    rw [String.append_empty] at hz
    simp [components_slash, hz]

theorem Closed.join (h : Closed y) (x : String) : Closed (join x y) := by
  have happend : ∀ z, Closed z → Closed (z ++ y) := by
    rintro z hz
    rcases h with rfl | ⟨y, rfl⟩
    · simpa using hz
    · exact .inr ⟨z ++ y, String.append_assoc.symm⟩
  unfold Path.join
  split
  · exact h
  · split
    · next hx =>
      refine happend x ?_
      rcases Bool.or_eq_true_iff.mp hx with hx | hx
      · exact .inl (by simpa using hx)
      · obtain ⟨cs, hcs⟩ := List.getLast?_eq_some_iff.mp (by simpa using hx)
        exact .inr ⟨String.ofList cs, String.toList_inj.mp (by simp [hcs])⟩
    · exact happend _ (.inr ⟨x, rfl⟩)

theorem join_append (h : '/' ∉ m.toList) (x y : String) : join x (y ++ m) = join x y ++ m := by
  have hy : isAbsolute (y ++ m) = isAbsolute y := by
    by_cases hnil : y = ""
    · rw [hnil, String.empty_append, isAbsolute_of_not_mem h]
      rfl
    · exact isAbsolute_append hnil m
  unfold join
  rw [hy]
  split
  · rfl
  · split
    · exact String.append_assoc.symm
    · exact String.append_assoc.symm

theorem clean_ne (x : String) : clean x ≠ "" := by
  rw [clean]
  split
  · decide
  · assumption

/-- What follows a name at the end of a path may be put there after the path is cleaned. -/
theorem same_clean (hx : Closed x) (hn : IsComponent n) (m : String) : Same (x ++ n ++ m) (clean (x ++ n) ++ m) := by
  have hne : x ++ n ≠ "" := by simp [hn.1]
  have hlast : components (x ++ n) = components x ++ [n] := by
    rw [hx.components_append, ← components_intercalate [n] (by simpa using hn)]
    simp
  have hclean : clean (x ++ n) = anchor (x ++ n) ++ "/".intercalate (components x ++ [n]) := by
    rw [clean, hlast, if_neg]
    intro h
    have := congrArg components h
    rw [components_anchor, ← hlast, components_intercalate _ fun _ => isComponent_of_mem, hlast] at this
    simp at this
  constructor
  · rw [isAbsolute_append hne, isAbsolute_append (clean_ne _), isAbsolute_clean]
  · rw [String.append_assoc, hx.components_append, hclean, String.append_assoc, components_anchor]
    have hcs := components_intercalate (components x) fun _ => isComponent_of_mem
    cases hx : components x with
    | nil => simp
    | cons c cs =>
      rw [String.intercalate_append_of_ne_nil (by simp) (by simp), ← hx, String.append_assoc, components_slash, hcs]
      simp

theorem same_slash (h : x ≠ "") : Same (x ++ "/") x :=
  ⟨isAbsolute_append h _, by simpa using components_slash x ""⟩

theorem same_dropSlashes (h : x ≠ "") : Same (Aliases.dropSlashes x ++ "/") x := by
  have key : ∀ r : List Char, r ≠ [] →
      Same (String.ofList (r.dropWhile (· == '/')).reverse ++ "/") (String.ofList r.reverse) := by
    intro r hr
    induction r with
    | nil => exact absurd rfl hr
    | cons c r ih =>
      by_cases hc : c = '/'
      · have hlast : String.ofList (c :: r).reverse = String.ofList r.reverse ++ "/" :=
          String.toList_inj.mp (by simp [hc])
        rw [List.dropWhile_cons_of_pos (by simpa using hc), hlast]
        by_cases hnil : r = []
        · subst hnil
          exact ⟨rfl, rfl⟩
        · have hslash := same_slash (x := String.ofList r.reverse) (by simpa [← String.toList_inj] using hnil)
          exact ⟨(ih hnil).1.trans hslash.1.symm, (ih hnil).2.trans hslash.2.symm⟩
      · rw [List.dropWhile_cons_of_neg (by simpa using hc)]
        exact same_slash (by simp [← String.toList_inj])
  simpa [Aliases.dropSlashes] using key x.toList.reverse (by simpa using h)

theorem join_ne (h : x ≠ "") (y : String) : join x y ≠ "" := by
  unfold join
  split
  · rintro rfl
    contradiction
  · split <;> simp [h]

theorem closed_head (x : String) : ∃ h, Closed h ∧ x = h ++ baseName x := by
  refine ⟨String.ofList (headChars x.toList), ?_, ?_⟩
  · have hhead := List.head?_dropWhile_not (· ≠ '/') x.toList.reverse
    unfold headChars
    cases hd : x.toList.reverse.dropWhile (· ≠ '/') with
    | nil => exact .inl rfl
    | cons c r =>
      rw [hd] at hhead
      obtain rfl : c = '/' := by simpa using hhead
      exact .inr ⟨String.ofList r.reverse, String.toList_inj.mp (by simp)⟩
  · simp [← String.toList_inj, headChars, baseName, baseChars, ← List.reverse_append, -ne_eq, -decide_not]

theorem not_mem_baseName (x : String) : '/' ∉ (baseName x).toList := by
  rw [baseName, baseChars, String.toList_ofList, List.mem_reverse]
  intro h
  simpa using List.all_eq_true.mp List.all_takeWhile _ h

end Path

namespace Aliases

variable {base name target s place q : String}

/-- A pattern with a text in place of its stars. -/
def fill (m p : String) : String :=
  String.ofList (p.toList.flatMap fun c => if c = '*' then m.toList else [c])

theorem dropChar_eq (p : String) : Text.dropChar '*' p = fill "" p := by
  rw [Text.dropChar, fill]
  congr 1
  induction p.toList with
  | nil => rfl
  | cons c cs ih => by_cases h : c = '*' <;> simp [h, ih]

theorem fill_of_not_mem (h : '*' ∉ q.toList) (m : String) : fill m q = q := by
  rw [← String.toList_inj, fill, String.toList_ofList]
  generalize q.toList = cs at h ⊢
  induction cs with
  | nil => rfl
  | cons c cs ih =>
    obtain ⟨hc, hcs⟩ : '*' ≠ c ∧ '*' ∉ cs := by simpa using h
    rw [List.flatMap_cons, if_neg (Ne.symm hc), ih hcs]
    rfl

theorem fill_star (h : '*' ∉ q.toList) (m : String) : fill m (q ++ "*") = q ++ m := by
  have hq := congrArg String.toList (fill_of_not_mem h m)
  rw [fill, String.toList_ofList] at hq
  simp [fill, hq]

/-- The target has no star, or both patterns have one, at their ends, and the target has no single dot before it. -/
def Fits (name target : String) : Prop :=
  '*' ∉ target.toList ∨
    ∃ a q, (name = a ++ "*" ∧ '*' ∉ a.toList) ∧ (target = q ++ "*" ∧ '*' ∉ q.toList) ∧
    Path.baseName q ≠ "."

/-- A specifier is an alias filled with a text, and the target filled with the same text is a place. -/
def Resolved (base name target s place : String) : Prop :=
  ∃ m, s = fill m name ∧ if '*' ∈ target.toList then
      '*' ∈ name.toList ∧ ∃ x, Path.join base target = x ++ "*" ∧ Path.Same (x ++ m) place
    else bare (Path.clean (Path.join base target)) = place

/-- The start of the files that a target with a star stands for. -/
theorem same_targetStart (hbase : base ≠ "") (hq : '*' ∉ q.toList) (hdot : Path.baseName q ≠ ".") (m : String) :
    Path.Same (Path.join base q ++ m) ((entryOf base name (q ++ "*")).targetStart ++ m) := by
  have hdrop : Text.dropChar '*' (q ++ "*") = q := by rw [dropChar_eq, fill_star hq, String.append_empty]
  obtain ⟨h, hh, hq⟩ := Path.closed_head q
  have hslash := Path.not_mem_baseName q
  have hopen : (q ++ "*").toList.contains '*' = true := by simp
  simp only [entryOf, hdrop, hopen, if_true]
  generalize Path.baseName q = n at *
  subst hq
  by_cases hn : n = ""
  · subst hn
    rw [String.append_empty] at *
    have hcond : (['/', '*'].isSuffixOf (h ++ "*").toList || h ++ "*" = "*") = true := by
      rcases hh with rfl | ⟨y, rfl⟩
      · rfl
      · simp [List.isSuffixOf]
    have hne := Path.join_ne hbase h
    have hplace := Path.same_dropSlashes (Path.clean_ne (Path.join base h))
    have hclosed : Path.Closed (dropSlashes (Path.clean (Path.join base h)) ++ "/") := .inr ⟨_, rfl⟩
    rw [if_pos hcond]
    constructor
    · rw [Path.isAbsolute_append hne, Path.isAbsolute_append (by simp), hplace.1, Path.isAbsolute_clean]
    · rw [(hh.join base).components_append, hclosed.components_append, hplace.2, Path.components_clean]
  · have hcond : ¬(['/', '*'].isSuffixOf (h ++ n ++ "*").toList || h ++ n ++ "*" = "*") = true := by
      obtain hnil | ⟨cs, c, hcs⟩ := List.eq_nil_or_concat n.toList
      · exact absurd (String.toList_inj.mp hnil) hn
      · have hc : c ≠ '/' := by
          rintro rfl
          simp [hcs] at hslash
        simp [List.isSuffixOf, hcs, hn, hc.symm]
    rw [if_neg hcond, Path.join_append hslash]
    exact Path.same_clean (hh.join base) ⟨hn, hdot, hslash⟩ m

theorem resolved_of_aliasOf (hbase : base ≠ "") (hfit : Fits name target)
    (h : aliasOf (entryOf base name target) place = some s) : Resolved base name target s place := by
  rcases hfit with hplain | ⟨a, q, ⟨rfl, ha⟩, ⟨rfl, hq⟩, hdot⟩
  · have hdrop : Text.dropChar '*' target = target := by rw [dropChar_eq, fill_of_not_mem hplain]
    have hstar : ¬(['/', '*'].isSuffixOf target.toList || target = "*") = true := by
      rw [Bool.or_eq_true, List.isSuffixOf_iff_suffix, decide_eq_true_eq]
      rintro (hsuffix | rfl)
      · exact hplain (hsuffix.subset (by simp))
      · exact hplain (by simp)
    simp only [aliasOf, entryOf, hdrop, if_neg hstar] at h
    simp only [List.contains_eq_mem, hplain, decide_false, Bool.false_eq_true, if_false] at h
    split at h
    · next hplace =>
      cases h
      exact ⟨"", dropChar_eq name, by rw [if_neg hplain, hplace]⟩
    · cases h
  · have hopen : (entryOf base (a ++ "*") (q ++ "*")).targetOpen = true := by simp [entryOf]
    have halias : (entryOf base (a ++ "*") (q ++ "*")).aliasOpen = true := by simp [entryOf]
    have hname : (entryOf base (a ++ "*") (q ++ "*")).aliasStart = a := by
      simp [entryOf, dropChar_eq, fill_star ha]
    have hstart := @same_targetStart base (a ++ "*") q hbase hq hdot
    simp only [aliasOf, hopen, halias, hname, if_true] at h
    split at h
    · next hprefix =>
      obtain ⟨m, hm⟩ := List.isPrefixOf_iff_prefix.mp hprefix
      rw [← hm, List.drop_left] at h
      cases h
      have hplace : place = (entryOf base (a ++ "*") (q ++ "*")).targetStart ++ String.ofList m :=
        String.toList_inj.mp (by simp [hm])
      refine ⟨String.ofList m, (fill_star ha _).symm, ?_⟩
      rw [if_pos (by simp), hplace]
      exact ⟨by simp, _, Path.join_append (by simp) base q, hstart _⟩
    · cases h

theorem mem_entriesOf {table : List (String × Json)} {entries : List AliasEntry} {e : AliasEntry}
    (h : entriesOf base table = .ok entries) (he : e ∈ entries) :
    ∃ f ∈ table, ∃ ts target, Json.iterateOr (some f.2) = .ok ts ∧ .str target ∈ ts ∧
      e = entryOf base f.1 target := by
  induction table generalizing entries with
  | nil =>
    cases h
    cases he
  | cons f table ih =>
    obtain ⟨ts, hts, h⟩ := bind_eq_ok.mp h
    obtain ⟨rest, hrest, h⟩ := bind_eq_ok.mp h
    cases h
    rcases List.mem_append.mp he with he | he
    · obtain ⟨target, htarget, rfl⟩ := List.mem_map.mp he
      obtain ⟨v, hv, hvt⟩ := List.mem_filterMap.mp htarget
      refine ⟨f, List.mem_cons_self, ts, target, hts, ?_, rfl⟩
      cases v <;> cases hvt
      exact hv
    · obtain ⟨g, hg, hrest⟩ := ih hrest he
      exact ⟨g, List.mem_cons_of_mem _ hg, hrest⟩

theorem mem_specifiers {found out : List String} (h : s ∈ found.foldl (fun out s =>
    if s = "" || out.contains s then out else out ++ [s]) out) : s ∈ found ∨ s ∈ out := by
  induction found generalizing out with
  | nil => exact .inr h
  | cons t found ih =>
    rcases ih h with h | h
    · exact .inl (List.mem_cons_of_mem _ h)
    · dsimp only at h
      split at h
      · exact .inr h
      · rcases List.mem_append.mp h with h | h
        · exact .inr h
        · exact .inl (List.mem_singleton.mp h ▸ List.mem_cons_self)

/-- Every alias of a file is resolved to it: an alias pattern of the table, filled with some text, is the alias, and one
of its targets, filled with the same text, is the file without its extension. -/
theorem aliasesFor_resolved {a : Aliases} {w : World} {path : String} {table : List (String × Json)} {ss : List String}
    (hbase : a.baseUrl ≠ "") (hentries : entriesOf a.baseUrl table = .ok a.entries)
    (hfit : ∀ f ∈ table, ∀ ts target, Json.iterateOr (some f.2) = .ok ts → .str target ∈ ts →
      Fits f.1 target)
    (h : a.aliasesFor w path = .ok ss) (hs : s ∈ ss) :
    ∃ real, w.realPath path = .ok real ∧ ∃ f ∈ table, ∃ ts target, Json.iterateOr (some f.2) = .ok ts ∧
      .str target ∈ ts ∧ Resolved a.baseUrl f.1 target s (bare real) ∧
      ('*' ∉ f.1.toList → s = f.1 ∧ '*' ∉ target.toList) := by
  obtain ⟨real, hreal, h⟩ := bind_eq_ok.mp h
  cases h
  obtain ⟨e, he, halias⟩ := List.mem_filterMap.mp ((mem_specifiers hs).resolve_right (by simp))
  obtain ⟨f, hf, ts, target, hts, htarget, rfl⟩ := mem_entriesOf hentries he
  have hresolved := resolved_of_aliasOf hbase (hfit f hf ts target hts htarget) halias
  refine ⟨real, hreal, f, hf, ts, target, hts, htarget, hresolved, fun hplain => ?_⟩
  obtain ⟨m, hm, hplace⟩ := hresolved
  refine ⟨hm.trans (fill_of_not_mem hplain m), fun hstar => ?_⟩
  rw [if_pos hstar] at hplace
  exact hplain hplace.1

/-- A project with one alias and one target. -/
def single (name target : String) : Aliases :=
  ⟨"/w/tsconfig.json", "/w", [entryOf "/w" name target]⟩

theorem aliasesFor_resolved_app : ∃ real, World.realPath {} "/w/src/app/x.ts" = .ok real ∧
    ∃ f ∈ [("@app/*", Json.ofTexts ["./src/app/*"])], ∃ ts target, Json.iterateOr (some f.2) = .ok ts ∧
      .str target ∈ ts ∧ Resolved "/w" f.1 target "@app/x" (bare real) ∧
      ('*' ∉ f.1.toList → "@app/x" = f.1 ∧ '*' ∉ target.toList) := by
  refine @aliasesFor_resolved _ (single "@app/*" "./src/app/*") _ _ _ ["@app/x"] (by decide) rfl ?_
    (eq_ok_of_toOption (by decide +kernel)) List.mem_cons_self
  rintro f hf ts target hts htarget
  cases List.mem_singleton.mp hf
  cases hts
  cases List.mem_singleton.mp htarget
  exact .inr ⟨"@app/", "./src/app/", by decide, by decide, by decide +kernel⟩

theorem aliasesFor_unresolved :
    (single "@a/*" "src/*/index").aliasesFor {} "/w/src/index/x.ts" = .ok ["@a//x"] ∧
      ¬∃ m, "@a//x" = fill m "@a/*" ∧
        Path.Same (Path.join "/w" (fill m "src/*/index")) (bare "/w/src/index/x.ts") := by
  refine ⟨eq_ok_of_toOption (by decide +kernel), ?_⟩
  rintro ⟨m, hm, -, hplace⟩
  rw [(by decide : "@a/*" = "@a/" ++ "*"), fill_star (by decide),
    (by decide : "@a//x" = "@a/" ++ "/x")] at hm
  obtain rfl := String.append_right_inj _ |>.mp hm
  exact absurd hplace (by decide +kernel)

end Aliases

end ShapeSearch
