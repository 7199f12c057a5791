import ShapeSearch.Proofs.FileTree
import ShapeSearch.World

/-!
# Where files are written

A file written to a path gets a place in the tree (`World.place?`).  If no link is there, then this is where
the path leads to, so what is written is what is read:

    w.place? path = some p → no link at p → w.probe path = .ok (some (.file x)) →
      w.files.lookup p = some (.file x)                                            (lookup_of_probe)

Making directories, placing a text and deleting touch no link (`makeParents_quiet`, `placeText_quiet`,
`unlink_quiet`), so every path keeps its place.  Making directories touches no file either
(`makeDirs_untouched`), and a file that is made where nothing is and deleted again leaves nothing behind
(`unlink_placeText`).
-/

namespace ShapeSearch

namespace Text

theorem splitOnChar_cons_of_ne {sep c : Char} (h : c ≠ sep) (cs : List Char) :
    ∃ p ps, splitOnChar sep cs = p :: ps ∧ splitOnChar sep (c :: cs) = (c :: p) :: ps := by
  cases hs : splitOnChar sep cs with
  | nil =>
    exfalso
    cases cs with
    | nil => cases hs
    | cons d ds =>
      rw [splitOnChar] at hs
      split at hs
      · cases hs
      · split at hs <;> cases hs
  | cons p ps =>
    refine ⟨p, ps, rfl, ?_⟩
    rw [splitOnChar, hs]
    simp [h]

theorem splitOnChar_of_not_mem {sep : Char} {cs : List Char} (h : sep ∉ cs) :
    splitOnChar sep cs = [cs] := by
  induction cs with
  | nil => rfl
  | cons c cs ih =>
    obtain ⟨hc, hcs⟩ : sep ≠ c ∧ sep ∉ cs := by simpa using h
    obtain ⟨p, ps, hsplit, hcons⟩ := splitOnChar_cons_of_ne (Ne.symm hc) cs
    rw [ih hcs] at hsplit
    cases hsplit
    exact hcons

theorem splitOnChar_append (sep : Char) (cs r : List Char) :
    splitOnChar sep (cs ++ sep :: r) = splitOnChar sep cs ++ splitOnChar sep r := by
  induction cs with
  | nil => simp [splitOnChar]
  | cons c cs ih =>
    by_cases hc : c = sep
    · simp [splitOnChar, hc, ih]
    · obtain ⟨p, ps, hsplit, hcons⟩ := splitOnChar_cons_of_ne hc (cs ++ sep :: r)
      obtain ⟨p', ps', hsplit', hcons'⟩ := splitOnChar_cons_of_ne hc cs
      rw [ih, hsplit'] at hsplit
      cases hsplit
      rw [List.cons_append, hcons, hcons']
      rfl

theorem not_mem_splitOnChar {sep : Char} {cs p : List Char} (h : p ∈ splitOnChar sep cs) : sep ∉ p := by
  induction cs generalizing p with
  | nil =>
    rw [List.mem_singleton.mp h]
    simp
  | cons c cs ih =>
    by_cases hc : c = sep
    · rw [splitOnChar, if_pos (by simpa using hc)] at h
      rcases List.mem_cons.mp h with rfl | h
      · simp
      · exact ih h
    · obtain ⟨p', ps, hsplit, hcons⟩ := splitOnChar_cons_of_ne hc cs
      rw [hcons] at h
      rw [hsplit] at ih
      rcases List.mem_cons.mp h with rfl | h
      · simpa [Ne.symm hc] using ih List.mem_cons_self
      · exact ih (List.mem_cons_of_mem _ h)

/-- Pieces joined by a separator that is in none of them are found again. -/
theorem splitOnChar_intercalate {sep : Char} {ps : List (List Char)} (hne : ps ≠ [])
    (h : ∀ p ∈ ps, sep ∉ p) : splitOnChar sep ([sep].intercalate ps) = ps := by
  induction ps with
  | nil => exact absurd rfl hne
  | cons p ps ih =>
    have hp := h p List.mem_cons_self
    cases ps with
    | nil => simpa using splitOnChar_of_not_mem hp
    | cons q qs =>
      have hrest := ih (by simp) fun r hr => h r (List.mem_cons_of_mem _ hr)
      have hjoin : [sep].intercalate (p :: q :: qs) = p ++ sep :: [sep].intercalate (q :: qs) := by
        simp [List.intercalate]
      rw [hjoin, splitOnChar_append, splitOnChar_of_not_mem hp, hrest]
      rfl

end Text

namespace Path

/-- A name that can stand between two slashes of a path. -/
def IsComponent (s : String) : Prop := s ≠ "" ∧ s ≠ "." ∧ '/' ∉ s.toList

theorem isComponent_of_mem {path s : String} (h : s ∈ components path) : IsComponent s := by
  obtain ⟨p, hp, rfl⟩ := List.mem_map.mp h
  obtain ⟨hmem, hp⟩ := List.mem_filter.mp hp
  simp only [Bool.and_eq_true, Bool.not_eq_true', List.isEmpty_eq_false_iff, bne_iff_ne] at hp
  refine ⟨fun hc => hp.1 ?_, fun hc => hp.2 ?_, ?_⟩
  · simpa using congrArg String.toList hc
  · simpa using congrArg String.toList hc
  · rw [String.toList_ofList]
    exact Text.not_mem_splitOnChar hmem

/-- Components put together are found again. -/
theorem components_pathText {ps : List String} (h : ∀ s ∈ ps, IsComponent s) :
    components (World.pathText ps) = ps := by
  have htext : (World.pathText ps).toList = '/' :: ['/'].intercalate (ps.map String.toList) := by
    rw [World.pathText, String.toList_append, String.toList_intercalate]
    rfl
  have hsplit : Text.splitOnChar '/' ('/' :: ['/'].intercalate (ps.map String.toList)) =
      [] :: Text.splitOnChar '/' (['/'].intercalate (ps.map String.toList)) := by
    rw [Text.splitOnChar, if_pos (by decide)]
  rw [components, htext, hsplit]
  cases ps with
  | nil => rfl
  | cons s ps =>
    rw [Text.splitOnChar_intercalate (by simp) ?_, List.filter_cons_of_neg (by simp), List.filter_eq_self.mpr ?_,
      List.map_map]
    · simp [Function.comp_def]
    · intro p hp
      obtain ⟨t, ht, rfl⟩ := List.mem_map.mp hp
      obtain ⟨hne, hdot, -⟩ := h t ht
      simp only [Bool.and_eq_true, Bool.not_eq_true', List.isEmpty_eq_false_iff, bne_iff_ne]
      refine ⟨fun hc => hne ?_, fun hc => hdot ?_⟩
      · exact String.toList_inj.mp hc
      · exact String.toList_inj.mp hc
    · intro p hp
      obtain ⟨t, ht, rfl⟩ := List.mem_map.mp hp
      exact (h t ht).2.2

end Path

namespace World

/-! ## What exists -/

variable {w w' : World} {path : String} {n : Node}

theorem stat_eq_ok (h : w.stat path = .ok n) : hasNull path = false ∧ w.files.stat (w.absolute path) = .ok n := by
  unfold stat at h
  split at h
  · cases h
  · next hnull =>
    refine ⟨by simpa using hnull, ?_⟩
    split at h
    · cases h
    · cases hs : w.files.stat (w.absolute path) with
      | error o =>
        rw [hs] at h
        cases h
      | ok m =>
        rw [hs] at h
        cases h
        rfl

theorem stat_of_probe (h : w.probe path = .ok (some n)) :
    w.files.stat (w.absolute path) = .ok n ∧ w.stat path = .ok n := by
  unfold probe at h
  split at h
  · cases h
  · next hpath =>
    obtain ⟨hnull, hempty⟩ : hasNull path = false ∧ path ≠ "" := by simpa using hpath
    split at h
    · next hs =>
      cases h
      refine ⟨hs, ?_⟩
      rw [stat, if_neg (by simp [hnull]), if_neg hempty, hs]
      rfl
    · cases h
    · cases h

theorem shownPath_of_stat (h : w.stat path = .ok n) (root : String) : ∃ shown, w.shownPath root path = .ok shown := by
  obtain ⟨hnull, hstat⟩ := stat_eq_ok h
  obtain ⟨q, hq, -⟩ := Node.stat_eq_ok hstat
  have hparts : w.realParts path = .ok q := by
    rw [realParts, hnull, hq]
    rfl
  rw [shownPath, hparts]
  exact ⟨_, rfl⟩

/-! ## Places -/

/-- The place that a file written to a path gets: below the directory that the path leads to, under its
last name. -/
def place? (w : World) (path : String) : Option (List String) :=
  let parts := splitLast (Path.components (w.absolute path))
  if parts.2 = "" || parts.2 = ".." then none
  else (w.files.realPath? (pathText parts.1)).map (· ++ [parts.2])

theorem place?_eq_some {p : List String} (h : w.place? path = some p) :
    ∃ dir name parts, Path.components (w.absolute path) = dir ++ [name] ∧ name ≠ "" ∧ name ≠ ".." ∧
      w.files.realPath? (pathText dir) = some parts ∧ p = parts ++ [name] := by
  unfold place? at h
  simp only [Bool.or_eq_true, decide_eq_true_eq] at h
  split at h
  · cases h
  · next hname =>
    rw [not_or] at hname
    obtain ⟨parts, hparts, rfl⟩ := Option.map_eq_some_iff.mp h
    refine ⟨_, _, parts, ?_, hname.1, hname.2, hparts, rfl⟩
    generalize Path.components (w.absolute path) = cs at hname ⊢
    have hne : cs ≠ [] := by
      rintro rfl
      exact hname.1 rfl
    rw [splitLast, List.getLastD_eq_getLast?, List.getLast?_eq_some_getLast hne, Option.getD_some]
    exact (List.dropLast_append_getLast hne).symm

theorem splitLast_concat (dir : List String) (name : String) :
    splitLast (dir ++ [name]) = (dir, name) := by
  simp [splitLast]

theorem place?_congr (hlinks : w.files.SameLinks w'.files) (hcwd : w'.cwd = w.cwd) (path : String) :
    w'.place? path = w.place? path := by
  have hpath : w'.absolute path = w.absolute path := by rw [absolute, absolute, hcwd]
  rw [place?, place?, hpath, hlinks.realPath?_eq]

theorem lookup_of_probe {p : List String} (hp : w.place? path = some p)
    (hlink : ∀ target, w.files.lookup p ≠ some (.link target)) {x : File}
    (h : w.probe path = .ok (some (.file x))) :
    w.files.lookup p = some (.file x) := by
  obtain ⟨dir, name, parts, hcs, -, hname, hparts, rfl⟩ := place?_eq_some hp
  obtain ⟨q, hq, hlookup⟩ := Node.stat_eq_ok (stat_of_probe h).1
  have hdir : Path.components (pathText dir) = dir := Path.components_pathText fun s hs =>
    Path.isComponent_of_mem (hcs ▸ List.mem_append_left _ hs)
  rw [Node.realPath?, hdir] at hparts
  rw [Node.realPath?, hcs, Node.follow_concat hparts hname hlink] at hq
  cases hq
  exact hlookup

/-! ## Quiet changes -/

/-- A change that touches no link and leaves the working directory; a file afterwards was there before, or
it is a new one. -/
structure Quiet (new : List String → File → Prop) (w w' : World) : Prop where
  links : w.files.SameLinks w'.files
  cwd : w'.cwd = w.cwd
  file : ∀ q x, w'.files.lookup q = some (.file x) → w.files.lookup q = some (.file x) ∨ new q x

variable {new : List String → File → Prop} {p : List String}

theorem Quiet.refl (w : World) : Quiet new w w := ⟨.refl _, rfl, fun _ _ h => .inl h⟩

theorem Quiet.trans {w'' : World} (h : Quiet new w w') (h' : Quiet new w' w'') : Quiet new w w'' := by
  refine ⟨h.links.trans h'.links, h'.cwd.trans h.cwd, fun q x hx => ?_⟩
  rcases h'.file q x hx with hx | hx
  · exact h.file q x hx
  · exact .inr hx

theorem Quiet.place?_eq (h : Quiet new w w') (path : String) : w'.place? path = w.place? path :=
  place?_congr h.links h.cwd path

/-- Putting a node without links where no link is. -/
theorem quiet_insert {files : Node} (h : Node.insert n p w.files = some files) (hw : w.files.Linkless p)
    (hn : n.Linkless []) (hnew : ∀ r x, n.lookup r = some (.file x) → new (p ++ r) x) :
    Quiet new w { w with files } := by
  refine ⟨Node.sameLinks_insert h hw hn, rfl, fun q x hx => ?_⟩
  rcases Node.lookup_insert h q with ⟨r, rfl, hr⟩ | ⟨-, hr⟩ | ⟨es, hr, -⟩
  · rw [hr] at hx
    exact .inr (hnew r x hx)
  · rw [hr] at hx
    exact .inl hx
  · rw [hr] at hx
    cases hx

/-- The same files and links, and the same surroundings otherwise; only directories may have been made. -/
structure Untouched (w w' : World) : Prop where
  files : w.files.SameFiles w'.files
  links : w.files.SameLinks w'.files
  cwd : w'.cwd = w.cwd
  clock : w'.clock = w.clock
  env : w'.env = w.env

theorem Untouched.refl (w : World) : Untouched w w := ⟨.refl _, .refl _, rfl, rfl, rfl⟩

theorem Untouched.trans {w'' : World} (h : Untouched w w') (h' : Untouched w' w'') : Untouched w w'' :=
  ⟨h.files.trans h'.files, h.links.trans h'.links, h'.cwd.trans h.cwd, h'.clock.trans h.clock,
    h'.env.trans h.env⟩

theorem makeDirs_untouched (w : World) (done names : List String) :
    Untouched w (w.makeDirs done names).2 := by
  induction names generalizing w done with
  | nil => exact .refl w
  | cons name names ih =>
    rw [makeDirs]
    split
    · exact ih w _
    · split
      · exact .refl w
      · next parts hparts =>
        split
        · exact .refl w
        · next hnone =>
          have hfree : w.files.lookup (parts ++ [name]) = none := by simpa using hnone
          split
          · next files hfiles =>
            have hmade : Untouched w { w with files } := by
              refine ⟨Node.sameFiles_insert_dir hfiles hfree, ?_, rfl, rfl, rfl⟩
              refine Node.sameLinks_insert hfiles (Node.linkless_of_none hfree) fun r target => ?_
              cases r <;> simp [Node.lookup, Node.child?]
            exact hmade.trans (ih _ _)
          · exact .refl w
    · exact .refl w

theorem Untouched.quiet (h : Untouched w w') : Quiet new w w' :=
  ⟨h.links, h.cwd, fun q x hx => .inl ((h.files q x).mpr hx)⟩

theorem makeParents_quiet (w : World) (path : String) : Quiet new w (w.makeParents path).2 :=
  (makeDirs_untouched w [] _).quiet

theorem linkless_of_place {t : Node} (hlink : ∀ target, t.lookup p ≠ some (.link target))
    (hdir : ∀ es, t.lookup p ≠ some (.dir es)) : t.Linkless p := by
  cases h : t.lookup p with
  | none => exact Node.linkless_of_none h
  | some n =>
    cases n with
    | file x => exact Node.linkless_of_file h
    | link target => exact absurd h (hlink target)
    | dir es => exact absurd h (hdir es)

theorem placeText_quiet {text : String} (hp : w.place? path = some p)
    (hlink : ∀ target, w.files.lookup p ≠ some (.link target)) :
    Quiet (fun q x => q = p ∧ x.text = some text) w (w.placeText path text) := by
  obtain ⟨dir, name, parts, hcs, hne, hup, hparts, rfl⟩ := place?_eq_some hp
  unfold placeText
  rw [hcs, splitLast_concat]
  simp only [hparts]
  split
  · exact .refl w
  · next hdir =>
    split
    · exact .refl w
    · cases hinsert : Node.insert (.file ⟨textSize text, some text, w.nowNs⟩)
        (parts ++ [name]) w.files with
      | none => exact .refl w
      | some files =>
        refine quiet_insert hinsert (linkless_of_place hlink fun es he => hdir es he) ?_ ?_
        · intro r target
          cases r <;> simp [Node.lookup, Node.child?]
        · intro r x hx
          cases r with
          | nil =>
            cases hx
            exact ⟨List.append_nil _, rfl⟩
          | cons _ _ => cases hx

theorem unlink_quiet (hp : w.place? path = some p) (hlink : ∀ target, w.files.lookup p ≠ some (.link target)) :
    Quiet new w (w.unlink path) := by
  obtain ⟨dir, name, parts, hcs, hne, hup, hparts, rfl⟩ := place?_eq_some hp
  unfold unlink
  rw [hcs, splitLast_concat]
  simp only [hparts]
  split
  · exact .refl w
  · next hdir =>
    refine ⟨Node.sameLinks_remove (linkless_of_place hlink fun es he => hdir es he), rfl, fun q x hx => ?_⟩
    rcases Node.lookup_remove (parts ++ [name]) w.files q with ⟨-, hr⟩ | hr | ⟨es, es', hr, -⟩
    · rw [hr] at hx
      cases hx
    · rw [hr] at hx
      exact .inl hx
    · rw [hr] at hx
      cases hx

/-! ## Files that come and go -/

/-- Nothing is at a path, and a file can be made there. -/
def Vacant (w : World) (path : String) : Prop :=
  ∃ dir name parts es, Path.components (w.absolute path) = dir ++ [name] ∧
    (name ≠ "" ∧ name ≠ ".." ∧ name.utf8ByteSize ≤ nameLimit) ∧
    w.files.realPath? (pathText dir) = some parts ∧ w.files.lookup parts = some (.dir es) ∧
    Fields.get? es name = none

/-- A file that is made at a vacant path and deleted leaves nothing behind. -/
theorem unlink_placeText (h : w.Vacant path) (text : String) : (w.placeText path text).unlink path = w := by
  obtain ⟨dir, name, parts, es, hcs, ⟨hne, hup, hsize⟩, hparts, hdir, hname⟩ := h
  obtain ⟨files, hinsert, hremove⟩ := Node.insert_remove_of_vacant hdir hname
    (.file ⟨textSize text, some text, w.nowNs⟩)
  have hfree : w.files.lookup (parts ++ [name]) = none := by
    rw [Node.lookup_append, hdir]
    simp [Node.lookup, Node.child?, hname]
  have hplaced : w.placeText path text = { w with files } := by
    unfold placeText
    rw [hcs, splitLast_concat]
    have hfits : ¬(name = "" || name = ".." || nameLimit < name.utf8ByteSize) = true := by simp [hne, hup, hsize]
    simp only [hparts, hfree, hinsert, Option.getD_some, if_neg hfits]
  have hlinks : w.files.SameLinks files := by
    refine Node.sameLinks_insert hinsert (Node.linkless_of_none hfree) fun r target => ?_
    cases r <;> simp [Node.lookup, Node.child?]
  have hagain : files.realPath? (pathText dir) = some parts := by rw [← hlinks.realPath?_eq, hparts]
  have hcs' : Path.components (World.absolute { w with files } path) = dir ++ [name] := hcs
  rw [hplaced]
  unfold unlink
  rw [hcs', splitLast_concat]
  simp only [hagain, Node.lookup_insert_self hinsert, hremove]

/-! ## The top directory -/

/-- An absolute path with one step, and not too long. -/
def isTop (path name : String) : Bool :=
  Path.isAbsolute path && decide (hasNull path = false ∧ Node.stepsOf path = [name] ∧
    (name ≠ "" ∧ name ≠ "." ∧ name ≠ "..") ∧
    name.utf8ByteSize ≤ nameLimit ∧ path.utf8ByteSize < pathLimit)

theorem realPath?_top (t : Node) : t.realPath? (pathText []) = some [] := by
  have hroot : Path.components (pathText []) = [] := by decide +kernel
  rw [Node.realPath?, hroot]
  rfl

/-- A path leads to a file in the top directory, or to nothing. -/
structure AtTop (w : World) (path name : String) (es : List (String × Node)) (x : Option File) : Prop where
  files : w.files = .dir es
  entry : Fields.get? es name = x.map .file
  top : isTop path name = true

namespace AtTop

variable {w : World} {path name : String} {es : List (String × Node)} {x : Option File}

theorem fits (h : AtTop w path name es x) :
    w.absolute path = path ∧ hasNull path = false ∧ Node.stepsOf path = [name] ∧
      (name ≠ "" ∧ name ≠ "." ∧ name ≠ "..") ∧
      name.utf8ByteSize ≤ nameLimit ∧ path.utf8ByteSize < pathLimit := by
  obtain ⟨habs, hfits⟩ := Bool.and_eq_true_iff.mp h.top
  exact ⟨by rw [absolute, Path.join, if_pos habs], of_decide_eq_true hfits⟩

theorem splitLast_eq (h : AtTop w path name es x) :
    splitLast (Path.components (w.absolute path)) = ([], name) := by
  obtain ⟨habs, -, hsteps, ⟨-, hdot, -⟩, -⟩ := h.fits
  rw [habs, Node.components_eq, hsteps]
  simp [Node.moving, hdot, splitLast]

theorem files_stat (h : AtTop w path name es x) :
    w.files.stat (w.absolute path) = (x.map Node.file).elim (.error .absent) .ok := by
  obtain ⟨habs, -, hsteps, ⟨-, hdot, hup⟩, hsize, hpath⟩ := h.fits
  rw [habs, Node.stat, if_neg (Nat.not_le.mpr hpath), hsteps, h.files, Node.locate, Node.climb]
  cases x with
  | none => simp [Node.lookup, h.entry, hdot, hup, Nat.not_lt.mpr hsize, bind, Except.bind]
  | some f =>
    simp [Node.lookup, Node.child?, Node.climb, h.entry, hdot, hup, Nat.not_lt.mpr hsize, bind, Except.bind]

theorem probe_eq (h : AtTop w path name es x) : w.probe path = .ok (x.map .file) := by
  obtain ⟨-, hnull, hsteps, -⟩ := h.fits
  have hempty : Node.stepsOf "" = [] := by decide +kernel
  have hne : path ≠ "" := by
    rintro rfl
    rw [hempty] at hsteps
    cases hsteps
  rw [probe, hnull, h.files_stat]
  cases x <;> simp [hne]

theorem stat_eq {f : File} (h : AtTop w path name es (some f)) : w.stat path = .ok (.file f) :=
  (stat_of_probe h.probe_eq).2

theorem place?_eq (h : AtTop w path name es x) : w.place? path = some [name] := by
  obtain ⟨-, -, -, ⟨hne, -, hup⟩, -⟩ := h.fits
  simp [place?, h.splitLast_eq, realPath?_top, hne, hup]

theorem makeParents_eq (h : AtTop w path name es x) : w.makeParents path = (true, w) := by
  rw [makeParents, h.splitLast_eq, makeDirs]

theorem placeText_eq (h : AtTop w path name es x) (text : String) : w.placeText path text = { w with
    files := .dir (Fields.put es name (.file ⟨textSize text, some text, w.nowNs⟩)) } := by
  obtain ⟨-, -, -, ⟨hne, -, hup⟩, hsize, -⟩ := h.fits
  have hinsert : ∀ n, Node.insert n [name] w.files = some (.dir (Fields.put es name n)) := fun n => by
    rw [h.files]
    rfl
  have hlookup : w.files.lookup [name] = x.map .file := by
    rw [h.files, ← h.entry]
    exact Option.bind_fun_some _
  unfold placeText
  rw [h.splitLast_eq]
  simp only [realPath?_top, List.nil_append, hlookup]
  cases x <;> simp [hne, hup, Nat.not_lt.mpr hsize, hinsert]

end AtTop

end World

end ShapeSearch
