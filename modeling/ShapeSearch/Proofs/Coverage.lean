import ShapeSearch.Proofs.Crawl
import ShapeSearch.Proofs.Settings

/-!
# Which files a crawl evaluates

A file is `Eligible` if names lead to it from the root through directories that can be listed and are not
skipped, no deeper than allowed, and its own name has an extension asked for and is not passed over.

With settings of the right kinds the files of a directory are those that `Leads` reaches:

    path ∈ Task.files p (.walk dir depth es) ↔ Leads ...                            (mem_files_walk)

A `Tour` is a run with the files that it evaluates, in order.  What it has evaluated and what the pending
tasks will evaluate stays the same up to order (`Tour.files_perm`), and what it has found are the candidates
of what it has evaluated (`Tour.haul_eq`).  So every complete crawl evaluates each eligible file once and no
other, and finds the safe candidates among them:

    path ∈ paths ↔ path leads to an eligible file                                 (collect_coverage)
-/

namespace ShapeSearch

namespace Survey

/-- The path that names lead to from a directory. -/
def pathTo (dir : String) (names : List String) : String :=
  names.foldl Path.join dir

/-- A file, or a link that leads to one. -/
def LeadsToFile (w : World) (path : String) : Node → Prop
  | .file _ => True
  | .link _ => (w.file? path).isSome = true
  | .dir _ => False

/-- Directories of a name are not to be entered. -/
def Skips (s : Settings) (name : String) : Prop :=
  ∃ xs, s.skipDirectories = .arr xs ∧ Json.str name ∈ xs

/-- Files of a name are to be looked at: the extension is asked for, and no glob of the language that owns
the extension fits. -/
structure Wanted (s : Settings) (language : Option String) (name : String) : Prop where
  extension : ∃ xs x, s.extensionsFor language = .ok xs ∧ Json.str x ∈ xs ∧
    Text.lower (Path.extension name) = Text.lower x
  kept : ∃ gs, s.skipPatternsFor (Text.lower (Path.extension name)) = .ok gs ∧
    ∀ g, Json.str g ∈ gs → Glob.fits g name = false

/-- A file below a directory that was found at a depth: directories lead to it, one after the other. -/
structure Eligible (s : Settings) (language : Option String) (w : World) (listable : String → Bool)
    (dir : String) (depth : Nat) (top : Node) (dirs : List String) (name : String) : Prop where
  shallow : ∃ most, s.maxDepth.numeric? = some (.int most) ∧ (depth + dirs.length : Int) ≤ max most depth
  entered : ∀ d ∈ dirs, ¬Skips s d
  directories : ∀ above, above <+: dirs → listable (pathTo dir above) = true ∧
    ∃ es, top.lookup above = some (.dir es)
  file : ∃ n, top.lookup (dirs ++ [name]) = some n ∧ LeadsToFile w (pathTo dir (dirs ++ [name])) n
  wanted : Wanted s language name

/-! ## Names and settings -/

theorem fitsAny_texts (name : String) (gs : List String) : ∃ b, fitsAny name (gs.map .str) = .ok b ∧
    (b = false ↔ ∀ g ∈ gs, Glob.fits g name = false) := by
  induction gs with
  | nil => exact ⟨false, rfl, by simp⟩
  | cons g gs ih =>
    obtain ⟨b, hb, hiff⟩ := ih
    rw [List.map_cons, fitsAny]
    cases hfits : Glob.fits g name with
    | true => exact ⟨true, rfl, by simp [hfits]⟩
    | false =>
      refine ⟨b, hb, hiff.trans ?_⟩
      simp [hfits]

theorem isListed_typed {p : Plan} {language : Option String} (hs : p.settings.Typed)
    (hp : Engine.searchedExtensions p.settings language = .ok p.extensions) (name : String) :
    ∃ b, isListed p name = .ok b ∧ (b = true ↔ Wanted p.settings language name) := by
  obtain ⟨xs, hxs⟩ := hs.extensionsFor_ok language
  have hext : p.extensions = xs.map Text.lower := by
    rw [Engine.searchedExtensions, bind_ok hxs, Settings.lowerItems_texts] at hp
    exact (Except.ok.inj hp).symm
  obtain ⟨gs, hgs⟩ := hs.skipPatternsFor_ok (Text.lower (Path.extension name))
  obtain ⟨b, hb, hfits⟩ := fitsAny_texts name gs
  -- both sides ask for an extension that is searched and for globs none of which fits
  have hwanted : Wanted p.settings language name ↔
      Text.lower (Path.extension name) ∈ p.extensions ∧ b = false := by
    rw [hfits, hext]
    constructor
    · rintro ⟨⟨xs', x, hxs', hmem, hx⟩, gs', hgs', hkept⟩
      cases hxs.symm.trans hxs'
      cases hgs.symm.trans hgs'
      refine ⟨?_, fun g hg => hkept g (List.mem_map_of_mem hg)⟩
      rw [hx]
      exact List.mem_map_of_mem (by simpa using hmem)
    · rintro ⟨hmem, hkept⟩
      obtain ⟨x, hx, heq⟩ := List.mem_map.mp hmem
      exact ⟨⟨_, x, hxs, List.mem_map_of_mem hx, heq.symm⟩, _, hgs, fun g hg => hkept g (by simpa using hg)⟩
  rw [hwanted]
  simp only [isListed, List.contains_iff_mem]
  split
  · next hc =>
    rw [bind_ok hgs, bind_ok hb]
    exact ⟨!b, rfl, by simp [hc]⟩
  · next hc => exact ⟨false, rfl, by simp [hc]⟩

theorem isEntered_typed {p : Plan} {most : Int} (hs : p.settings.Typed)
    (hm : p.settings.maxDepth.numeric? = some (.int most)) (name : String) (depth : Nat) :
    ∃ b, isEntered p name depth = .ok b ∧ (b = true ↔ ¬Skips p.settings name ∧ (depth : Int) < most) := by
  obtain ⟨xs, hxs⟩ := hs.skipDirectories
  have hholds : Settings.holds (some p.settings.skipDirectories) name =
      .ok (xs.any fun x => x.text? == some name) := by rw [hxs]; rfl
  have hskips : (xs.any fun x => x.text? == some name) = true ↔ Skips p.settings name := by
    rw [List.any_eq_true]
    constructor
    · rintro ⟨x, hx, htext⟩
      cases x <;> simp [Json.text?] at htext
      exact ⟨xs, hxs, htext ▸ hx⟩
    · rintro ⟨xs', hxs', hx⟩
      cases hxs.symm.trans hxs'
      exact ⟨_, hx, by simp [Json.text?]⟩
  unfold isEntered
  rw [bind_ok hholds, ← hskips]
  cases (xs.any fun x => x.text? == some name) with
  | true => exact ⟨false, rfl, by simp⟩
  | false =>
    rw [hm]
    exact ⟨_, rfl, by simp [Number.int_lt_int]⟩

/-! ## The files of a directory -/

/-- Names lead from the entries of a directory, through directories that are entered and can be listed, to a
file that is listed. -/
inductive Leads (p : Plan) : String → Nat → List (String × Node) → List String → String → Prop
  | file {dir : String} {depth : Nat} {es : List (String × Node)} {name : String} {n : Node} :
      (name, n) ∈ es → LeadsToFile p.world (Path.join dir name) n → isListed p name = .ok true →
      Leads p dir depth es [] name
  | down {dir : String} {depth : Nat} {es below : List (String × Node)} {d : String} {dirs : List String}
      {name : String} : (d, .dir below) ∈ es → isEntered p d depth = .ok true →
      p.listable (Path.join dir d) = true → Leads p (Path.join dir d) (depth + 1) below dirs name →
      Leads p dir depth es (d :: dirs) name

/-- The settings of a plan never fail on a name. -/
structure Plan.Fits (p : Plan) : Prop where
  listed : ∀ name, ∃ b, isListed p name = .ok b
  entered : ∀ name depth, ∃ b, isEntered p name depth = .ok b

variable {p : Plan} {dir d name : String} {depth : Nat} {es : List (String × Node)} {dirs : List String}

theorem visitOf_fits (hp : p.Fits) (dir name : String) : ∃ t, visitOf p dir name = .ok t ∧
    ∀ path, path ∈ t.toList.flatMap (Task.files p) ↔
      isListed p name = .ok true ∧ path = Path.join dir name := by
  obtain ⟨b, hb⟩ := hp.listed name
  rw [visitOf, bind_ok hb, hb]
  cases b with
  | false => exact ⟨none, rfl, by simp⟩
  | true => exact ⟨_, rfl, by simp [Task.files]⟩

/-- Every entry of a directory has a task or none, and the task ends in the files that the entry leads to. -/
theorem taskOf_fits (hp : p.Fits) (dir : String) (depth : Nat) (name : String) (n : Node) :
    ∃ t, taskOf p dir depth (name, n) = .ok t ∧ ∀ path, path ∈ t.toList.flatMap (Task.files p) ↔
      (LeadsToFile p.world (Path.join dir name) n ∧ isListed p name = .ok true ∧ path = Path.join dir name) ∨
      ∃ below, n = .dir below ∧ isEntered p name depth = .ok true ∧ p.listable (Path.join dir name) = true ∧
        path ∈ Task.files p (.walk (Path.join dir name) (depth + 1) below) := by
  obtain ⟨visit, hvisit, hfiles⟩ := visitOf_fits hp dir name
  cases n with
  | file f => exact ⟨visit, hvisit, by simp [hfiles, LeadsToFile]⟩
  | link target =>
    rw [taskOf]
    split
    · next hlink => exact ⟨visit, hvisit, by simp [hfiles, LeadsToFile, hlink]⟩
    · next hlink => exact ⟨none, rfl, by simp [LeadsToFile, hlink]⟩
  | dir below =>
    obtain ⟨b, hb⟩ := hp.entered name depth
    rw [taskOf, bind_ok hb, hb]
    cases b with
    | false => exact ⟨none, rfl, by simp [LeadsToFile]⟩
    | true =>
      refine ⟨_, rfl, fun path => ?_⟩
      cases hlist : p.listable (Path.join dir name) with
      | true => simp [LeadsToFile, Plan.listing, hlist]
      | false => simp [LeadsToFile, Plan.listing, hlist, Task.files, ofEntries, quiet]

theorem tasksOf_fits (hp : p.Fits) (dir : String) (depth : Nat) (es : List (String × Node)) :
    ∃ ts, tasksOf p dir depth es = .ok ts ∧ ∀ path, path ∈ ts.flatMap (Task.files p) ↔
      ∃ e ∈ es, ∃ t, taskOf p dir depth e = .ok t ∧ path ∈ t.toList.flatMap (Task.files p) := by
  induction es with
  | nil => exact ⟨[], rfl, by simp⟩
  | cons e es ih =>
    obtain ⟨ts, hts, hmem⟩ := ih
    obtain ⟨t, ht, -⟩ := taskOf_fits hp dir depth e.1 e.2
    refine ⟨t.toList ++ ts, by rw [tasksOf, bind_ok ht, bind_ok hts], fun path => ?_⟩
    rw [List.flatMap_append, List.mem_append, hmem]
    simp [ht]

theorem Leads.mem_files (hp : p.Fits) (h : Leads p dir depth es dirs name) :
    pathTo dir (dirs ++ [name]) ∈ Task.files p (.walk dir depth es) := by
  induction h with
  | @file dir depth es name n hmem hfile hlisted =>
    obtain ⟨ts, hts, hfiles⟩ := tasksOf_fits hp dir depth es
    obtain ⟨t, ht, hpath⟩ := taskOf_fits hp dir depth name n
    rw [Task.files_walk hts, hfiles]
    exact ⟨_, hmem, t, ht, (hpath _).mpr (.inl ⟨hfile, hlisted, rfl⟩)⟩
  | @down dir depth es below d dirs name hmem hentered hlist _ ih =>
    obtain ⟨ts, hts, hfiles⟩ := tasksOf_fits hp dir depth es
    obtain ⟨t, ht, hpath⟩ := taskOf_fits hp dir depth d (.dir below)
    rw [Task.files_walk hts, hfiles]
    exact ⟨_, hmem, t, ht, (hpath _).mpr (.inr ⟨below, rfl, hentered, hlist, ih⟩)⟩

theorem sizeOf_below {below : List (String × Node)} (h : (d, Node.dir below) ∈ es) :
    sizeOf below < sizeOf es := by
  have hlt := List.sizeOf_lt_of_mem h
  simp only [Prod.mk.sizeOf_spec, Node.dir.sizeOf_spec] at hlt
  omega

theorem exists_leads (hp : p.Fits) (dir : String) (depth : Nat) (es : List (String × Node)) (path : String)
    (h : path ∈ Task.files p (.walk dir depth es)) :
    ∃ dirs name, Leads p dir depth es dirs name ∧ path = pathTo dir (dirs ++ [name]) := by
  obtain ⟨ts, hts, hfiles⟩ := tasksOf_fits hp dir depth es
  rw [Task.files_walk hts, hfiles] at h
  obtain ⟨⟨name, n⟩, hmem, t, ht, hpath⟩ := h
  obtain ⟨t', ht', hiff⟩ := taskOf_fits hp dir depth name n
  cases ht.symm.trans ht'
  rcases (hiff path).mp hpath with ⟨hfile, hlisted, rfl⟩ | ⟨below, rfl, hentered, hlist, hbelow⟩
  · exact ⟨[], name, .file hmem hfile hlisted, rfl⟩
  · have hlt := sizeOf_below hmem
    obtain ⟨dirs, last, hleads, rfl⟩ := exists_leads hp (Path.join dir name) (depth + 1) below path hbelow
    exact ⟨name :: dirs, last, .down hmem hentered hlist hleads, rfl⟩
termination_by sizeOf es
decreasing_by exact hlt

/-- The files of a directory are those that names lead to. -/
theorem mem_files_walk (hp : p.Fits) {path : String} : path ∈ Task.files p (.walk dir depth es) ↔
      ∃ dirs name, Leads p dir depth es dirs name ∧ path = pathTo dir (dirs ++ [name]) := by
  refine ⟨exists_leads hp dir depth es path, ?_⟩
  rintro ⟨dirs, name, hleads, rfl⟩
  exact hleads.mem_files hp

/-! ## What leads to a file -/

section Eligible

variable {language : Option String} {most : Int}

theorem isEntered_iff (hs : p.settings.Typed)
    (hm : p.settings.maxDepth.numeric? = some (.int most)) (name : String) (depth : Nat) :
    isEntered p name depth = .ok true ↔ ¬Skips p.settings name ∧ (depth : Int) < most := by
  obtain ⟨b, hb, hiff⟩ := isEntered_typed hs hm name depth
  rw [hb, ← hiff, Except.ok.injEq]

/-- A file is eligible from a directory if it is from the next directory on the way, and that one is
entered and can be listed. -/
theorem eligible_cons_iff {s : Settings} {w : World} {listable : String → Bool}
    (hm : s.maxDepth.numeric? = some (.int most)) (hlist : listable dir) :
    Eligible s language w listable dir depth (.dir es) (d :: dirs) name ↔
      ∃ below, Fields.get? es d = some (.dir below) ∧ ¬Skips s d ∧ (depth : Int) < most ∧
        Eligible s language w listable (Path.join dir d) (depth + 1) (.dir below) dirs name := by
  have hlookup : ∀ {below}, Fields.get? es d = some below → ∀ names,
      (Node.dir es).lookup (d :: names) = below.lookup names := by
    intro below hget names
    rw [Node.lookup, Node.child?, hget]
    rfl
  constructor
  · rintro ⟨⟨most', hm', hshallow⟩, hentered, hdirs, hfile, hwanted⟩
    cases hm.symm.trans hm'
    obtain ⟨-, below, hbelow⟩ := hdirs [d] (by simp)
    have hget : Fields.get? es d = some (.dir below) := by simpa [Node.lookup, Node.child?] using hbelow
    rw [List.forall_mem_cons] at hentered
    rw [List.length_cons] at hshallow
    refine ⟨below, hget, hentered.1, by omega, ⟨most, hm, by omega⟩, hentered.2, ?_, ?_, hwanted⟩
    · intro above habove
      have := hdirs (d :: above) (List.cons_prefix_cons.mpr ⟨rfl, habove⟩)
      rwa [hlookup hget] at this
    · rwa [List.cons_append, hlookup hget] at hfile
  · rintro ⟨below, hget, hskip, hdepth, ⟨most', hm', hshallow⟩, hentered, hdirs, hfile, hwanted⟩
    cases hm.symm.trans hm'
    refine ⟨⟨most, hm, ?_⟩, List.forall_mem_cons.mpr ⟨hskip, hentered⟩, ?_, ?_, hwanted⟩
    · rw [List.length_cons]
      omega
    · intro above habove
      rcases List.prefix_cons_iff.mp habove with rfl | ⟨rest, rfl, hrest⟩
      · exact ⟨hlist, es, rfl⟩
      · rw [hlookup hget]
        exact hdirs rest hrest
    · rwa [List.cons_append, hlookup hget]

variable (hs : p.settings.Typed) (hx : Engine.searchedExtensions p.settings language = .ok p.extensions)

include hs hx

theorem fits_of_typed : p.Fits := by
  obtain ⟨most, hm⟩ := hs.maxDepth
  constructor
  · intro name
    obtain ⟨b, hb, -⟩ := isListed_typed hs hx name
    exact ⟨b, hb⟩
  · intro name depth
    obtain ⟨b, hb, -⟩ := isEntered_typed hs hm name depth
    exact ⟨b, hb⟩

theorem isListed_iff (name : String) : isListed p name = .ok true ↔ Wanted p.settings language name := by
  obtain ⟨b, hb, hiff⟩ := isListed_typed hs hx name
  rw [hb, ← hiff, Except.ok.injEq]

theorem leads_nil_iff (depth : Nat) (hw : (Node.dir es).WellFormed) (hlist : p.listable dir) :
    Leads p dir depth es [] name ↔
      Eligible p.settings language p.world p.listable dir depth (.dir es) [] name := by
  rw [Node.WellFormed] at hw
  obtain ⟨most, hm⟩ := hs.maxDepth
  constructor
  · rintro ⟨hmem, hfile, hlisted⟩
    refine ⟨⟨most, hm, by simp⟩, by simp, ?_, ?_, (isListed_iff hs hx name).mp hlisted⟩
    · intro above habove
      rw [List.prefix_nil.mp habove]
      exact ⟨hlist, es, rfl⟩
    · have hget := (Fields.get?_eq_some_iff hw.1).mpr hmem
      exact ⟨_, by simp [Node.lookup, Node.child?, hget], hfile⟩
  · rintro ⟨-, -, -, ⟨n, hn, hfile⟩, hwanted⟩
    have hget : Fields.get? es name = some n := by simpa [Node.lookup, Node.child?] using hn
    exact .file (Fields.mem_of_get? hget) hfile ((isListed_iff hs hx name).mpr hwanted)

/-- What names lead to is eligible, and the other way round. -/
theorem leads_iff :
    ∀ (dirs : List String) (dir : String) (depth : Nat) (es : List (String × Node)),
      (Node.dir es).WellFormed → p.listable dir = true → (Leads p dir depth es dirs name ↔
        Eligible p.settings language p.world p.listable dir depth (.dir es) dirs name) := by
  obtain ⟨most, hm⟩ := hs.maxDepth
  intro dirs
  induction dirs with
  | nil => exact fun dir depth es hw hlist => leads_nil_iff hs hx depth hw hlist
  | cons d dirs ih =>
    intro dir depth es hw hlist
    rw [eligible_cons_iff hm hlist]
    have hbelow : ∀ {below}, (d, Node.dir below) ∈ es → (Node.dir below).WellFormed := by
      intro below hmem
      rw [Node.WellFormed] at hw
      exact (hw.2.mem hmem).2
    constructor
    · intro hleads
      cases hleads with
      | down hmem hentered hopen hleads =>
        obtain ⟨hskip, hdepth⟩ := (isEntered_iff hs hm d depth).mp hentered
        rw [ih _ _ _ (hbelow hmem) hopen] at hleads
        rw [Node.WellFormed] at hw
        exact ⟨_, (Fields.get?_eq_some_iff hw.1).mpr hmem, hskip, hdepth, hleads⟩
    · rintro ⟨below, hget, hskip, hdepth, heligible⟩
      have hmem := Fields.mem_of_get? hget
      have hopen : p.listable (Path.join dir d) = true := (heligible.directories [] (List.nil_prefix)).1
      exact .down hmem ((isEntered_iff hs hm d depth).mpr ⟨hskip, hdepth⟩) hopen
        ((ih _ _ _ (hbelow hmem) hopen).mpr heligible)

end Eligible

end Survey

namespace Crawl

open Survey Engine

variable {a : Aim} {s t : State} {paths : List String} {root : String} {h : Haul} {es : List (String × Node)}

/-! ## Runs and what they evaluate -/

/-- Tasks complete one after the other, and these are the paths of the files that are evaluated. -/
inductive Tour (a : Aim) : State → List String → State → Prop
  | refl (s : State) : Tour a s [] s
  | visit (before after : List Task) (path : String) (h : Haul) {paths : List String} {t : State} :
      Tour a ⟨before ++ after, a.visit h path⟩ paths t →
      Tour a ⟨before ++ .visit path :: after, h⟩ (path :: paths) t
  | walk (before after : List Task) (dir : String) (depth : Nat) {es listing : List (String × Node)}
      {ts : List Task} (h : Haul) {paths : List String} {t : State} : es.Perm listing →
      tasksOf a.plan dir depth listing = .ok ts → Tour a ⟨before ++ ts ++ after, h⟩ paths t →
      Tour a ⟨before ++ .walk dir depth es :: after, h⟩ paths t
  | skip (before after : List Task) (dir : String) (depth : Nat) {es listing : List (String × Node)}
      {m : Misfit} (h : Haul) {paths : List String} {t : State} : es.Perm listing →
      tasksOf a.plan dir depth listing = .error m → Tour a ⟨before ++ after, h⟩ paths t →
      Tour a ⟨before ++ .walk dir depth es :: after, h⟩ paths t

theorem Run.exists_tour (h : Run a s t) : ∃ paths, Tour a s paths t := by
  induction h with
  | refl s => exact ⟨[], .refl s⟩
  | step hs _ ih =>
    obtain ⟨paths, htour⟩ := ih
    cases hs with
    | visit before after path h => exact ⟨_, .visit before after path h htour⟩
    | walk before after dir depth h hp hts => exact ⟨_, .walk before after dir depth h hp hts htour⟩
    | skip before after dir depth h hp hts => exact ⟨_, .skip before after dir depth h hp hts htour⟩

theorem Tour.haul_eq (h : Tour a s paths t) : t.haul = paths.foldl a.visit s.haul := by
  induction h with
  | refl s => rfl
  | visit _ _ _ _ _ ih => exact ih
  | walk _ _ _ _ _ _ _ _ ih => exact ih
  | skip _ _ _ _ _ _ _ _ ih => exact ih

/-- What has been evaluated and what the pending tasks will evaluate stays the same. -/
theorem Tour.files_perm (h : Tour a s paths t) :
    (s.pending.flatMap (Task.files a.plan)).Perm (paths ++ t.pending.flatMap (Task.files a.plan)) := by
  induction h with
  | refl s => exact .refl _
  | visit before after path h _ ih =>
    simp only [List.flatMap_append, List.flatMap_cons, Task.files, List.singleton_append] at ih ⊢
    exact List.perm_middle.trans (ih.cons path)
  | walk before after dir depth h hp hts _ ih =>
    refine List.Perm.trans ?_ ih
    simp only [List.flatMap_append, List.flatMap_cons, List.append_assoc]
    exact List.Perm.append_left _ (List.Perm.append_right _ (files_walk_perm hp hts))
  | skip before after dir depth h hp hts _ ih =>
    refine List.Perm.trans ?_ ih
    simp [files_walk_nil hp hts]

theorem candidates_foldl (a : Aim) (paths : List String) (h : Haul) :
    (paths.foldl a.visit h).candidates = h.candidates ++ paths.flatMap a.candidates := by
  induction paths generalizing h with
  | nil => simp
  | cons path paths ih => rw [List.foldl_cons, ih, candidates_visit, List.flatMap_cons, List.append_assoc]

/-- A complete crawl from a root: what it evaluates, one after the other, and what it finds. -/
inductive Crawls (a : Aim) (root : String) : List String → Haul → Prop
  | absent : (∀ es, a.plan.world.stat? root ≠ some (.dir es)) → Crawls a root [] {}
  | done {es listing : List (String × Node)} {ts : List Task} {paths : List String} {h : Haul} :
      a.plan.world.stat? root = some (.dir es) → (a.plan.listing root es).Perm listing →
      tasksOf a.plan root 0 listing = .ok ts → Tour a ⟨ts, {}⟩ paths ⟨[], h⟩ → Crawls a root paths h

theorem Crawls.candidates_eq (hc : Crawls a root paths h) : h.candidates = paths.flatMap a.candidates := by
  cases hc with
  | absent _ => rfl
  | done _ _ _ htour =>
    have hhaul : h = paths.foldl a.visit {} := htour.haul_eq
    rw [hhaul, candidates_foldl]
    rfl

theorem Crawls.paths_perm (hc : Crawls a root paths h) (hroot : a.plan.world.stat? root = some (.dir es)) :
    paths.Perm (Task.files a.plan (.walk root 0 (a.plan.listing root es))) := by
  cases hc with
  | absent ha => exact absurd hroot (ha es)
  | done hs hp hts htour =>
    cases hroot.symm.trans hs
    have hfiles : (_ : List String).Perm (paths ++ []) := htour.files_perm
    rw [List.append_nil] at hfiles
    exact hfiles.symm.trans (files_walk_perm hp hts).symm

/-! ## Coverage -/

/-- Each eligible file is evaluated once and no other; the candidates that are safe are found, or all of
them if unsafe ones are asked for, with a mark on each that tells. -/
structure Covers (a : Aim) (root : String) (paths : List String) (found : List Candidate) : Prop where
  once : paths.Nodup
  eligible : ∀ path, path ∈ paths ↔ ∃ top dirs name, a.plan.world.stat? root = some top ∧
    Eligible a.plan.settings a.signature.language a.plan.world a.plan.listable root 0 top dirs name ∧
    path = pathTo root (dirs ++ [name])
  distinct : (found.map (·.path)).Nodup
  candidates : ∀ c, c ∈ found ↔ ∃ path ∈ paths, ∃ d safe,
    a.evaluator.evaluate a.plan.world path a.signature = .ok (some d) ∧
    (safe = true ↔ Safety.Safe a.plan.settings d.content) ∧ (safe = true ∨ a.includeUnsafe = true) ∧
    c = { d with safe }

/-- A path gives the candidate that is at it, unless it is unsafe and unsafe ones are not asked for. -/
theorem mem_candidates_iff (hs : ∃ ts, a.evaluator.settings.blockedTokens = .ofTexts ts) (path : String)
    (c : Candidate) : c ∈ a.candidates path ↔ ∃ d safe,
      a.evaluator.evaluate a.plan.world path a.signature = .ok (some d) ∧
      (safe = true ↔ Safety.Safe a.evaluator.settings d.content) ∧
      (safe = true ∨ a.includeUnsafe = true) ∧ c = { d with safe } := by
  rw [Aim.candidates, Aim.visit, mem_addCandidate, or_iff_right List.not_mem_nil]
  refine exists_congr fun d => exists_congr fun safe => and_congr_right fun _ => and_congr_left fun _ => ?_
  obtain ⟨b, hb, hsafe⟩ := Safety.isSafe_typed hs d.content
  rw [hb, ← hsafe]
  cases b <;> cases safe <;> simp

theorem nodup_files {p : Plan} (hp : p.Fits) (hw : (Node.dir es).WellFormed) :
    (Task.files p (.walk root 0 (p.listing root es))).Nodup := by
  obtain ⟨hnames, hentries⟩ := wellFormed_listing p root hw
  obtain ⟨ts, hts, -⟩ := tasksOf_fits hp root 0 (p.listing root es)
  rw [Task.files_walk hts]
  exact (spread_tasksOf p root 0 _ ts hnames hentries hts).nodup

theorem mem_files_iff {p : Plan} {language : Option String} {path : String} (hs : p.settings.Typed)
    (hx : searchedExtensions p.settings language = .ok p.extensions) (hw : (Node.dir es).WellFormed) :
    path ∈ Task.files p (.walk root 0 (p.listing root es)) ↔
      ∃ dirs name, Eligible p.settings language p.world p.listable root 0 (.dir es) dirs name ∧
        path = pathTo root (dirs ++ [name]) := by
  rw [mem_files_walk (fits_of_typed hs hx)]
  cases hlist : p.listable root with
  | true =>
    rw [Plan.listing, if_pos hlist]
    simp only [leads_iff hs hx _ root 0 es hw hlist]
  | false =>
    rw [Plan.listing, if_neg (by simp [hlist])]
    constructor
    · rintro ⟨_, _, hleads, -⟩
      cases hleads with
      | file hmem _ _ => cases hmem
      | down hmem _ _ _ => cases hmem
    · rintro ⟨_, _, heligible, -⟩
      have hroot := (heligible.directories [] List.nil_prefix).1
      cases hlist.symm.trans hroot

/-- Every complete crawl covers what is below the root. -/
theorem Crawls.covers (hc : Crawls a root paths h) (hs : a.plan.settings.Typed)
    (hev : a.evaluator.settings = a.plan.settings)
    (hx : searchedExtensions a.plan.settings a.signature.language = .ok a.plan.extensions)
    (hw : a.plan.world.files.WellFormed) : Covers a root paths h.candidates := by
  have hvisited : paths.Nodup ∧ ∀ path, path ∈ paths ↔ ∃ top dirs name,
      a.plan.world.stat? root = some top ∧
      Eligible a.plan.settings a.signature.language a.plan.world a.plan.listable root 0 top dirs name ∧
      path = pathTo root (dirs ++ [name]) := by
    by_cases hroot : ∃ es, a.plan.world.stat? root = some (.dir es)
    · obtain ⟨es, hroot⟩ := hroot
      have hperm := hc.paths_perm hroot
      have hdir := hw.stat (stat_of_stat? hroot)
      refine ⟨hperm.nodup_iff.mpr (nodup_files (fits_of_typed hs hx) hdir), fun path => ?_⟩
      rw [hperm.mem_iff, mem_files_iff hs hx hdir, hroot]
      simp
    · -- nothing is eligible from a root that is no directory
      cases hc with
      | done hes _ _ _ => exact absurd ⟨_, hes⟩ hroot
      | absent _ =>
        refine ⟨List.nodup_nil, fun path => ⟨fun hmem => (by cases hmem), ?_⟩⟩
        rintro ⟨top, dirs, name, htop, heligible, -⟩
        obtain ⟨-, es, hes⟩ := heligible.directories [] List.nil_prefix
        cases hes
        exact absurd ⟨es, htop⟩ hroot
  refine ⟨hvisited.1, hvisited.2, ?_, fun c => ?_⟩
  · rw [hc.candidates_eq]
    exact paths_nodup hvisited.1
  · rw [hc.candidates_eq, List.mem_flatMap]
    have hblocked : ∃ ts, a.evaluator.settings.blockedTokens = .ofTexts ts := hev ▸ hs.blockedTokens
    simp only [mem_candidates_iff hblocked, hev]

/-- What can be collected is what a complete crawl finds. -/
theorem Collects.exists_crawls {o : Except Misfit (List Candidate)} (hc : Collects a root o) (hp : a.plan.Fits) :
    ∃ paths h, Crawls a root paths h ∧ o = .ok h.candidates := by
  cases hc with
  | absent ha => exact ⟨[], {}, .absent ha, rfl⟩
  | @fails es listing m hs hperm herror =>
    obtain ⟨ts, hts, -⟩ := tasksOf_fits hp root 0 listing
    cases herror.symm.trans hts
  | done hs hperm hts hrun =>
    obtain ⟨paths, htour⟩ := hrun.exists_tour
    exact ⟨paths, _, .done hs hperm hts htour, rfl⟩

/-- A crawl can be completed. -/
theorem exists_crawls (a : Aim) (root : String) (hp : a.plan.Fits) : ∃ paths h, Crawls a root paths h := by
  by_cases hroot : ∃ es, a.plan.world.stat? root = some (.dir es)
  · obtain ⟨es, hroot⟩ := hroot
    obtain ⟨ts, hts, -⟩ := tasksOf_fits hp root 0 (a.plan.listing root es)
    have hrun := run_tasksOf a root 0 _ ts [] {} hts
    rw [List.append_nil] at hrun
    obtain ⟨paths, htour⟩ := hrun.exists_tour
    exact ⟨paths, _, .done hroot (.refl _) hts htour⟩
  · exact ⟨[], {}, .absent fun es hes => hroot ⟨es, hes⟩⟩

/-- A crawl evaluates exactly the eligible files, each of them once.  Whatever the order in which directories
are listed and files are evaluated, and whichever directories can be listed, the crawl can be completed,
and it then covers what is below the root; the engine collects what one of these crawls finds. -/
theorem collect_coverage (e : Engine) (w : World) (sig : Signature) (includeUnsafe : Bool)
    (hs : e.settings.Typed) (hw : w.files.WellFormed) :
    ∃ extensions, searchedExtensions e.settings sig.language = .ok extensions ∧
      (∀ (listable : String → Bool) (ev : Evaluator), ev.settings = e.settings →
        let a : Aim := ⟨⟨w, e.settings, extensions, listable⟩, ev, sig, includeUnsafe⟩
        (∃ paths h, Crawls a e.root paths h) ∧
        ∀ paths h, Crawls a e.root paths h → Covers a e.root paths h.candidates) ∧
      ∃ paths h, Crawls (aimOf e e.evaluator w sig includeUnsafe extensions) e.root paths h ∧
        (e.collect w sig includeUnsafe).1 = .ok h.candidates := by
  obtain ⟨xs, hxs⟩ := hs.extensionsFor_ok sig.language
  have hx : searchedExtensions e.settings sig.language = .ok (xs.map Text.lower) := by
    rw [searchedExtensions, bind_ok hxs, Settings.lowerItems_texts]
  refine ⟨_, hx, fun listable ev hev => ?_, ?_⟩
  · exact ⟨exists_crawls _ _ (fits_of_typed hs hx), fun paths h hc => hc.covers hs hev hx hw⟩
  · have hcollects := collect_collects e w sig includeUnsafe
    generalize (e.collect w sig includeUnsafe).1 = o at hcollects ⊢
    cases hcollects with
    | misfit hm => cases hm.symm.trans hx
    | crawled hok hc =>
      cases hx.symm.trans hok
      exact hc.exists_crawls (fits_of_typed hs hx)

/-- A file and a link to it in a directory, beside a directory that is skipped. -/
def nestedFiles : World :=
  { files := .dir [("src", .dir [("a.py", .file ⟨0, some "", 0⟩), ("b.py", .link "a.py")]),
      ("dist", .dir [("c.py", .file ⟨0, some "", 0⟩)])] }

theorem eligible_nested {name : String} (h : name = "a.py" ∨ name = "b.py") :
    Eligible {} none nestedFiles (fun path => decide (path.utf8ByteSize < pathLimit)) "/" 0 nestedFiles.files
      ["src"] name where
  shallow := ⟨10, rfl, by decide⟩
  entered := by
    rintro d hd ⟨xs, hxs, hmem⟩
    cases List.mem_singleton.mp hd
    cases hxs
    simp [Defaults.skipDirectories] at hmem
  directories := by
    intro above habove
    rcases List.prefix_cons_iff.mp habove with rfl | ⟨rest, rfl, hrest⟩
    · exact ⟨by decide, _, rfl⟩
    · rw [List.prefix_nil.mp hrest]
      exact ⟨by decide, _, rfl⟩
  file := by
    rcases h with rfl | rfl
    · exact ⟨_, rfl, trivial⟩
    · have hlink : (nestedFiles.file? (pathTo "/" ["src", "b.py"])).isSome = true := by decide +kernel
      exact ⟨.link "a.py", rfl, hlink⟩
  wanted := by
    have hextension : Text.lower (Path.extension name) = Text.lower ".py" := by
      rcases h with rfl | rfl <;> decide +kernel
    have hpy : ".py" ∈ Defaults.extensions.map Text.lower := by decide +kernel
    have hglobs : ∀ gs, ({} : Settings).skipPatternsFor (Text.lower ".py") = .ok gs →
        ∀ g, Json.str g ∈ gs → Glob.fits g name = false := by
      have hnone : (({} : Settings).skipPatternsFor (Text.lower ".py")).toOption.all (fun gs => gs.all fun v =>
          v.text?.all fun g => !Glob.fits g "a.py" && !Glob.fits g "b.py") = true := by decide +kernel
      intro gs hgs g hg
      rw [hgs, Except.toOption, Option.all_some, List.all_eq_true] at hnone
      have hfits := hnone _ hg
      rw [Json.text?, Option.all_some] at hfits
      rcases h with rfl | rfl <;> simp_all
    obtain ⟨gs, hgs⟩ := Settings.typed_default.skipPatternsFor_ok (Text.lower ".py")
    exact ⟨⟨_, ".py", rfl, List.mem_map_of_mem hpy, hextension⟩, _, by rw [hextension, hgs], hglobs _ hgs⟩

theorem stat?_nested : nestedFiles.stat? "/" = some nestedFiles.files := by
  have hsteps : Node.stepsOf "/" = ["."] := by decide +kernel
  have habs : nestedFiles.absolute "/" = "/" := by decide +kernel
  have hnull : World.hasNull "/" = false := by decide +kernel
  have hpath : ¬pathLimit ≤ "/".utf8ByteSize := by decide +kernel
  rw [World.stat?, World.stat, hnull, habs, Node.stat]
  simp [hpath, hsteps, nestedFiles, Node.locate, Node.climb, Node.lookup, bind, Except.bind, Except.mapError,
    Except.toOption]

/-- The file and the link are evaluated in every complete crawl. -/
theorem collect_nested_files :
    Ranking.plainEngine.settings.Typed ∧ nestedFiles.files.WellFormed ∧
      ∃ extensions, searchedExtensions Ranking.plainEngine.settings none = .ok extensions ∧
        ∀ paths h, Crawls (aimOf Ranking.plainEngine Ranking.plainEngine.evaluator nestedFiles
            Ranking.storeSignature false extensions) "/" paths h →
          "/src/a.py" ∈ paths ∧ "/src/b.py" ∈ paths ∧ paths.Nodup := by
  have hw : nestedFiles.files.WellFormed := by
    simp [nestedFiles, Node.WellFormed, Node.WellFormedEntries, IsEntryName]
  obtain ⟨extensions, hx, hcrawls, -⟩ :=
    collect_coverage Ranking.plainEngine nestedFiles Ranking.storeSignature false Settings.typed_default hw
  refine ⟨Settings.typed_default, hw, extensions, hx, fun paths h hc => ?_⟩
  have hcovers := (hcrawls _ Ranking.plainEngine.evaluator rfl).2 paths h hc
  refine ⟨(hcovers.eligible _).mpr ⟨nestedFiles.files, ["src"], "a.py", ?_, ?_, ?_⟩,
    (hcovers.eligible _).mpr ⟨nestedFiles.files, ["src"], "b.py", ?_, ?_, ?_⟩, hcovers.once⟩
  · exact stat?_nested
  · exact eligible_nested (.inl rfl)
  · decide +kernel
  · exact stat?_nested
  · exact eligible_nested (.inr rfl)
  · decide +kernel

end Crawl

end ShapeSearch
