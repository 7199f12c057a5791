import Mathlib.Data.List.Nodup
import ShapeSearch.Discovery.Survey
import ShapeSearch.Proofs.Fields

/-!
# The paths that a survey lists

Listing a directory leaves tasks: directories to walk and files to visit (`tasksOf`).  The survey of the
directory lists the files of these tasks (`tasksOf_agrees`), and but for their order the tasks do not
depend on the order in which the directory is listed (`tasksOf_perm`).

In a tree of files the names in a directory differ and hold no slash (`Node.WellFormed`).  Then the tasks
never visit a path twice (`spread_tasksOf`): everything below an entry starts with the path of the
directory, goes on with the name of the entry, and there ends or has a slash (`Below`).
-/

namespace ShapeSearch

/-! ## Well-formed trees -/

/-- A name that an entry of a directory can have. -/
def IsEntryName (name : String) : Prop :=
  name ≠ "" ∧ '/' ∉ name.toList

namespace Node

mutual
/-- The names in every directory differ, and each of them can be the name of an entry. -/
def WellFormed : Node → Prop
  | .file _ => True
  | .link _ => True
  | .dir es => (es.map (·.1)).Nodup ∧ WellFormedEntries es

/-- `WellFormed` on the entries of a directory, one by one. -/
def WellFormedEntries : List (String × Node) → Prop
  | [] => True
  | (name, n) :: r => IsEntryName name ∧ WellFormed n ∧ WellFormedEntries r
end

theorem WellFormedEntries.mem {es : List (String × Node)} (h : WellFormedEntries es) {name : String}
    {n : Node} (hm : (name, n) ∈ es) : IsEntryName name ∧ WellFormed n := by
  induction es with
  | nil => cases hm
  | cons e r ih =>
    obtain ⟨name', n'⟩ := e
    rw [WellFormedEntries] at h
    rcases List.mem_cons.mp hm with he | hm
    · cases he
      exact ⟨h.1, h.2.1⟩
    · exact ih h.2.2 hm

theorem WellFormed.lookup {parts : List String} :
    ∀ {n m : Node}, n.WellFormed → Node.lookup parts n = some m → m.WellFormed := by
  induction parts with
  | nil =>
    intro n m h hl
    cases hl
    exact h
  | cons name r ih =>
    intro n m h hl
    cases n with
    | file f => cases hl
    | link t => cases hl
    | dir es =>
      simp only [Node.lookup, Node.child?, Option.bind_eq_some_iff] at hl
      obtain ⟨c, hc, hl⟩ := hl
      rw [WellFormed] at h
      exact ih (h.2.mem (Fields.mem_of_get? hc)).2 hl

theorem WellFormed.stat {n m : Node} {path : String} (h : n.WellFormed) (hs : n.stat path = .ok m) :
    m.WellFormed := by
  unfold Node.stat at hs
  split at hs
  · cases hs
  · simp only [bind, Except.bind] at hs
    split at hs
    · cases hs
    · split at hs
      · next hl =>
        cases hs
        exact h.lookup hl
      · cases hs

end Node

namespace Survey

variable {p : Plan} {dir name : String} {es : List (String × Node)}

/-! ## What is left to do after a directory has been listed -/

/-- A directory to be walked, found at a depth, or a file to be visited. -/
inductive Task where
  | walk (dir : String) (depth : Nat) (entries : List (String × Node))
  | visit (path : String)

def visitOf (p : Plan) (dir name : String) : Except Misfit (Option Task) := do
  .ok (if ← isListed p name then some (.visit (Path.join dir name)) else none)

def taskOf (p : Plan) (dir : String) (depth : Nat) : String × Node → Except Misfit (Option Task)
  | (name, .file _) => visitOf p dir name
  | (name, .link _) =>
    if (p.world.file? (Path.join dir name)).isSome then visitOf p dir name else .ok none
  | (name, .dir es) => do
    let path := Path.join dir name
    .ok (if ← isEntered p name depth then some (.walk path (depth + 1) (p.listing path es)) else none)

/-- The tasks for the entries of a directory in the order in which they are listed. -/
def tasksOf (p : Plan) (dir : String) (depth : Nat) :
    List (String × Node) → Except Misfit (List Task)
  | [] => .ok []
  | e :: r => do
    let t ← taskOf p dir depth e
    let ts ← tasksOf p dir depth r
    .ok (t.toList ++ ts)

def Task.files (p : Plan) : Task → List String
  | .walk dir depth es => (quiet (ofEntries p dir depth es)).files
  | .visit path => [path]

/-- Tasks and a survey agree: both fail for the same reason, or the survey lists the files of the tasks. -/
inductive Agrees (p : Plan) : Except Misfit (List Task) → Except (Nat × Misfit) Survey → Prop
  | fails (m : Misfit) (n : Nat) : Agrees p (.error m) (.error (n, m))
  | lists (ts : List Task) (s : Survey) : s.files = ts.flatMap (Task.files p) → Agrees p (.ok ts) (.ok s)

theorem Agrees.addFile {ts : Except Misfit (List Task)} {s : Except (Nat × Misfit) Survey} (h : Agrees p ts s) :
    Agrees p ((visitOf p dir name).bind fun t => ts.bind fun ts => .ok (t.toList ++ ts))
      (addFile p dir name s) := by
  unfold visitOf Survey.addFile
  cases isListed p name with
  | error m => exact .fails m 1
  | ok listed =>
    cases h with
    | fails m n => exact .fails m (n + 1)
    | lists ts s hf =>
      refine .lists _ _ ?_
      cases listed <;> simp [Task.files, hf]

/-- Listing a directory leaves tasks, and the survey of it lists what they visit. -/
theorem tasksOf_agrees (p : Plan) (dir : String) (depth : Nat) (es : List (String × Node)) :
    Agrees p (tasksOf p dir depth es) (ofEntries p dir depth es) := by
  induction es with
  | nil =>
    rw [ofEntries]
    exact .lists [] {} rfl
  | cons e r ih =>
    obtain ⟨name, node⟩ := e
    rw [ofEntries]
    show Agrees p ((taskOf p dir depth (name, node)).bind fun t =>
      (tasksOf p dir depth r).bind fun ts => .ok (t.toList ++ ts)) _
    generalize tasksOf p dir depth r = ts at ih ⊢
    generalize ofEntries p dir depth r = s at ih ⊢
    cases node with
    | file f =>
      rw [ofEntry]
      exact ih.addFile
    | link t =>
      rw [ofEntry, taskOf]
      split
      · exact ih.addFile
      · cases ih with
        | fails m n => exact .fails m n
        | lists ts s hf => exact .lists ts s hf
    | dir es =>
      unfold ofEntry
      rw [taskOf]
      cases isEntered p name depth with
      | error m => exact .fails m 0
      | ok entered =>
        cases ih with
        | fails m n => cases entered <;> exact .fails m n
        | lists ts s hf =>
          cases entered with
          | false => exact .lists _ s (by simp [hf])
          | true =>
            refine .lists _ _ ?_
            unfold Plan.listing
            split <;> simp [join, Task.files, hf, ofEntries, quiet]

/-- Walking a directory visits the files of the tasks that it leaves, and none if it cannot be listed. -/
theorem Task.files_walk_eq (p : Plan) (dir : String) (depth : Nat) (es : List (String × Node)) :
    Task.files p (.walk dir depth es) =
      ((tasksOf p dir depth es).toOption.getD []).flatMap (Task.files p) := by
  have ha := tasksOf_agrees p dir depth es
  rw [Task.files]
  generalize tasksOf p dir depth es = tasks at ha ⊢
  generalize ofEntries p dir depth es = out at ha ⊢
  cases ha with
  | fails m n => rfl
  | lists ts s hf => exact hf

theorem Task.files_walk {depth : Nat} {ts : List Task} (h : tasksOf p dir depth es = .ok ts) :
    Task.files p (.walk dir depth es) = ts.flatMap (Task.files p) := by
  rw [files_walk_eq, h]
  rfl

/-- Whether a directory can be listed does not depend on the order of its entries, and neither do the
tasks that it leaves. -/
theorem tasksOf_perm (p : Plan) (dir : String) (depth : Nat) {es' : List (String × Node)} (h : es.Perm es') :
    (∃ m m', tasksOf p dir depth es = .error m ∧ tasksOf p dir depth es' = .error m') ∨
      ∃ ts ts', tasksOf p dir depth es = .ok ts ∧ tasksOf p dir depth es' = .ok ts' ∧
        ts.Perm ts' := by
  induction h with
  | nil => exact .inr ⟨[], [], rfl, rfl, .nil⟩
  | cons e _ ih =>
    simp only [tasksOf, bind, Except.bind]
    cases taskOf p dir depth e with
    | error m => exact .inl ⟨m, m, rfl, rfl⟩
    | ok t =>
      rcases ih with ⟨m, m', h, h'⟩ | ⟨ts, ts', h, h', hp⟩
      · exact .inl ⟨m, m', by simp [h], by simp [h']⟩
      · exact .inr ⟨_, _, by simp [h], by simp [h'], hp.append_left t.toList⟩
  | swap e f r =>
    simp only [tasksOf, bind, Except.bind]
    cases taskOf p dir depth e with
    | error m =>
      cases taskOf p dir depth f with
      | error m' => exact .inl ⟨m', m, rfl, rfl⟩
      | ok u => exact .inl ⟨m, m, rfl, rfl⟩
    | ok t =>
      cases taskOf p dir depth f with
      | error m' => exact .inl ⟨m', m', rfl, rfl⟩
      | ok u =>
        cases tasksOf p dir depth r with
        | error m => exact .inl ⟨m, m, rfl, rfl⟩
        | ok ts =>
          refine .inr ⟨_, _, rfl, rfl, ?_⟩
          rw [← List.append_assoc, ← List.append_assoc]
          exact List.Perm.append_right ts List.perm_append_comm
  | trans _ _ ih₁ ih₂ =>
    rcases ih₁ with ⟨m, m', h, h'⟩ | ⟨ts, ts', h, h', hp⟩
    · rcases ih₂ with ⟨n, n', k, k'⟩ | ⟨us, us', k, k', hq⟩
      · exact .inl ⟨m, n', h, k'⟩
      · rw [h'] at k; cases k
    · rcases ih₂ with ⟨n, n', k, k'⟩ | ⟨us, us', k, k', hq⟩
      · rw [h'] at k; cases k
      · rw [h'] at k
        cases k
        exact .inr ⟨ts, us', h, k', hp.trans hq⟩

/-! ## No path is listed twice -/

/-- What the paths of the entries of a directory start with. -/
def startOf (dir : String) : List Char :=
  if dir = "" || dir.toList.getLast? == some '/' then dir.toList else dir.toList ++ ['/']

theorem toList_join (h : IsEntryName name) : (Path.join dir name).toList = startOf dir ++ name.toList := by
  have habs : Path.isAbsolute name = false := by
    unfold Path.isAbsolute
    cases hn : name.toList with
    | nil => rfl
    | cons c r =>
      have : c ≠ '/' := fun hc => h.2 (by rw [hn, hc]; exact List.mem_cons_self)
      simpa using this
  unfold Path.join startOf
  rw [habs]
  simp only [Bool.false_eq_true, if_false]
  split
  · rw [String.toList_append]
  · rw [String.toList_append, String.toList_append]
    rfl

theorem startOf_join (h : IsEntryName name) : startOf (Path.join dir name) = startOf dir ++ name.toList ++ ['/'] := by
  have hl : (Path.join dir name).toList = startOf dir ++ name.toList := toList_join h
  have hne : name.toList ≠ [] := fun hn => h.1 (String.toList_eq_nil_iff.mp hn)
  have hj : Path.join dir name ≠ "" := by
    intro he
    rw [he] at hl
    exact hne (List.append_eq_nil_iff.mp hl.symm).2
  have hlast : (startOf dir ++ name.toList).getLast? ≠ some '/' := by
    rw [List.getLast?_append_of_ne_nil _ hne]
    exact fun hm => h.2 (List.mem_of_getLast? hm)
  rw [startOf, hl, if_neg]
  simpa [hj] using hlast

/-- A path that goes on from a start with a name, and there ends or has a slash. -/
def Below (start : List Char) (name path : String) : Prop :=
  ∃ rest, path.toList = start ++ name.toList ++ rest ∧ (rest = [] ∨ rest.head? = some '/')

theorem Below.join (h : IsEntryName name) : Below (startOf dir) name (Path.join dir name) :=
  ⟨[], by simp [toList_join h], .inl rfl⟩

theorem Below.of_join {name' path : String} (h : IsEntryName name)
    (hb : Below (startOf (Path.join dir name)) name' path) : Below (startOf dir) name path := by
  obtain ⟨rest, hp, -⟩ := hb
  rw [startOf_join h] at hp
  exact ⟨'/' :: (name'.toList ++ rest), by simp [hp], .inr rfl⟩

/-- A path is below one name only. -/
theorem Below.name_eq {start : List Char} {a b path : String} (ha : IsEntryName a)
    (hb : IsEntryName b) (h : Below start a path) (h' : Below start b path) : a = b := by
  -- a name is what stands before the first slash
  have hname : ∀ {c : String} {rest : List Char}, IsEntryName c → (rest = [] ∨ rest.head? = some '/') →
      (c.toList ++ rest).takeWhile (· != '/') = c.toList := by
    intro c rest hc hr
    rw [List.takeWhile_append_of_pos]
    · rcases hr with rfl | hr
      · simp
      · cases rest with
        | nil => simp
        | cons d r =>
          simp only [List.head?_cons, Option.some.injEq] at hr
          simp [hr]
    · intro d hd
      have : d ≠ '/' := fun hs => hc.2 (hs ▸ hd)
      simpa using this
  obtain ⟨r, hp, hr⟩ := h
  obtain ⟨r', hp', hr'⟩ := h'
  rw [hp, List.append_assoc, List.append_assoc] at hp'
  have heq := List.append_cancel_left hp'
  rw [← String.toList_inj, ← hname ha hr, ← hname hb hr', heq]

/-- Paths that differ, each below a name of a list. -/
structure Spread (start : List Char) (names paths : List String) : Prop where
  nodup : paths.Nodup
  below : ∀ path ∈ paths, ∃ name ∈ names, Below start name path

theorem Spread.nil (start : List Char) (names : List String) : Spread start names [] :=
  ⟨List.nodup_nil, by simp⟩

theorem Spread.single (h : IsEntryName name) : Spread (startOf dir) [name] [Path.join dir name] :=
  ⟨List.nodup_singleton _, by simpa using Below.join h⟩

/-- The paths below a new name differ from those below the others. -/
theorem Spread.append {start : List Char} {names paths paths' : List String} (h : Spread start [name] paths)
    (h' : Spread start names paths') (hn : IsEntryName name) (hns : ∀ n ∈ names, IsEntryName n)
    (hnew : name ∉ names) :
    Spread start (name :: names) (paths ++ paths') := by
  constructor
  · refine List.nodup_append.mpr ⟨h.nodup, h'.nodup, fun a ha b hb hab => ?_⟩
    obtain ⟨m, hm, hma⟩ := h.below a ha
    obtain ⟨n, hmem, hnb⟩ := h'.below b hb
    rw [List.mem_singleton.mp hm] at hma
    rw [hab] at hma
    exact hnew (hma.name_eq hn (hns n hmem) hnb ▸ hmem)
  · intro path hp
    rcases List.mem_append.mp hp with hp | hp
    · obtain ⟨m, hm, hb⟩ := h.below path hp
      rw [List.mem_singleton.mp hm] at hb
      exact ⟨name, List.mem_cons_self, hb⟩
    · obtain ⟨m, hm, hb⟩ := h'.below path hp
      exact ⟨m, List.mem_cons_of_mem _ hm, hb⟩

theorem Spread.of_join {names paths : List String} (hn : IsEntryName name)
    (h : Spread (startOf (Path.join dir name)) names paths) : Spread (startOf dir) [name] paths :=
  ⟨h.nodup, fun path hp => by
    obtain ⟨m, -, hb⟩ := h.below path hp
    exact ⟨name, List.mem_singleton_self _, hb.of_join hn⟩⟩

theorem spread_visitOf {t : Option Task} (hn : IsEntryName name) (h : visitOf p dir name = .ok t) :
    Spread (startOf dir) [name] (t.toList.flatMap (Task.files p)) := by
  unfold visitOf at h
  cases hl : isListed p name with
  | error m =>
    rw [hl] at h
    cases h
  | ok listed =>
    rw [hl] at h
    cases h
    cases listed with
    | false => exact Spread.nil _ _
    | true => exact Spread.single hn

mutual
theorem spread_tasksOf (p : Plan) (dir : String) (depth : Nat) :
    ∀ (es : List (String × Node)) (ts : List Task), (es.map (·.1)).Nodup → Node.WellFormedEntries es →
      tasksOf p dir depth es = .ok ts →
      Spread (startOf dir) (es.map (·.1)) (ts.flatMap (Task.files p))
  | [], ts, _, _, h => by
    cases h
    exact Spread.nil _ _
  | (name, node) :: r, ts, hd, hw, h => by
    simp only [tasksOf, bind, Except.bind] at h
    rw [Node.WellFormedEntries] at hw
    rw [List.map_cons, List.nodup_cons] at hd
    cases ht : taskOf p dir depth (name, node) with
    | error m =>
      rw [ht] at h
      cases h
    | ok t =>
      cases hr : tasksOf p dir depth r with
      | error m =>
        rw [ht, hr] at h
        cases h
      | ok us =>
        rw [ht, hr] at h
        cases h
        rw [List.flatMap_append]
        refine (spread_taskOf p dir depth name node t hw.1 hw.2.1 ht).append
          (spread_tasksOf p dir depth r us hd.2 hw.2.2 hr) hw.1 ?_ hd.1
        intro n hn
        obtain ⟨e, he, rfl⟩ := List.mem_map.mp hn
        exact (hw.2.2.mem he).1

theorem spread_taskOf (p : Plan) (dir : String) (depth : Nat) (name : String) :
    ∀ (node : Node) (t : Option Task), IsEntryName name → node.WellFormed →
      taskOf p dir depth (name, node) = .ok t →
      Spread (startOf dir) [name] (t.toList.flatMap (Task.files p))
  | .file _, t, hn, _, h => spread_visitOf hn h
  | .link _, t, hn, _, h => by
    rw [taskOf] at h
    split at h
    · exact spread_visitOf hn h
    · cases h
      exact Spread.nil _ _
  | .dir es, t, hn, hw, h => by
    rw [taskOf] at h
    rw [Node.WellFormed] at hw
    cases he : isEntered p name depth with
    | error m =>
      rw [he] at h
      cases h
    | ok entered =>
      rw [he] at h
      cases h
      cases entered with
      | false => exact Spread.nil _ _
      | true =>
        show Spread _ _ ([Task.walk (Path.join dir name) (depth + 1)
          (p.listing (Path.join dir name) es)].flatMap (Task.files p))
        rw [List.flatMap_singleton, Plan.listing]
        split
        · cases hts : tasksOf p (Path.join dir name) (depth + 1) es with
          | error m =>
            rw [Task.files_walk_eq, hts]
            exact Spread.nil _ _
          | ok ts =>
            rw [Task.files_walk hts]
            exact (spread_tasksOf p (Path.join dir name) (depth + 1) es ts hw.1 hw.2 hts).of_join hn
        · rw [Task.files_walk rfl]
          exact Spread.nil _ _
end

end Survey

end ShapeSearch
