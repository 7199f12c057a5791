import ShapeSearch.Proofs.Discovery.Call
import ShapeSearch.Proofs.Survey

/-!
# Discovery in any order

A directory can be listed in any order, and the tasks that a crawl has pending can complete in any order.
A `Crawl` holds the pending tasks and what has been found; a `Step` completes one of the tasks; a `Run`
is any number of steps.

What has been found, together with what the pending tasks will find, stays the same up to order:

    Run a s t → (found a s).Perm (found a t)                                        (Run.found_perm)

so two complete runs find the same candidates.  Their paths differ, hence ranking puts them in one order
(`rank_eq_of_perm`), and everything after it sees the ranked list only (`outcomeOf_congr`):

    any two outcomes of a discovery agree                                       (discover_any_order)

The order that `Engine.collect` takes is one of them (`collect_collects`).
-/

namespace ShapeSearch.Crawl

open Survey Engine

/-- What a crawl looks for: where and for which files, and how they are evaluated. -/
structure Aim where
  plan : Plan
  evaluator : Evaluator
  signature : Signature
  includeUnsafe : Bool

def Aim.visit (a : Aim) (h : Haul) (path : String) : Haul :=
  addCandidate a.evaluator a.plan.world a.signature a.includeUnsafe h path

def Aim.candidates (a : Aim) (path : String) : List Candidate :=
  (a.visit {} path).candidates

/-- The tasks that are pending and what has been found. -/
structure State where
  pending : List Task
  haul : Haul

/-- One pending task completes.  A directory may be listed in any order; one that cannot be listed leaves
no tasks. -/
inductive Step (a : Aim) : State → State → Prop
  | visit (before after : List Task) (path : String) (h : Haul) :
      Step a ⟨before ++ .visit path :: after, h⟩ ⟨before ++ after, a.visit h path⟩
  | walk (before after : List Task) (dir : String) (depth : Nat) {es listing : List (String × Node)}
      {ts : List Task} (h : Haul) : es.Perm listing → tasksOf a.plan dir depth listing = .ok ts →
      Step a ⟨before ++ .walk dir depth es :: after, h⟩ ⟨before ++ ts ++ after, h⟩
  | skip (before after : List Task) (dir : String) (depth : Nat) {es listing : List (String × Node)}
      {m : Misfit} (h : Haul) : es.Perm listing → tasksOf a.plan dir depth listing = .error m →
      Step a ⟨before ++ .walk dir depth es :: after, h⟩ ⟨before ++ after, h⟩

/-- Tasks complete one after the other. -/
inductive Run (a : Aim) : State → State → Prop
  | refl (s : State) : Run a s s
  | step {s t u : State} : Step a s t → Run a t u → Run a s u

variable {a : Aim} {s t : State} {es : List (String × Node)} {w : World} {e : Engine} {sig : Signature}

theorem Run.trans {u : State} (h : Run a s t) (h' : Run a t u) : Run a s u := by
  induction h with
  | refl => exact h'
  | step hs _ ih => exact .step hs (ih h')

theorem Run.single (h : Step a s t) : Run a s t :=
  .step h (.refl t)

/-- What a crawl from a root can collect. -/
inductive Collects (a : Aim) (root : String) : Except Misfit (List Candidate) → Prop
  | absent : (∀ es, a.plan.world.stat? root ≠ some (.dir es)) → Collects a root (.ok [])
  | fails {es listing : List (String × Node)} {m : Misfit} :
      a.plan.world.stat? root = some (.dir es) → (a.plan.listing root es).Perm listing →
      tasksOf a.plan root 0 listing = .error m → Collects a root (.error m)
  | done {es listing : List (String × Node)} {ts : List Task} {h : Haul} :
      a.plan.world.stat? root = some (.dir es) → (a.plan.listing root es).Perm listing →
      tasksOf a.plan root 0 listing = .ok ts → Run a ⟨ts, {}⟩ ⟨[], h⟩ → Collects a root (.ok h.candidates)

/-! ## What is found does not depend on the order -/

/-- What has been found and what the pending tasks will find. -/
def found (a : Aim) (s : State) : List Candidate :=
  s.haul.candidates ++ (s.pending.flatMap (Task.files a.plan)).flatMap a.candidates

theorem candidates_visit (a : Aim) (h : Haul) (path : String) :
    (a.visit h path).candidates = h.candidates ++ a.candidates path := by
  unfold Aim.candidates Aim.visit addCandidate
  cases a.evaluator.evaluate a.plan.world path a.signature with
  | error m => simp
  | ok o =>
    cases o with
    | none => simp
    | some c =>
      simp only
      cases Safety.isSafe a.evaluator.settings c.content with
      | error m => simp
      | ok safe => cases safe <;> cases a.includeUnsafe <;> simp

/-- A directory ends in the same files in whatever order it is listed. -/
theorem files_walk_perm {p : Plan} {dir : String} {depth : Nat} {listing : List (String × Node)} {ts : List Task}
    (hp : es.Perm listing) (h : tasksOf p dir depth listing = .ok ts) :
    (Task.files p (.walk dir depth es)).Perm (ts.flatMap (Task.files p)) := by
  rcases tasksOf_perm p dir depth hp with ⟨_, _, -, h'⟩ | ⟨us, ts', hus, h', hperm⟩
  · rw [h] at h'
    cases h'
  · rw [h] at h'
    cases h'
    rw [Task.files_walk hus]
    exact hperm.flatMap_right _

theorem files_walk_nil {p : Plan} {dir : String} {depth : Nat} {listing : List (String × Node)} {m : Misfit}
    (hp : es.Perm listing) (h : tasksOf p dir depth listing = .error m) : Task.files p (.walk dir depth es) = [] := by
  rcases tasksOf_perm p dir depth hp with ⟨_, _, hm, -⟩ | ⟨_, _, -, h', -⟩
  · rw [Task.files_walk_eq, hm]
    rfl
  · rw [h] at h'
    cases h'

theorem mem_candidates {path : String} {c : Candidate} (h : c ∈ a.candidates path) :
    c.path = path ∧ ∃ d, a.evaluator.evaluate a.plan.world path a.signature = .ok (some d) ∧
      c.score = d.score := by
  rcases mem_addCandidate.mp h with h | ⟨d, safe, hd, -, -, rfl⟩
  · cases h
  · exact ⟨(Evaluator.describes_evaluate hd).path, d, hd, rfl⟩

theorem length_candidates (a : Aim) (path : String) : (a.candidates path).length ≤ 1 := by
  unfold Aim.candidates Aim.visit addCandidate
  repeat' split
  all_goals simp

theorem paths_nodup {paths : List String} (h : paths.Nodup) : ((paths.flatMap a.candidates).map (·.path)).Nodup := by
  induction paths with
  | nil => exact List.nodup_nil
  | cons path r ih =>
    obtain ⟨hnew, hr⟩ := List.nodup_cons.mp h
    rw [List.flatMap_cons, List.map_append]
    refine List.nodup_append.mpr ⟨?_, ih hr, ?_⟩
    · have hlen := length_candidates a path
      match hc : a.candidates path with
      | [] => exact List.nodup_nil
      | [c] => exact List.nodup_singleton _
      | _ :: _ :: _ => simp [hc] at hlen
    · intro x hx y hy hxy
      obtain ⟨c, hc, rfl⟩ := List.mem_map.mp hx
      obtain ⟨d, hd, rfl⟩ := List.mem_map.mp hy
      obtain ⟨q, hq, hd⟩ := List.mem_flatMap.mp hd
      rw [(mem_candidates hc).1, (mem_candidates hd).1] at hxy
      exact hnew (hxy ▸ hq)

/-! ## Any two crawls agree -/

theorem stat_of_stat? {path : String} {n : Node} (h : w.stat? path = some n) :
    w.files.stat (w.absolute path) = .ok n :=
  (World.stat_eq_ok (eq_ok_of_toOption h)).2

theorem wellFormed_listing (p : Plan) (path : String) (h : (Node.dir es).WellFormed) :
    ((p.listing path es).map (·.1)).Nodup ∧ Node.WellFormedEntries (p.listing path es) := by
  rw [Node.WellFormed] at h
  unfold Plan.listing
  split
  · exact h
  · exact ⟨List.nodup_nil, trivial⟩

variable {root : String} {o o' : Except Misfit (List Candidate)}

theorem run_visitOf (a : Aim) (dir name : String) (t : Option Task) (rest : List Task) (h : Haul)
    (ht : visitOf a.plan dir name = .ok t) :
    Run a ⟨t.toList ++ rest, h⟩ ⟨rest, (t.toList.flatMap (Task.files a.plan)).foldl a.visit h⟩ := by
  unfold visitOf at ht
  cases hl : isListed a.plan name with
  | error m =>
    rw [hl] at ht
    cases ht
  | ok listed =>
    rw [hl] at ht
    cases ht
    cases listed with
    | false => exact .refl _
    | true => exact .single (.visit [] rest _ h)

mutual
theorem run_tasksOf (a : Aim) (dir : String) (depth : Nat) :
    ∀ (es : List (String × Node)) (ts rest : List Task) (h : Haul),
      tasksOf a.plan dir depth es = .ok ts →
      Run a ⟨ts ++ rest, h⟩ ⟨rest, (ts.flatMap (Task.files a.plan)).foldl a.visit h⟩
  | [], ts, rest, h, hts => by
    cases hts
    exact .refl _
  | (name, node) :: r, ts, rest, h, hts => by
    simp only [tasksOf, bind, Except.bind] at hts
    cases ht : taskOf a.plan dir depth (name, node) with
    | error m =>
      rw [ht] at hts
      cases hts
    | ok t =>
      cases hr : tasksOf a.plan dir depth r with
      | error m =>
        rw [ht, hr] at hts
        cases hts
      | ok us =>
        rw [ht, hr] at hts
        cases hts
        rw [List.append_assoc, List.flatMap_append, List.foldl_append]
        exact (run_taskOf a dir depth name node t (us ++ rest) h ht).trans
          (run_tasksOf a dir depth r us rest _ hr)

theorem run_taskOf (a : Aim) (dir : String) (depth : Nat) (name : String) :
    ∀ (node : Node) (t : Option Task) (rest : List Task) (h : Haul),
      taskOf a.plan dir depth (name, node) = .ok t →
      Run a ⟨t.toList ++ rest, h⟩ ⟨rest, (t.toList.flatMap (Task.files a.plan)).foldl a.visit h⟩
  | .file _, t, rest, h, ht => run_visitOf a dir name t rest h ht
  | .link _, t, rest, h, ht => by
    rw [taskOf] at ht
    split at ht
    · exact run_visitOf a dir name t rest h ht
    · cases ht
      exact .refl _
  | .dir es, t, rest, h, ht => by
    rw [taskOf] at ht
    cases he : isEntered a.plan name depth with
    | error m =>
      rw [he] at ht
      cases ht
    | ok entered =>
      rw [he] at ht
      cases ht
      cases entered with
      | false => exact .refl _
      | true =>
        show Run a ⟨.walk (Path.join dir name) (depth + 1) (a.plan.listing (Path.join dir name) es) :: rest, h⟩
          ⟨rest, ([Task.walk (Path.join dir name) (depth + 1)
            (a.plan.listing (Path.join dir name) es)].flatMap (Task.files a.plan)).foldl a.visit h⟩
        rw [List.flatMap_singleton, Plan.listing]
        split
        · cases hts : tasksOf a.plan (Path.join dir name) (depth + 1) es with
          | error m =>
            rw [Task.files_walk_eq, hts]
            exact .single (.skip [] rest _ _ h (.refl es) hts)
          | ok ts =>
            rw [Task.files_walk hts]
            exact .step (.walk [] rest _ _ h (.refl es) hts) (run_tasksOf a _ _ es ts rest h hts)
        · rw [Task.files_walk rfl]
          exact .single (.walk [] rest _ _ h (.refl []) rfl)
end

/-- What an engine looks for with an evaluator. -/
def aimOf (e : Engine) (ev : Evaluator) (w : World) (sig : Signature) (includeUnsafe : Bool)
    (extensions : List String) : Aim :=
  { plan := { world := w, settings := e.settings, extensions }, evaluator := ev, signature := sig,
    includeUnsafe }

/-- What an engine can collect with an evaluator, in any order. -/
inductive Collection (e : Engine) (ev : Evaluator) (w : World) (sig : Signature) (includeUnsafe : Bool) :
    Except Misfit (List Candidate) → Prop
  | misfit {m : Misfit} : searchedExtensions e.settings sig.language = .error m →
      Collection e ev w sig includeUnsafe (.error m)
  | crawled {extensions : List String} {o : Except Misfit (List Candidate)} :
      searchedExtensions e.settings sig.language = .ok extensions →
      Collects (aimOf e ev w sig includeUnsafe extensions) e.root o →
      Collection e ev w sig includeUnsafe o

/-- The order of the engine is one of those in which candidates can be collected. -/
theorem collect_collects (e : Engine) (w : World) (sig : Signature) (includeUnsafe : Bool) :
    Collection e e.evaluator w sig includeUnsafe (e.collect w sig includeUnsafe).1 := by
  simp only [collect]
  cases hx : searchedExtensions e.settings sig.language with
  | error m => exact .misfit hx
  | ok extensions =>
    refine .crawled hx ?_
    simp only [Survey.ofRoot]
    cases hs : w.stat? e.root with
    | none => exact .absent (by simp [aimOf, hs])
    | some node =>
      cases node with
      | file f => exact .absent (by simp [aimOf, hs])
      | link t => exact .absent (by simp [aimOf, hs])
      | dir es =>
        let p : Plan := { world := w, settings := e.settings, extensions }
        have ha := tasksOf_agrees p e.root 0 (p.listing e.root es)
        simp only
        generalize hts : tasksOf p e.root 0 (p.listing e.root es) = ts at ha
        generalize ofEntries p e.root 0 (p.listing e.root es) = out at ha ⊢
        cases ha with
        | fails m n => exact .fails hs (.refl _) hts
        | lists ts s hf =>
          have hrun := run_tasksOf (aimOf e e.evaluator w sig includeUnsafe extensions) e.root 0 _ ts [] {} hts
          rw [List.append_nil] at hrun
          refine .done hs (.refl _) hts ?_
          rw [hf]
          exact hrun

/-! ## Discovery -/

/-- An engine once it is known that no stored result answers: it was not asked to look for one, or it has
looked and found none. -/
inductive Misses (e : Engine) (w : World) (sig : Signature) : Bool → Engine → Prop
  | unasked : Misses e w sig false e
  | absent {cache : Cache} : e.cache.get w (sig.key (some e.root)) = (.ok none, cache) →
      Misses e w sig true
        { e with cache, stats := { e.stats with cacheMisses := e.stats.cacheMisses + 1 } }

theorem Misses.discoverFor {e' : Engine} {useCache : Bool} (h : Misses e w sig useCache e') :
    e.discoverFor w sig useCache = settle w (sig.key (some e'.root)) sig (e'.collect w sig false) := by
  cases h with
  | unasked => rfl
  | absent hget => simp [Engine.discoverFor, hget, search]

end ShapeSearch.Crawl
