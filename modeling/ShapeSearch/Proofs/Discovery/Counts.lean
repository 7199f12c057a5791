import ShapeSearch.Proofs.Discovery.Ending
import ShapeSearch.Proofs.Discovery.History

/-!
# The counts of an engine

An engine counts what its calls do.  After any number of calls, with anything happening to the files between
them, the counts account for the calls (`Balanced`):

    hits + misses + failed lookups = calls that look into the store
    traversals = misses + calls that do not look into the store + collections
    candidates ≤ files evaluated ≤ files visited

One call keeps the balance (`Balanced.snoc`), so a run of calls does (`Balanced.serveAll`).  A lookup that
fails is neither a hit nor a miss: such a call is not accounted for by these two counts alone
(`lookup_uncounted`).
-/

namespace ShapeSearch

/-! ## What one traversal adds -/

namespace Survey

/-- Files that are listed have been counted. -/
def Tallied : Except (Nat × Misfit) Survey → Prop
  | .ok s => s.files.length ≤ s.visited
  | .error _ => True

theorem Tallied.addFile {p : Plan} {dir name : String} {rest : Except (Nat × Misfit) Survey}
    (h : Tallied rest) : Tallied (addFile p dir name rest) := by
  unfold Survey.addFile
  split
  · trivial
  · trivial
  · next listed s _ =>
    have hs : s.files.length ≤ s.visited := h
    simp only [Tallied]
    split
    · simpa using hs
    · omega

theorem Tallied.quiet {rest : Except (Nat × Misfit) Survey} (h : Tallied rest) :
    (quiet rest).files.length ≤ (quiet rest).visited := by
  cases rest with
  | ok s => exact h
  | error e => exact Nat.zero_le _

mutual
theorem tallied_ofEntries (p : Plan) (dir : String) (depth : Nat) :
    ∀ es : List (String × Node), Tallied (ofEntries p dir depth es)
  | [] => by
    rw [ofEntries]
    exact Nat.le_refl 0
  | (name, node) :: r => by
    rw [ofEntries]
    exact tallied_ofEntry p dir depth name node (tallied_ofEntries p dir depth r)

theorem tallied_ofEntry (p : Plan) (dir : String) (depth : Nat) (name : String) :
    ∀ (node : Node) {rest : Except (Nat × Misfit) Survey}, Tallied rest →
      Tallied (ofEntry p dir depth name rest node)
  | .file _, _, h => by
    rw [ofEntry]
    exact h.addFile
  | .link _, _, h => by
    rw [ofEntry]
    split
    · exact h.addFile
    · exact h
  | .dir es, _, h => by
    unfold ofEntry
    split
    · trivial
    · trivial
    · exact h
    · next s _ =>
      have hs : s.files.length ≤ s.visited := h
      simp only [Tallied]
      split
      · have hsub := (tallied_ofEntries p (Path.join dir name) (depth + 1) es).quiet
        simp only [join, List.length_append]
        omega
      · exact hs
end

theorem tallied_ofRoot (p : Plan) (root : String) : Tallied (ofRoot p root) := by
  unfold ofRoot
  split
  · exact tallied_ofEntries p root 0 _
  · exact Nat.le_refl 0

end Survey

namespace Engine

/-- What is found in some number of files: at most one candidate for each that has been evaluated, and if unsafe
files are left out, a file is a candidate or unsafe but not both. -/
structure Haul.Within (includeUnsafe : Bool) (n : Nat) (h : Haul) : Prop where
  evaluated : h.evaluated ≤ n
  candidates : h.candidates.length ≤ h.evaluated
  apart : includeUnsafe = false → h.candidates.length + h.unsafeFiles ≤ h.evaluated

theorem Haul.Within.addCandidate {includeUnsafe : Bool} {n : Nat} {h : Haul} (hh : h.Within includeUnsafe n)
    (ev : Evaluator) (w : World) (sig : Signature) (path : String) :
    (addCandidate ev w sig includeUnsafe h path).Within includeUnsafe (n + 1) := by
  obtain ⟨he, hc, hu⟩ := hh
  unfold Engine.addCandidate
  split
  · exact ⟨by omega, hc, hu⟩
  · exact ⟨by simpa using he, by simp only; omega, fun hi => by have := hu hi; simp only; omega⟩
  · simp only
    split
    · exact ⟨by simpa using he, by simp only; omega, fun hi => by have := hu hi; simp only; omega⟩
    · refine ⟨by simpa using he, by simpa using hc, fun hi => ?_⟩
      have := hu hi
      simp only [List.length_append, List.length_singleton]
      omega
    · cases includeUnsafe with
      | true => exact ⟨by simpa using he, by simpa using hc, fun hi => by cases hi⟩
      | false =>
        have := hu rfl
        exact ⟨by simpa using he, by simp; omega, fun _ => by simp; omega⟩

theorem within_haulOf (ev : Evaluator) (w : World) (sig : Signature) (includeUnsafe : Bool)
    (files : List String) : (haulOf ev w sig includeUnsafe files).Within includeUnsafe files.length := by
  -- the files before these have been evaluated
  have hfold : ∀ (files : List String) (n : Nat) (h : Haul), h.Within includeUnsafe n →
      (files.foldl (addCandidate ev w sig includeUnsafe) h).Within includeUnsafe (n + files.length) := by
    intro files
    induction files with
    | nil => exact fun n h hh => hh
    | cons path r ih =>
      intro n h hh
      have hr := ih (n + 1) _ (hh.addCandidate ev w sig path)
      rwa [Nat.add_assoc, Nat.add_comm 1] at hr
  have hnone : Haul.Within includeUnsafe 0 {} := ⟨Nat.le_refl 0, Nat.le_refl 0, fun _ => Nat.le_refl 0⟩
  have hall := hfold files 0 {} hnone
  rwa [Nat.zero_add] at hall

/-- One traversal is counted, with the files that it has visited and what it has found in them. -/
theorem stats_collect (e : Engine) (w : World) (sig : Signature) (includeUnsafe : Bool) :
    ∃ visited h, h.Within includeUnsafe visited ∧
      (e.collect w sig includeUnsafe).2.stats =
        Stats.after { e.stats with traversals := e.stats.traversals + 1 } visited h := by
  have hnone : ∀ n, Haul.Within includeUnsafe n {} :=
    fun n => ⟨Nat.zero_le n, Nat.le_refl 0, fun _ => Nat.le_refl 0⟩
  simp only [collect]
  split
  · exact ⟨0, {}, hnone 0, rfl⟩
  · next extensions _ =>
    have htallied := Survey.tallied_ofRoot { world := w, settings := e.settings, extensions } e.root
    split
    · next n m _ => exact ⟨n, {}, hnone n, rfl⟩
    · next survey hsurvey =>
      rw [hsurvey] at htallied
      have hh := within_haulOf e.evaluator w sig includeUnsafe survey.files
      exact ⟨survey.visited, _, ⟨hh.evaluated.trans htallied, hh.candidates, hh.apart⟩, rfl⟩

/-! ## Calls -/

inductive Request where
  | discover (signature : Json) (useCache : Bool)
  | collect (signature : Json) (includeUnsafe : Bool)
  | rank (candidates : List Candidate)
  | resolve (ranked : List Candidate) (signature : Json)
  | clear

namespace Request

/-- Whether a signature is one that can be searched for. -/
def reads (signature : Json) : Bool :=
  (Signature.normalize signature).isOk

def asks : Request → Bool
  | .discover signature true => reads signature
  | _ => false

def searches : Request → Bool
  | .discover signature false => reads signature
  | _ => false

def collects : Request → Bool
  | .collect signature _ => reads signature
  | _ => false

def wantsUnsafe : Request → Bool
  | .collect _ includeUnsafe => includeUnsafe
  | _ => false

end Request

def serve (e : Engine) (w : World) : Request → Engine
  | .discover signature useCache => (e.discover w signature useCache).engine
  | .collect signature includeUnsafe => (e.collectFor w signature includeUnsafe).2
  | .rank candidates => (e.rank candidates).2
  | .resolve ranked signature => (e.resolveFor w ranked signature).2
  | .clear => (e.clearCache w).1

structure Moment where
  engine : Engine
  world : World
  request : Request

/-- Whether a call looks for a stored answer and cannot read the store. -/
def Moment.loses (m : Moment) : Bool :=
  match m.request with
  | .discover signature true =>
    match Signature.normalize signature with
    | .ok sig => !(m.engine.cache.get m.world (sig.key (some m.engine.root))).1.isOk
    | .error _ => false
  | _ => false

/-- The engine after calls, one after the other, each in the world as it then is. -/
def serveAll (e : Engine) : List (World × Request) → Engine
  | [] => e
  | (w, r) :: calls => serveAll (e.serve w r) calls

theorem serveAll_discover (e : Engine) (w : World) (signature : Json) (useCache : Bool) :
    e.serveAll [(w, .discover signature useCache)] = (e.discover w signature useCache).engine := rfl

def moments (e : Engine) : List (World × Request) → List Moment
  | [] => []
  | (w, r) :: calls => ⟨e, w, r⟩ :: moments (e.serve w r) calls

/-! ## The balance -/

/-- What a call adds to the counts. -/
structure Posts (m : Moment) (s s' : Stats) : Prop where
  lookups : s'.cacheHits + s'.cacheMisses + m.loses.toNat =
    s.cacheHits + s.cacheMisses + m.request.asks.toNat
  traversals : s'.traversals + s.cacheMisses =
    s.traversals + s'.cacheMisses + m.request.searches.toNat + m.request.collects.toNat
  files : ∃ visited h, Haul.Within m.request.wantsUnsafe visited h ∧
    s'.filesVisited = s.filesVisited + visited ∧ s'.filesEvaluated = s.filesEvaluated + h.evaluated ∧
    s'.candidates = s.candidates + h.candidates.length ∧ s'.unsafeFiles = s.unsafeFiles + h.unsafeFiles

/-- A call that counts nothing, or only counts a hit, has seen no file. -/
theorem unseen (includeUnsafe : Bool) (s : Stats) : ∃ visited h, Haul.Within includeUnsafe visited h ∧
    s.filesVisited = s.filesVisited + visited ∧ s.filesEvaluated = s.filesEvaluated + h.evaluated ∧
    s.candidates = s.candidates + h.candidates.length ∧ s.unsafeFiles = s.unsafeFiles + h.unsafeFiles :=
  ⟨0, {}, ⟨Nat.le_refl 0, Nat.le_refl 0, fun _ => Nat.le_refl 0⟩, rfl, rfl, rfl, rfl⟩

section Posting

variable {e : Engine} {w : World} {signature : Json} {sig : Signature}

theorem SearchEnd.stats {out : Outcome SearchResult} (h : SearchEnd e w out) :
    out.engine.stats = e.stats := by
  cases h with
  | failed => rfl
  | exhausted _ => rfl
  | chosen _ => rfl

theorem posts_refused {f : Fault SignatureError} (hsig : Signature.normalize signature = .error f)
    (useCache : Bool) : Posts ⟨e, w, .discover signature useCache⟩ e.stats e.stats := by
  have hreads : Request.reads signature = false := by
    rw [Request.reads, hsig]
    rfl
  refine ⟨?_, ?_, unseen _ _⟩
  · cases useCache <;> simp [Moment.loses, Request.asks, hreads, hsig]
  · cases useCache <;> simp [Request.searches, Request.collects, hreads]

theorem posts_discoverFor (hsig : Signature.normalize signature = .ok sig) {useCache : Bool}
    {out : Outcome SearchResult} (h : CallEnd e w sig useCache out) :
    Posts ⟨e, w, .discover signature useCache⟩ e.stats out.engine.stats := by
  have hreads : Request.reads signature = true := by
    rw [Request.reads, hsig]
    rfl
  cases h with
  | unread hget =>
    refine ⟨?_, ?_, unseen _ _⟩
    · simp [Moment.loses, Request.asks, hreads, hsig, hget, Except.isOk, Except.toBool]
    · simp [Request.searches, Request.collects]
  | stored hget _ =>
    refine ⟨?_, ?_, unseen _ _⟩
    · simp [Moment.loses, Request.asks, hreads, hsig, hget, Except.isOk, Except.toBool]
      omega
    · simp [Request.searches, Request.collects]
  | searched hmiss hsearch =>
    rw [hsearch.stats]
    cases hmiss with
    | unasked =>
      obtain ⟨visited, haul, hwithin, hstats⟩ := stats_collect e w sig false
      rw [hstats]
      refine ⟨?_, ?_, visited, haul, hwithin, rfl, rfl, rfl, rfl⟩
      · simp [Stats.after, Moment.loses, Request.asks]
      · simp [Stats.after, Request.searches, Request.collects, hreads]
        omega
    | @absent cache hget =>
      obtain ⟨visited, haul, hwithin, hstats⟩ := stats_collect
        { e with cache, stats := { e.stats with cacheMisses := e.stats.cacheMisses + 1 } } w sig false
      rw [hstats]
      refine ⟨?_, ?_, visited, haul, hwithin, rfl, rfl, rfl, rfl⟩
      · simp [Stats.after, Moment.loses, Request.asks, hreads, hsig, hget, Except.isOk, Except.toBool]
        omega
      · simp [Stats.after, Request.searches, Request.collects]
        omega

theorem collectFor_engine (hsig : Signature.normalize signature = .ok sig) (includeUnsafe : Bool) :
    (e.collectFor w signature includeUnsafe).2 = (e.collect w sig includeUnsafe).2 := by
  simp only [collectFor, hsig]
  split
  · next hcollect => rw [hcollect]
  · next hcollect => rw [hcollect]

theorem posts_collectFor (e : Engine) (w : World) (signature : Json) (includeUnsafe : Bool) :
    Posts ⟨e, w, .collect signature includeUnsafe⟩ e.stats (e.collectFor w signature includeUnsafe).2.stats := by
  cases hsig : Signature.normalize signature with
  | error f =>
    rw [collectFor, hsig]
    refine ⟨rfl, ?_, unseen _ _⟩
    simp [Request.searches, Request.collects, Request.reads, hsig, Except.isOk, Except.toBool]
  | ok sig =>
    obtain ⟨visited, haul, hwithin, hstats⟩ := stats_collect e w sig includeUnsafe
    rw [collectFor_engine hsig, hstats]
    refine ⟨rfl, ?_, visited, haul, hwithin, rfl, rfl, rfl, rfl⟩
    simp [Stats.after, Request.searches, Request.collects, Request.reads, hsig, Except.isOk, Except.toBool]
    omega

theorem resolveFor_stats (e : Engine) (w : World) (ranked : List Candidate) (signature : Json) :
    (e.resolveFor w ranked signature).2.stats = e.stats := by
  cases hsig : Signature.normalize signature with
  | error f => rw [resolveFor, hsig]
  | ok sig =>
    have hsame : (e.resolveFor w ranked signature).2 = (e.resolve w ranked sig).2 := by
      simp only [resolveFor, hsig]
      split
      · next hresolve => rw [hresolve]
      · next hresolve => rw [hresolve]
    obtain ⟨phase, hengine⟩ := resolve_engine e w ranked sig
    rw [hsame, hengine]

theorem posts_serve (e : Engine) (w : World) (r : Request) : Posts ⟨e, w, r⟩ e.stats (e.serve w r).stats := by
  cases r with
  | discover signature useCache =>
    rw [serve, discover]
    cases hsig : Signature.normalize signature with
    | error f => exact posts_refused hsig useCache
    | ok sig => exact posts_discoverFor hsig (discoverFor_ends e w sig useCache)
  | collect signature includeUnsafe => exact posts_collectFor e w signature includeUnsafe
  | rank candidates => exact ⟨rfl, rfl, unseen _ _⟩
  | resolve ranked signature =>
    rw [serve, resolveFor_stats]
    exact ⟨rfl, rfl, unseen _ _⟩
  | clear => exact ⟨rfl, rfl, unseen _ _⟩

end Posting

/-- Counts that account for some calls. -/
structure Balanced (ms : List Moment) (s : Stats) : Prop where
  lookups : s.cacheHits + s.cacheMisses + ms.countP (·.loses) = ms.countP (·.request.asks)
  traversals : s.traversals = s.cacheMisses + ms.countP (·.request.searches) + ms.countP (·.request.collects)
  evaluated : s.filesEvaluated ≤ s.filesVisited
  candidates : s.candidates ≤ s.filesEvaluated
  apart : (∀ m ∈ ms, m.request.wantsUnsafe = false) → s.candidates + s.unsafeFiles ≤ s.filesEvaluated

theorem balanced_nil : Balanced [] {} :=
  ⟨rfl, rfl, Nat.le_refl 0, Nat.le_refl 0, fun _ => Nat.le_refl 0⟩

theorem Balanced.snoc {ms : List Moment} {m : Moment} {s s' : Stats} (hb : Balanced ms s)
    (hp : Posts m s s') : Balanced (ms ++ [m]) s' := by
  have hcount : ∀ p : Moment → Bool, (ms ++ [m]).countP p = ms.countP p + (p m).toNat := by
    intro p
    rw [List.countP_append, List.countP_singleton]
    cases p m <;> rfl
  obtain ⟨visited, h, hwithin, hvisited, hevaluated, hcandidates, hunsafe⟩ := hp.files
  have hlookups := hp.lookups
  have htraversals := hp.traversals
  have hwas := hb.lookups
  have hwere := hb.traversals
  constructor
  case lookups =>
    rw [hcount, hcount]
    omega
  case traversals =>
    rw [hcount, hcount]
    omega
  case evaluated =>
    have := hb.evaluated
    have := hwithin.evaluated
    omega
  case candidates =>
    have := hb.candidates
    have := hwithin.candidates
    omega
  case apart =>
    intro hall
    have := hb.apart fun m' hm' => hall m' (List.mem_append_left _ hm')
    have := hwithin.apart (hall m (List.mem_append_right _ (List.mem_singleton_self m)))
    omega

theorem Balanced.serveAll {ms : List Moment} {e : Engine} (calls : List (World × Request))
    (hb : Balanced ms e.stats) : Balanced (ms ++ moments e calls) (e.serveAll calls).stats := by
  induction calls generalizing ms e with
  | nil =>
    rw [moments, List.append_nil]
    exact hb
  | cons call calls ih =>
    obtain ⟨w, r⟩ := call
    have hstep := ih (hb.snoc (posts_serve e w r))
    rw [List.append_assoc] at hstep
    exact hstep

/-! ## The phase after a call -/

theorem CallEnd.phase {e : Engine} {w : World} {sig : Signature} {useCache : Bool}
    {out : Outcome SearchResult} (h : CallEnd e w sig useCache out) :
    (∀ r, out.result = .ok r → out.engine.phase = .resolved) ∧
      ∀ err, out.result = .error (.notFound err) → out.engine.phase = .exhausted := by
  refine ⟨fun r hr => ?_, fun err herr => ?_⟩
  · cases h with
    | unread hget => cases hr
    | stored hget ho => rfl
    | searched hmiss hsearch =>
      cases hsearch with
      | failed => cases hr
      | exhausted hf => cases hr
      | chosen ho => rfl
  · obtain ⟨e', -, rfl⟩ := h.of_notFound herr
    rfl

/-- After any run of calls of a new engine the counts account for the calls.  The next call leaves the engine
resolved if it gives a result, exhausted if it finds nothing, and in its phase if its signature is refused. -/
theorem serveAll_balanced (e : Engine) (hnew : e.stats = {}) (calls : List (World × Request)) :
    Balanced (moments e calls) (e.serveAll calls).stats ∧
    ∀ w signature useCache,
      let out := (e.serveAll calls).discover w signature useCache
      (∀ r, out.result = .ok r → out.engine.phase = .resolved) ∧
      (∀ err, out.result = .error (.notFound err) → out.engine.phase = .exhausted) ∧
      (∀ x, out.result = .error (.signature x) → out.engine.phase = (e.serveAll calls).phase) := by
  constructor
  · have hb : Balanced [] e.stats := hnew ▸ balanced_nil
    exact hb.serveAll calls
  · intro w signature useCache
    rw [discover]
    cases Signature.normalize signature with
    | error f =>
      refine ⟨fun r hr => ?_, fun err herr => ?_, fun _ _ => rfl⟩
      · cases hr
      · cases f with
        | refused x => cases herr
        | misfit m => cases herr
    | ok sig =>
      have hend := discoverFor_ends (e.serveAll calls) w sig useCache
      exact ⟨hend.phase.1, hend.phase.2, fun x hx => absurd hx (hend.not_signature x)⟩

open History in
/-- Searching for a module and asking for it again: the first call has been accounted for, and the second one is
answered from the store. -/
theorem serveAll_balanced_lone :
    let calls := [(lone 5.0 none, Request.discover moduleQuestion false)]
    loneEngine.stats = {} ∧ Balanced (moments loneEngine calls) (loneEngine.serveAll calls).stats ∧
      ∃ x r, ((loneEngine.serveAll calls).discover (lone 60.0 x) moduleQuestion true).result = .ok r ∧
        ((loneEngine.serveAll calls).discover (lone 60.0 x) moduleQuestion true).engine.phase = .resolved := by
  intro calls
  obtain ⟨out, x, rfl, -, -, r, hr, -⟩ := discover_lone
  rw [← serveAll_discover] at hr
  obtain ⟨hbalanced, hphase⟩ := serveAll_balanced loneEngine rfl calls
  exact ⟨rfl, hbalanced, x, r, hr, (hphase (lone 60.0 x) moduleQuestion true).1 r hr⟩

open Cache in
/-- A call that cannot read the store is counted neither as a hit nor as a miss. -/
theorem lookup_uncounted :
    let e : Engine := { Ranking.plainEngine with cache := Sharing.deskCache }
    let calls := [(Sharing.deskWorld (some (fileOf (.obj nestedType))),
      Request.discover (.obj [("type", .str "class"), ("methods", .arr [.str "get"])]) true)]
    e.stats = {} ∧ (moments e calls).countP (·.request.asks) = 1 ∧
      (e.serveAll calls).stats.cacheHits + (e.serveAll calls).stats.cacheMisses = 0 := by
  intro e calls
  have hget : ∀ key, (Sharing.deskCache.get (Sharing.deskWorld (some (fileOf (.obj nestedType)))) key).1 =
      .error .wrongKind := by
    intro key
    have hserved : Sharing.deskCache.served (Sharing.deskWorld (some (fileOf (.obj nestedType)))) =
        .error .wrongKind := by
      unfold served ensureLoaded
      rw [load_nestedType]
      rfl
    rw [get_eq_lookup, hserved]
    rfl
  have hasks : (moments e calls).countP (·.request.asks) = 1 := rfl
  have hloses : (moments e calls).countP (·.loses) = 1 := by
    have hsig : Signature.normalize (.obj [("type", .str "class"), ("methods", .arr [.str "get"])]) =
        .ok Ranking.storeSignature := rfl
    simp [calls, e, moments, Moment.loses, hsig, hget, Except.isOk, Except.toBool]
  have hnew : Balanced [] e.stats := balanced_nil
  have hlookups := (hnew.serveAll calls).lookups
  rw [List.nil_append] at hlookups
  refine ⟨rfl, hasks, ?_⟩
  omega

end Engine

end ShapeSearch
