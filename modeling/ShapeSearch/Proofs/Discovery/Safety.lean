import ShapeSearch.Proofs.Discovery.Repeat
import ShapeSearch.Proofs.Settings

/-!
# Results that are safe

A search passes over the files that its settings block.  An answer from the store is not held against the
settings of the engine that gives it; what is checked is that the file has not changed since it was found.
So a result is as safe as it was for the call that found it:

    Run places s₀ s → e.discover s.world signature useCache gives r →
      the text at r.path is safe under the settings of the call that found r           (discover_safe)

That is enough for settings that block no more than those of that call (`Guards`).  But engines share a file
of entries whatever their settings, and settings that block more can be given a file that they block
(`discover_blocked`).
-/

namespace ShapeSearch

def Node.lines? : Node → Option String
  | .file f => f.lines
  | _ => none

def World.lines? (w : World) (path : String) : Option String :=
  (w.stat? path).bind Node.lines?

theorem World.lines?_of_stat {w : World} {path : String} {n : Node} (h : w.stat path = .ok n) :
    w.lines? path = n.lines? := by
  rw [World.lines?, World.stat?, h]
  rfl

namespace Safety

/-- Settings do not allow unsafe texts, and block every text that other settings block. -/
structure Guards (s₀ s : Settings) : Prop where
  strict : s₀.allowUnsafe.isTruthy = false
  tokens : ∀ tokens token, s.blockedTokens.iterate = .ok tokens → Json.str token ∈ tokens →
    ∃ tokens₀, s₀.blockedTokens.iterate = .ok tokens₀ ∧ Json.str token ∈ tokens₀

theorem Guards.refl {s : Settings} (h : s.allowUnsafe.isTruthy = false) : Guards s s :=
  ⟨h, fun tokens _ htokens hmem => ⟨tokens, htokens, hmem⟩⟩

theorem Guards.not_blocks {s₀ s : Settings} {text : String} (h : Guards s₀ s) (hsafe : Safe s₀ text) :
    ¬Blocks s text := by
  rintro ⟨tokens, token, htokens, hmem, hne, hpart⟩
  obtain ⟨tokens₀, htokens₀, hmem₀⟩ := h.tokens tokens token htokens hmem
  rcases hsafe with hallowed | hnone
  · rw [h.strict] at hallowed
    cases hallowed
  · exact hnone ⟨tokens₀, token, htokens₀, hmem₀, hne, hpart⟩

end Safety

theorem Engine.Finds.safe {e : Engine} {w : World} {sig : Signature} {r : SearchResult} {winner : Candidate}
    (h : e.Finds w sig r winner) : ∃ text, w.lines? r.path = some text ∧ Safety.Safe e.settings text := by
  obtain ⟨path, d, -, hsafe, rfl⟩ := h.evaluated
  obtain ⟨f, hf, htext, -⟩ := h.describes.file
  rw [h.result.1]
  exact ⟨d.content, (World.lines?_of_stat hf).trans htext, Safety.safe_of_isSafe hsafe⟩

namespace History

open Engine

variable {places : Set (List String)} {s s' s₀ : Session}

/-- Wherever the text at a path differs between some worlds, so does the time of change. -/
def Marked (worlds : List World) (path : String) : Prop :=
  ∀ w ∈ worlds, ∀ w' ∈ worlds, ∀ t t', w.mtimeMs path = .ok t → w'.mtimeMs path = .ok t' →
    t.eq t' = true → w.lines? path = w'.lines? path

theorem Step.calls_past (hstep : Step places s s') (hnow : s.world ∈ s.past)
    (h : ∀ c ∈ s.calls, c.world ∈ s.past) : ∀ c ∈ s'.calls, c.world ∈ s'.past := by
  cases hstep with
  | make _ _ => exact h
  | discover _ signature useCache _ =>
    intro c hc
    rcases List.mem_cons.mp hc with rfl | hc
    · exact List.mem_cons_of_mem _ hnow
    · exact List.mem_cons_of_mem _ (h c hc)
  | clear _ _ => exact fun c hc => List.mem_cons_of_mem _ (h c hc)
  | other _ _ => exact h
  | outside _ => exact fun c hc => List.mem_cons_of_mem _ (h c hc)

theorem Run.calls_past (hstart : Start places s₀) (hrun : Run places s₀ s) :
    ∀ c ∈ s.calls, c.world ∈ s.past := by
  induction hrun with
  | refl =>
    intro c hc
    rw [hstart.calls] at hc
    cases hc
  | tail hrun hstep ih => exact hstep.calls_past (hstart.sound.run hrun).now ih

/-- Whenever an engine gives a result, the text of its file is safe under the settings of the call that found
it, if changes of the file are marked: this call, or an earlier call with the same key, if the result comes
from the store.  So it is not blocked by settings that the settings of that call guard. -/
theorem discover_safe (hstart : Start places s₀) (hrun : Run places s₀ s) {e : Engine} (he : e ∈ s.engines)
    {signature : Json} {useCache : Bool} {r : SearchResult}
    (hr : (e.discover s.world signature useCache).result = .ok r) (hmarked : Marked s.past r.path) :
    ∃ text, s.world.lines? r.path = some text ∧
      (r.fromCache = false → Safety.Safe e.settings text) ∧
      (r.fromCache = true → ∃ sig, Signature.normalize signature = .ok sig ∧
        ∃ c ∈ s.calls, ∃ sig₀ r₀ winner, c.Resolves sig₀ r₀ winner ∧ r₀.path = r.path ∧
          sig₀.key (some c.engine.root) = sig.key (some e.root) ∧
          Safety.Safe c.engine.settings text ∧
          (Safety.Guards c.engine.settings e.settings → ¬Safety.Blocks e.settings text)) := by
  cases hcache : r.fromCache with
  | false =>
    obtain ⟨sig, winner, -, hfinds, -⟩ := discover_fresh hr hcache
    obtain ⟨text, htext, hsafe⟩ := hfinds.safe
    exact ⟨text, htext, fun _ => hsafe, nofun⟩
  | true =>
    have hsound := hstart.sound.run hrun
    obtain ⟨sig, entry, hsig, ⟨c, hc, sig₀, r₀, winner, hstores⟩, hvalid, hstored⟩ :=
      @Call.answered _ ⟨e, s.world, signature, useCache⟩ (hsound.stores e he) (hsound.finds he) r hr hcache
    have hpath : r.path = r₀.path := (storedResult_eq_ok hstored).1.trans hstores.path
    obtain ⟨text, htext, hsafe⟩ := hstores.resolves.finds.safe
    -- the file has the time of change that it had when it was found, and so the same text
    obtain ⟨t₀, t, -, ht₀, ht, heq⟩ := hstores.mtimes hvalid
    rw [hstores.path, ← hpath] at ht
    rw [← hpath] at ht₀ htext
    have hsame := hmarked s.world hsound.now c.world (hrun.calls_past hstart c hc) t t₀ ht ht₀ heq
    exact ⟨text, hsame.trans htext, nofun, fun _ => ⟨sig, hsig, c, hc, sig₀, r₀, winner, hstores.resolves,
      hpath.symm, hstores.key.symm, hsafe, fun hguards => hguards.not_blocks hsafe⟩⟩

/-! ## A file that is blocked -/

/-- Paths lead to the same places whatever the clock, and with and without the file of the store. -/
theorem sameLinks_solo (text : String) (clock clock' : Float) (x x' : Option File) :
    (solo text clock x).files.SameLinks (solo text clock' x').files := by
  have hnone : ∀ (clock : Float) (x : Option File) q target,
      (solo text clock x).files.lookup q ≠ some (.link target) := by
    intro clock x q target h
    rcases lookup_solo h with ⟨-, es, hn⟩ | ⟨-, hn⟩ | ⟨-, f, -, hn⟩ <;> cases hn
  exact fun q target => ⟨fun h => (hnone _ _ q target h).elim, fun h => (hnone _ _ q target h).elim⟩

/-- A path that leads somewhere leads to the same text, if the file of the store is the same wherever it
is. -/
theorem lines?_solo {text : String} {clock clock' : Float} {x x' : Option File}
    (hx : ∀ f f', x = some f → x' = some f' → f = f') {path : String} {t t' : Number}
    (h : (solo text clock x).mtimeMs path = .ok t) (h' : (solo text clock' x').mtimeMs path = .ok t') :
    (solo text clock x).lines? path = (solo text clock' x').lines? path := by
  obtain ⟨n, hn, -⟩ := bind_eq_ok.mp h
  obtain ⟨n', hn', -⟩ := bind_eq_ok.mp h'
  obtain ⟨q, hq, hlookup⟩ := Node.stat_eq_ok (World.stat_eq_ok hn).2
  obtain ⟨q', hq', hlookup'⟩ := Node.stat_eq_ok (World.stat_eq_ok hn').2
  have hplace : q' = q := by
    have habs : (solo text clock' x').absolute path = (solo text clock x).absolute path := rfl
    rw [habs, ← (sameLinks_solo text clock clock' x x').realPath?_eq, hq] at hq'
    exact (Option.some.inj hq').symm
  rw [World.lines?_of_stat hn, World.lines?_of_stat hn']
  rw [hplace] at hlookup'
  rcases lookup_solo hlookup with ⟨rfl, es, rfl⟩ | ⟨rfl, rfl⟩ | ⟨rfl, f, hf, rfl⟩
  · rcases lookup_solo hlookup' with ⟨-, es', rfl⟩ | ⟨hr, -⟩ | ⟨hr, -⟩
    · rfl
    · cases hr
    · cases hr
  · rcases lookup_solo hlookup' with ⟨hr, -⟩ | ⟨-, rfl⟩ | ⟨hr, -⟩
    · cases hr
    · rfl
    · simp at hr
  · rcases lookup_solo hlookup' with ⟨hr, -⟩ | ⟨hr, -⟩ | ⟨-, f', hf', rfl⟩
    · cases hr
    · simp at hr
    · rw [hx f f' hf hf']

/-- In the worlds around a call, and in the one of the minute after it, every change is marked. -/
theorem marked_solo (text : String) (x : File) (path : String) :
    Marked [solo text 60.0 (some x), solo text 5.0 (some x), solo text 5.0 none] path := by
  have hform : ∀ w ∈ [solo text 60.0 (some x), solo text 5.0 (some x), solo text 5.0 none],
      ∃ clock y, w = solo text clock y ∧ ∀ f, y = some f → f = x := by
    simp only [List.forall_mem_cons, List.not_mem_nil, false_imp_iff, implies_true, and_true]
    exact ⟨⟨_, _, rfl, by simp⟩, ⟨_, _, rfl, by simp⟩, ⟨_, _, rfl, by simp⟩⟩
  intro w hw w' hw' t t' ht ht' _
  obtain ⟨clock, y, rfl, hy⟩ := hform w hw
  obtain ⟨clock', y', rfl, hy'⟩ := hform w' hw'
  exact lines?_solo (fun f f' hf hf' => (hy f hf).trans (hy' f' hf').symm) ht ht'

theorem run_solo {e new : Engine} {settings settings' : Settings} {text : String}
    (hmake : Engine.make (solo text 5.0 none) "/" settings = .ok e)
    (hnew : Engine.make (solo text 5.0 none) "/" settings' = .ok new) (hcache : e.cache = loneEngine.cache)
    (hsame : new.cache = loneEngine.cache) {signature : Json} {x : Option File}
    (hworld : (e.discover (solo text 5.0 none) signature false).world = solo text 5.0 x) :
    Run {["c.json"]} ⟨[], solo text 5.0 none, [solo text 5.0 none], []⟩
      ⟨[(e.discover (solo text 5.0 none) signature false).engine, new], solo text 60.0 x,
        [solo text 60.0 x, solo text 5.0 x, solo text 5.0 none],
        [⟨e, solo text 5.0 none, signature, false⟩]⟩ := by
  have hkept : ∀ cache, cache = loneEngine.cache → KeptAt {["c.json"]} (solo text 5.0 none) cache := by
    rintro cache rfl
    exact keptAt_solo text 5.0 none
  have hfiles := files_solo text 60.0 5.0 x
  have hplace := place?_solo text 60.0 5.0 x
  have hfirst : ([e, new] : List Engine)[0]? = some e := rfl
  have hengines : Run {["c.json"]} ⟨[], solo text 5.0 none, [solo text 5.0 none], []⟩
      ⟨[e, new], solo text 5.0 none, [solo text 5.0 none], []⟩ :=
    .tail (.single (.make hmake (hkept _ hcache))) (.make hnew (hkept _ hsame))
  have hsearch := hengines.tail (.discover hfirst signature false (.inl hworld.symm))
  exact hsearch.tail (.outside (((start_solo text).sound.run hsearch).undisturbed hplace
    fun p _ => by rw [hfiles]))

theorem answer_solo {e new : Engine} {settings settings' : Settings} {text : String}
    (hmake : Engine.make (solo text 5.0 none) "/" settings = .ok e)
    (hnew : Engine.make (solo text 5.0 none) "/" settings' = .ok new) (hcache : e.cache = loneEngine.cache)
    (hsame : new.cache = loneEngine.cache) (hroot : new.root = e.root) {signature : Json} {sig : Signature}
    (hsig : Signature.normalize signature = .ok sig)
    (htest : findsSingle e (solo text 5.0 none) sig (isPlain e text)) :
    ∃ s r, Run {["c.json"]} ⟨[], solo text 5.0 none, [solo text 5.0 none], []⟩ s ∧ new ∈ s.engines ∧
      s.calls = [⟨e, solo text 5.0 none, signature, false⟩] ∧ (∀ path, Marked s.past path) ∧
      (new.discover s.world signature true).result = .ok r ∧ r.fromCache = true ∧
      s.world.lines? r.path = some (Text.unifyLineEnds text) := by
  obtain ⟨R, winner, hfinds, hplain⟩ := finds_of_single htest
  obtain ⟨hpath, hexact, -, x, entry, hentry, hworld, -, hkeeps⟩ := discover_solo hcache hsig hfinds hplain
  obtain ⟨-, ⟨shown, hshown⟩, hvalid⟩ := holds_solo hcache hfinds hpath (some x)
  have hfile : new.cache.Keeps (solo text 60.0 (some x)) [(sig.key (some e.root), entry)] := by
    rw [hsame]
    exact hkeeps 60.0
  obtain ⟨hanswer, hrepeats⟩ := discover_of_file hsig hfinds hentry hnew (by rw [hsame]; rfl) hfile
    (List.nodup_singleton _) (by rw [hroot]; simp [Fields.get?]) (hvalid entry hentry) hexact
    (by rw [hroot]; exact hshown)
  refine ⟨_, _, run_solo hmake hnew hcache hsame hworld, List.mem_cons_of_mem _ (List.mem_singleton_self new), rfl,
    marked_solo text x, hanswer, rfl, ?_⟩
  rw [hrepeats.path, hpath]
  exact World.lines?_of_stat (stat_solo text 60.0 (some x))

def blocking (token : String) : Settings := { loneSettings with blockedTokens := .ofTexts [token] }

def blockingEngine (token : String) : Engine := { loneEngine with settings := blocking token }

/-- An engine that blocks `y` finds a file with the text `x`, and another one like it answers from the store:
the file holds nothing that they block. -/
theorem discover_safe_again :
    Start {["c.json"]} ⟨[], solo "x" 5.0 none, [solo "x" 5.0 none], []⟩ ∧
      ∃ s r, Run {["c.json"]} ⟨[], solo "x" 5.0 none, [solo "x" 5.0 none], []⟩ s ∧
        blockingEngine "y" ∈ s.engines ∧ (∀ path, Marked s.past path) ∧
        ((blockingEngine "y").discover s.world moduleQuestion true).result = .ok r ∧ r.fromCache = true ∧
        ∃ text, s.world.lines? r.path = some text ∧ ¬Safety.Blocks (blocking "y") text := by
  have hsig : Signature.normalize moduleQuestion = .ok moduleSignature := rfl
  have htest : findsSingle (blockingEngine "y") (solo "x" 5.0 none) moduleSignature
      (isPlain (blockingEngine "y") "x") = true := by decide +kernel
  have hmake : Engine.make (solo "x" 5.0 none) "/" (blocking "y") = .ok (blockingEngine "y") := rfl
  obtain ⟨s, r, hrun, hmem, hcalls, hmarked, hr, hcache, -⟩ :=
    answer_solo hmake hmake rfl rfl rfl hsig htest
  refine ⟨start_solo "x", s, r, hrun, hmem, hmarked, hr, hcache, ?_⟩
  obtain ⟨text, htext, -, hstored⟩ := discover_safe (start_solo "x") hrun hmem hr (hmarked r.path)
  obtain ⟨-, -, c, hc, -, -, -, -, -, -, -, hguards⟩ := hstored hcache
  have hengine : c.engine = blockingEngine "y" := by
    rw [hcalls] at hc
    rw [List.mem_singleton.mp hc]
  rw [hengine] at hguards
  exact ⟨text, htext, hguards (.refl rfl)⟩

def freeEngine : Engine :=
  { loneEngine with settings := { loneSettings with allowUnsafe := .bool true } }

/-- An engine that allows unsafe texts finds a file with the text `x`, and an engine that blocks `x` answers
with it from the store. -/
theorem discover_blocked :
    Start {["c.json"]} ⟨[], solo "x" 5.0 none, [solo "x" 5.0 none], []⟩ ∧
      ∃ s r, Run {["c.json"]} ⟨[], solo "x" 5.0 none, [solo "x" 5.0 none], []⟩ s ∧
        blockingEngine "x" ∈ s.engines ∧ (∀ path, Marked s.past path) ∧
        ((blockingEngine "x").discover s.world moduleQuestion true).result = .ok r ∧ r.fromCache = true ∧
        (blocking "x").allowUnsafe.isTruthy = false ∧
        ∃ text, s.world.lines? r.path = some text ∧ Safety.Blocks (blocking "x") text := by
  have hsig : Signature.normalize moduleQuestion = .ok moduleSignature := rfl
  have htest : findsSingle freeEngine (solo "x" 5.0 none) moduleSignature (isPlain freeEngine "x") = true := by
    decide +kernel
  have hmake : Engine.make (solo "x" 5.0 none) "/" freeEngine.settings = .ok freeEngine := rfl
  have hnew : Engine.make (solo "x" 5.0 none) "/" (blocking "x") = .ok (blockingEngine "x") := rfl
  obtain ⟨s, r, hrun, hmem, -, hmarked, hr, hcache, htext⟩ := answer_solo hmake hnew rfl rfl rfl hsig htest
  have hholds : Text.contains (Text.lower (Text.unifyLineEnds "x")) (Text.lower "x") = true := by decide +kernel
  exact ⟨start_solo "x", s, r, hrun, hmem, hmarked, hr, hcache, rfl, _, htext, _, "x", rfl,
    List.mem_singleton_self _, by decide, hholds⟩

end History

end ShapeSearch
