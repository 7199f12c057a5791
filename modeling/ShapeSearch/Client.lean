import ShapeSearch.Discovery.Engine
import ShapeSearch.Settings.Reading

/-!
# Clients

A client answers signatures under one set of settings.  It keeps an engine for every root it has been
asked about, so that what one call has stored serves the next.
-/

namespace ShapeSearch

def version : String := "1.0.0"

structure Client where
  settings : Settings
  engines : Fields Engine := []

namespace Client

structure Outcome (α : Type) where
  result : Except Failure α
  client : Client
  world : World

def make (s : Settings) : Except (Fault SettingsError) Client := do
  s.validate
  .ok { settings := s }

def ofEnvironment (env : Fields String) (changes : Fields Json) :
    Except (Fault SettingsError) Client := do
  let s ← Fault.refuse (Settings.ofEnvironment env)
  make (← Fault.lift (s.replace changes))

/-- The engine for a root, made at its first use, and the root it goes by. -/
def engine (c : Client) (w : World) (root : String) : Except Misfit (String × Engine) := do
  let key ← w.realPath root
  match c.engines.get? key with
  | some e => .ok (key, e)
  | none => .ok (key, ← Engine.make w key c.settings)

def withEngine {α : Type} (c : Client) (w : World) (root : String)
    (run : Engine → Engine.Outcome α) : Outcome α :=
  match c.engine w root with
  | .error m => ⟨.error (.misfit m), c, w⟩
  | .ok (key, e) =>
    let o := run e
    ⟨o.result, { c with engines := c.engines.put key o.engine }, o.world⟩

def discover (c : Client) (w : World) (root : String) (signature : Json) (useCache : Bool) :
    Outcome SearchResult :=
  c.withEngine w root fun e => e.discover w signature useCache

/-- The first items of a list; a negative number leaves out items at the end. -/
def firstItems {α : Type} (n : Int) (xs : List α) : List α :=
  if 0 ≤ n then xs.take n.toNat else xs.take (xs.length - n.natAbs)

def candidates (c : Client) (w : World) (root : String) (signature : Json) (limit : Option Int) :
    Outcome (List Candidate) :=
  c.withEngine w root fun e =>
    match e.collectFor w signature true with
    | (.error f, e) => ⟨.error f, e, w⟩
    | (.ok found, e) =>
      let (ranked, e) := e.rank found
      ⟨.ok (match limit with
        | none => ranked
        | some n => firstItems n ranked), e, w⟩

def feedback (c : Client) (w : World) (root : String) (signature : Json) (path : String)
    (accepted : Bool) : Outcome Unit :=
  c.withEngine w root fun e =>
    let (r, e) := e.recordFeedback signature path accepted
    ⟨r, e, w⟩

def clearCache (c : Client) (w : World) (root : String) : Outcome Unit :=
  c.withEngine w root fun e =>
    let (e, w) := e.clearCache w
    ⟨.ok (), e, w⟩

def load (c : Client) (w : World) (root path : String) : Outcome Unit :=
  c.withEngine w root fun e =>
    ⟨match Engine.load w path with
      | .ok () => .ok ()
      | .error l => .error (.load l), e, w⟩

def stats (c : Client) (w : World) (root : String) : Outcome Stats :=
  c.withEngine w root fun e => ⟨.ok e.stats, e, w⟩

def health (c : Client) : Fields Json := [
  ("version", .str version),
  ("cache_enabled", c.settings.cacheEnabled),
  ("cache_file", c.settings.cacheFile),
  ("concurrency", c.settings.concurrency),
  ("roots", .ofTexts c.engines.keys)]

end Client

end ShapeSearch
