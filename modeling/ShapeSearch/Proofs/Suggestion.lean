import ShapeSearch.Discovery.Result
import ShapeSearch.Outline.Module
import ShapeSearch.Proofs.Resolution
import ShapeSearch.Proofs.Signature

/-!
# Suggested signatures

A suggestion describes the main export of a file, and is meant to be asked for in the next search.  On the
way back its texts are trimmed, its name may be taken for a pattern and its kind must be one that can be
asked for, so not every export is found again by its own description.  `Describable` says which ones are:

    (∃ sig, normalize g = .ok sig ∧ Passes s sig e) ↔ Describable e          (suggestion_usable_iff)

The weights have to be numbers of a moderate size (`Settings.Moderate`), as they are unless they are changed:
then counting points cannot fail (`agreement_returns`).
-/

namespace ShapeSearch

/-! ## Reading a description -/

namespace Suggestion

open Matching Signature

theorem clean_nonEmpty (s : Option String) : clean (nonEmpty s) = clean s := by
  cases s with
  | none => rfl
  | some u =>
    rw [nonEmpty]
    split
    · next h =>
      subst h
      rfl
    · rfl

def toldKind (e : ExportEntry) : Option String :=
  if e.info.kind = "unknown" then none else some e.info.kind

def toldExport (e : ExportEntry) : Option String :=
  if e.access.type = .named then e.access.name else none

theorem textField_eq (k : String) (s : Option String) : textField k s = Signature.textField k (nonEmpty s) := by
  cases s with
  | none => rfl
  | some u =>
    rw [textField, nonEmpty]
    split <;> rfl

theorem listField_eq (k : String) {n : ℕ} (hn : 0 < n) (xs : List String) :
    listField k n xs = Signature.listField k (xs.take n) := by
  cases xs with
  | nil => simp [listField, Signature.listField]
  | cons x r =>
    obtain ⟨n, rfl⟩ := Nat.exists_eq_succ_of_ne_zero hn.ne'
    rfl

theorem fieldsOf_eq (e : ExportEntry) : fieldsOf e =
    Signature.textField "name" (nonEmpty e.info.name) ++ Signature.textField "type" (nonEmpty (toldKind e)) ++
      Signature.textField "exports" (nonEmpty (toldExport e)) ++
      Signature.listField "methods" (e.info.methods.take 5) ++
      Signature.listField "properties" (e.info.properties.take 3) ++
      Signature.textField "extends" (nonEmpty e.info.base) := by
  rw [fieldsOf, listField_eq _ (by decide), listField_eq _ (by decide)]
  simp only [textField_eq, toldKind, toldExport]

theorem get?_fieldsOf (e : ExportEntry) :
    Fields.get? (fieldsOf e) "name" = (nonEmpty e.info.name).map Json.str ∧
    Fields.get? (fieldsOf e) "type" = (nonEmpty (toldKind e)).map Json.str ∧
    Fields.get? (fieldsOf e) "exports" = (nonEmpty (toldExport e)).map Json.str ∧
    Fields.get? (fieldsOf e) "methods" = nonEmptyList (e.info.methods.take 5) ∧
    Fields.get? (fieldsOf e) "properties" = nonEmptyList (e.info.properties.take 3) ∧
    Fields.get? (fieldsOf e) "extends" = (nonEmpty e.info.base).map Json.str ∧
    Fields.get? (fieldsOf e) "instanceof" = none ∧ Fields.get? (fieldsOf e) "language" = none := by
  simp only [fieldsOf_eq, Fields.get?_append, get?_textField, get?_listField]
  simp

/-- A description has no fields but the known ones. -/
theorem fieldsOf_known (e : ExportEntry) : (fieldsOf e).filter (fun p => !knownFields.contains p.1) = [] := by
  rw [List.filter_eq_nil_iff]
  intro p hp
  simp only [fieldsOf_eq, List.mem_append] at hp
  rcases hp with ((((hp | hp) | hp) | hp) | hp) | hp
  all_goals first
    | rw [key_of_textField hp]; decide
    | rw [key_of_listField hp]; decide

/-- The signature that a description is read as, apart from its kind and its name. -/
def told (e : ExportEntry) (type : Option TargetType) (name : Option NameQuery) : Signature :=
  { name, type, exports := clean (toldExport e), methods := tidied (e.info.methods.take 5)
    properties := tidied (e.info.properties.take 3), base := clean e.info.base }

def texts (e : ExportEntry) : List String :=
  e.info.name.toList ++ (toldKind e).toList ++ (toldExport e).toList ++ e.info.methods.take 5 ++
    e.info.properties.take 3 ++ e.info.base.toList

variable {e : ExportEntry}

theorem isConstrained_told {type : Option TargetType} {name : Option NameQuery}
    (htype : readKindOf (clean (toldKind e)) = .ok type) (hname : readNameOf (clean e.info.name) = .ok name) :
    (told e type name).isConstrained = true ↔ ∃ t ∈ texts e, Text.trim t ≠ "" := by
  have hinstance : (none : Option String).isSome = false := rfl
  simp only [told, isConstrained, Bool.or_eq_true, isSome_readKindOf htype, isSome_readNameOf hname,
    isSome_clean, not_isEmpty_tidied, hinstance, Bool.false_eq_true, or_false, texts, List.mem_append,
    or_and_right, exists_or]

/-- Only the kind and the name of a description can be refused, unless all of it is blank. -/
theorem normalize_fieldsOf {sig : Signature} : Signature.normalize (.obj (fieldsOf e)) = .ok sig ↔
    ∃ type name, readKindOf (clean (toldKind e)) = .ok type ∧ readNameOf (clean e.info.name) = .ok name ∧
      (∃ t ∈ texts e, Text.trim t ≠ "") ∧ sig = told e type name := by
  obtain ⟨hname, htype, hexports, hmethods, hproperties, hbase, hinstance, hlanguage⟩ := get?_fieldsOf e
  have hkind : readType (Fields.get? (fieldsOf e) "type") = readKindOf (clean (toldKind e)) := by
    rw [htype, readType, cleanText_map, clean_nonEmpty]
    cases clean (toldKind e) <;> rfl
  have hread : nameFrom (Fields.get? (fieldsOf e) "name") none = readNameOf (clean e.info.name) := by
    rw [hname, nameFrom, cleanText_map, clean_nonEmpty]
    rfl
  have htext : ∀ {k s}, Fields.get? (fieldsOf e) k = (nonEmpty s).map Json.str →
      cleanText k (Fields.get? (fieldsOf e) k) = .ok (clean s) := fun h => by
    rw [h, cleanText_map, clean_nonEmpty]
  have hlist : ∀ {k xs}, Fields.get? (fieldsOf e) k = nonEmptyList xs →
      cleanList .usual k (Fields.get? (fieldsOf e) k) = .ok (tidied xs) := fun h => by
    rw [h, cleanList_of_holds _ (holds_nonEmptyList _)]
  have hnone : ∀ {k}, Fields.get? (fieldsOf e) k = none → cleanText k (Fields.get? (fieldsOf e) k) = .ok none :=
    fun h => by rw [h]; rfl
  rw [Signature.normalize, ofFields_eq_ok]
  constructor
  · intro h
    have hsig : sig = told e sig.type sig.name := by
      obtain ⟨t, ht, hl⟩ := h.language
      cases (hnone hlanguage).symm.trans ht
      have hx := Except.ok.inj ((htext hexports).symm.trans h.exports)
      have hm := Except.ok.inj ((hlist hmethods).symm.trans (cleanList_eq_ok.mpr h.methods))
      have hp := Except.ok.inj ((hlist hproperties).symm.trans (cleanList_eq_ok.mpr h.properties))
      have hb := Except.ok.inj ((htext hbase).symm.trans h.base)
      have hi := Except.ok.inj ((hnone hinstance).symm.trans h.instanceOf)
      have he := h.extra.trans (fieldsOf_known e)
      rw [told, hx, hm, hp, hb]
      cases sig
      cases hi
      cases hl
      cases he
      rfl
    refine ⟨sig.type, sig.name, hkind ▸ h.type, hread ▸ h.name, ?_, hsig⟩
    exact (isConstrained_told (hkind ▸ h.type) (hread ▸ h.name)).mp (hsig ▸ h.constrained)
  · rintro ⟨type, name, hk, hn, htexts, rfl⟩
    exact ⟨hread ▸ hn, hkind ▸ hk, htext hexports, cleanList_eq_ok.mp (hlist hmethods),
      cleanList_eq_ok.mp (hlist hproperties), htext hbase, hnone hinstance, ⟨none, hnone hlanguage, rfl⟩,
      (fieldsOf_known e).symm, (isConstrained_told hk hn).mpr htexts⟩

end Suggestion

/-! ## Counting with weights of a moderate size -/

/-- A computation that gives a result with a property. -/
def Returns {α : Type} (P : α → Prop) (x : Except Misfit α) : Prop :=
  ∃ a, x = .ok a ∧ P a

theorem Returns.bind {α β : Type} {P : α → Prop} {Q : β → Prop} {x : Except Misfit α}
    {f : α → Except Misfit β}
    (hx : Returns P x) (hf : ∀ a, P a → Returns Q (f a)) : Returns Q (x >>= f) := by
  obtain ⟨a, rfl, ha⟩ := hx
  exact hf a ha

theorem Returns.mono {α : Type} {P Q : α → Prop} {x : Except Misfit α} (h : Returns P x)
    (hPQ : ∀ a, P a → Q a) :
    Returns Q x := by
  obtain ⟨a, ha, hp⟩ := h
  exact ⟨a, ha, hPQ a hp⟩

namespace Number

/-- A float, or a whole number that is not too far from zero. -/
def isBelow (k : ℕ) : Number → Bool
  | .int n => n.natAbs < k
  | .float _ => true

/-- A moderate size: weights below it can be taken a few times and added up. -/
def moderate : ℕ := 2 ^ 1000

theorem moderate_gt : 6 < moderate := by
  decide +kernel

theorem moderate_le : 64 * moderate ≤ floatLimit := by
  decide +kernel

variable {a b : Number} {j k : ℕ}

theorem isBelow_int {n : ℤ} : (Number.int n).isBelow k = true ↔ n.natAbs < k :=
  decide_eq_true_iff

theorem isBelow_mono (h : a.isBelow j) (hjk : j ≤ k) : a.isBelow k = true := by
  cases a with
  | float x => rfl
  | int n => exact isBelow_int.mpr (lt_of_lt_of_le (isBelow_int.mp h) hjk)

theorem toFloat_returns (h : a.isBelow k) (hk : k ≤ floatLimit) :
    Returns (fun _ => True) a.toFloat := by
  cases a with
  | float x => exact ⟨x, rfl, trivial⟩
  | int n =>
    rw [toFloat, if_pos (lt_of_lt_of_le (isBelow_int.mp h) hk)]
    exact ⟨_, rfl, trivial⟩

theorem onFloats_returns (f : Float → Float → Float) (ha : a.isBelow j) (hb : b.isBelow j)
    (hj : j ≤ floatLimit) : Returns (fun c => c.isBelow k = true) (onFloats f a b) :=
  (toFloat_returns ha hj).bind fun _ _ => (toFloat_returns hb hj).bind fun _ _ => ⟨_, rfl, rfl⟩

theorem add_returns (ha : a.isBelow j) (hb : b.isBelow k) (h : j + k ≤ floatLimit) :
    Returns (fun c => c.isBelow (j + k) = true) (a.add b) := by
  unfold add
  split
  · next m n =>
    rw [isBelow_int] at ha hb
    exact ⟨_, rfl, isBelow_int.mpr (by omega)⟩
  · exact onFloats_returns Float.add (isBelow_mono ha (Nat.le_add_right j k))
      (isBelow_mono hb (Nat.le_add_left k j)) h

theorem mul_below (ha : a.isBelow j) (hb : b.isBelow k) (hj : j ≤ floatLimit)
    (hk : k ≤ floatLimit) : Returns (fun c => c.isBelow (j * k) = true) (a.mul b) := by
  unfold mul
  split
  · rw [isBelow_int] at ha hb
    refine ⟨_, rfl, isBelow_int.mpr ?_⟩
    rw [Int.natAbs_mul]
    exact Nat.mul_lt_mul'' ha hb
  · exact (toFloat_returns ha hj).bind fun _ _ => (toFloat_returns hb hk).bind fun _ _ => ⟨_, rfl, rfl⟩

end Number

open Number (moderate moderate_gt moderate_le)

/-- A value that counts as a number, one that is not too far from zero. -/
def Json.IsBelow (k : ℕ) (v : Json) : Prop :=
  v.numeric?.any (Number.isBelow k) = true

theorem Json.IsBelow.mono {j k : ℕ} {v : Json} (h : v.IsBelow j) (hjk : j ≤ k) : v.IsBelow k := by
  unfold IsBelow at h ⊢
  cases hv : v.numeric? with
  | none => simp [hv] at h
  | some n =>
    rw [hv] at h
    exact Number.isBelow_mono h hjk

theorem Json.isBelow_num {k : ℕ} {n : Number} (h : n.isBelow k) : (Json.num n).IsBelow k := h

theorem Json.IsBelow.number {k : ℕ} {v : Json} (h : v.IsBelow k) : v.number?.all (Number.isBelow k) = true := by
  cases v with
  | num n => exact h
  | _ => rfl

namespace Weights

/-- A table of at most `n` numbers that are at most six times a moderate one. -/
def Counted (n : ℕ) (b : Fields Json) : Prop :=
  b.length ≤ n ∧ ∀ p ∈ b, p.2.IsBelow (6 * moderate)

theorem Counted.append {m n : ℕ} {a b : Fields Json} (ha : Counted m a) (hb : Counted n b) :
    Counted (m + n) (a ++ b) :=
  ⟨by rw [List.length_append]; exact Nat.add_le_add ha.1 hb.1,
    fun p hp => (List.mem_append.mp hp).elim (ha.2 p) (hb.2 p)⟩

theorem counted_nil (n : ℕ) : Counted n [] :=
  ⟨Nat.zero_le n, by simp⟩

theorem counted_single {name : String} {v : Json} (h : v.IsBelow (6 * moderate)) : Counted 1 [(name, v)] :=
  ⟨Nat.le_refl 1, by simpa using h⟩

theorem given_isBelow {ws : Fields Json} (h : ∀ p ∈ ws, p.2.IsBelow moderate) (name : String) :
    (given ws name).IsBelow moderate := by
  rw [given]
  cases hv : ws.get? name with
  | none => exact Json.isBelow_num (Number.isBelow_int.mpr (lt_of_le_of_lt (Nat.zero_le 6) moderate_gt))
  | some v => exact h _ (Fields.mem_of_get? hv)

theorem isBelow_orZero {k : ℕ} {v : Option Json} (h : ∀ x ∈ v, x.number?.all (Number.isBelow k) = true) :
    (orZero v).isBelow k = true := by
  rw [orZero, orElse]
  cases v with
  | none => rfl
  | some v =>
    have hv := h v rfl
    rw [Option.bind_some]
    cases hn : v.number? with
    | none => rfl
    | some n => simpa [hn] using hv

theorem addAll_returns {vs : List Json} {k : ℕ} (h : ∀ v ∈ vs, v.IsBelow k)
    {t : Number} {j : ℕ} (ht : t.isBelow j) (hj : j + vs.length * k ≤ Number.floatLimit) :
    Returns (fun _ => True) (addAll t vs) := by
  induction vs generalizing t j with
  | nil => exact ⟨t, rfl, trivial⟩
  | cons v r ih =>
    rw [List.length_cons, Nat.add_mul, Nat.one_mul] at hj
    have hv := h v List.mem_cons_self
    rw [Json.IsBelow] at hv
    rw [addAll]
    cases hn : v.numeric? with
    | none => simp [hn] at hv
    | some n =>
      rw [hn] at hv
      exact (Number.add_returns ht hv (by omega)).bind fun u hu =>
        ih (fun v hv => h v (List.mem_cons_of_mem _ hv)) hu (by omega)

theorem mul_moderate {x : Number} {n : ℕ} (hx : x.isBelow moderate) (hn : n ≤ 5) :
    Returns (fun c => c.isBelow (6 * moderate) = true) (x.mul (.int n)) := by
  have hlarge := moderate_gt
  have hle := moderate_le
  have hn : (Number.int n).isBelow 6 = true := Number.isBelow_int.mpr (by omega)
  rw [Nat.mul_comm]
  exact Number.mul_below hx hn (by omega) (by omega)

theorem times_returns {v : Json} {n : ℕ} (h : v.IsBelow moderate) (hn : n ≤ 5) :
    Returns (Json.IsBelow (6 * moderate)) (times v n) := by
  cases v with
  | num x => exact (mul_moderate h hn).bind fun c hc => ⟨.num c, rfl, Json.isBelow_num hc⟩
  | bool b =>
    refine ⟨.ofInt (if b then n else 0), rfl, ?_⟩
    refine Json.isBelow_num (Number.isBelow_int.mpr ?_)
    have hlarge := moderate_gt
    split <;> omega
  | _ => cases h

end Weights

/-- The weights that exports are counted with are numbers of a moderate size. -/
structure Settings.Moderate (s : Settings) : Prop where
  target : ∃ ws, s.weights "target" = .ok ws ∧ ∀ p ∈ ws, p.2.IsBelow moderate
  fileName : ∃ ws, s.weights "fileName" = .ok ws ∧ ∀ p ∈ ws, p.2.number?.all (Number.isBelow moderate) = true

/-- No match of a pattern in some texts is broken. -/
def Pattern.Compiled.Sound (p : Pattern.Compiled) (names : List String) : Prop :=
  ∀ n ∈ names, ∃ fits, p.matchesIn n = .ok fits

namespace Resolution

open Matching Weights

variable {s : Settings} {sig : Signature} {e : ExportEntry}

theorem namedPoints_returns (hs : s.Moderate) {n : String} (hn : ∀ p, sig.pattern? = some p → p.Sound [n]) :
    Returns (fun x => x.isBelow moderate = true) (Scoring.namedPoints s (some n) sig) := by
  obtain ⟨⟨ws, hws, hm⟩, ⟨vs, hvs, hvm⟩⟩ := hs
  have hzero : Returns (fun x : Number => x.isBelow moderate = true) (.ok (.float 0.0)) := ⟨_, rfl, rfl⟩
  have hvs' : ∀ name, Returns (fun x : Number => x.isBelow moderate = true)
      (do .ok (orZero ((← s.weights "fileName").get? name))) := fun name => by
    rw [hvs]
    exact ⟨_, rfl, isBelow_orZero fun _ hx => hvm _ (Fields.mem_of_get? hx)⟩
  unfold Scoring.namedPoints
  simp only
  split
  · exact hzero
  split
  · next p hp =>
    obtain ⟨fits, hfits⟩ := hn p hp n List.mem_cons_self
    rw [hfits]
    cases fits with
    | true => exact hvs' _
    | false => exact hzero
  split
  · exact hzero
  split
  · rw [hws]
    exact ⟨_, rfl, isBelow_orZero fun _ hx => (hm _ (Fields.mem_of_get? hx)).number⟩
  split
  · exact hvs' _
  · exact hzero

theorem bestName_returns (hs : s.Moderate) {names : List String}
    (hn : ∀ p, sig.pattern? = some p → p.Sound names) {best : Option Number}
    (hbest : best.all (Number.isBelow moderate) = true) :
    Returns (fun x => x.all (Number.isBelow moderate) = true) (bestName s sig best names) := by
  induction names generalizing best with
  | nil => exact ⟨_, rfl, hbest⟩
  | cons n r ih =>
    have hfirst : ∀ p, sig.pattern? = some p → p.Sound [n] := fun p hp m hm =>
      hn p hp m (List.mem_singleton.mp hm ▸ List.mem_cons_self)
    have hrest : ∀ p, sig.pattern? = some p → p.Sound r := fun p hp m hm =>
      hn p hp m (List.mem_cons_of_mem n hm)
    refine (namedPoints_returns hs hfirst).bind fun points hp => ih hrest ?_
    cases best with
    | none => exact hp
    | some other =>
      simp only [Option.elim_some, Option.all_some]
      unfold Number.maxFirst
      split
      · exact hp
      · exact hbest

theorem count_returns {ps : List Part}
    (h : ∀ p ∈ ps, (∃ b, p.fits = .ok b) ∧ Returns (Json.IsBelow (6 * moderate)) p.points) :
    Returns (fun r => ∀ b, r = some b → Counted ps.length b) (count ps) := by
  induction ps with
  | nil => exact ⟨_, rfl, fun b hb => by cases hb; exact counted_nil 0⟩
  | cons p r ih =>
    obtain ⟨⟨⟨fits, hfits⟩, hpoints⟩, hr⟩ := List.forall_mem_cons.mp h
    rw [count]
    split
    · rw [bind_ok hfits]
      cases fits with
      | false => exact ⟨none, rfl, by simp⟩
      | true =>
        refine hpoints.bind fun v hv => (ih hr).bind fun o ho => ⟨_, rfl, fun b hb => ?_⟩
        obtain ⟨rest, hrest, rfl⟩ := Option.map_eq_some_iff.mp hb
        rw [List.length_cons, Nat.add_comm]
        exact (counted_single hv).append (ho rest hrest)
    · refine (ih hr).mono fun o ho b hb => ?_
      obtain ⟨hlen, hsmall⟩ := ho b hb
      exact ⟨hlen.trans (Nat.le_succ _), hsmall⟩

theorem searchNames_returns (hn : ∀ p, sig.pattern? = some p → p.Sound e.names) (reached : Bool) :
    searchNames reached e sig = .ok () := by
  have hfirst : ∀ {p : Pattern.Compiled} {names}, p.Sound names → ∃ b, firstMatch p names = .ok b := by
    intro p names h
    induction names with
    | nil => exact ⟨false, rfl⟩
    | cons n r ih =>
      obtain ⟨⟨fits, hfits⟩, hr⟩ := List.forall_mem_cons.mp h
      rw [firstMatch, bind_ok hfits]
      cases fits with
      | true => exact ⟨true, rfl⟩
      | false => exact ih hr
  unfold searchNames
  split
  · next p hp =>
    obtain ⟨b, hb⟩ := hfirst (hn p hp)
    rw [hb]
    exact ite_self _
  · rfl

/-- A signature that can be counted for an export: it asks for few members, and its pattern is never broken. -/
structure Countable (sig : Signature) (e : ExportEntry) : Prop where
  methods : sig.methods.length ≤ 5
  properties : sig.properties.length ≤ 5
  sound : ∀ p, sig.pattern? = some p → p.Sound e.names

theorem agreement_returns (hs : s.Moderate) (hc : Countable sig e) {ws : Fields Json}
    (hws : s.weights "target" = .ok ws) :
    Returns (fun r => ∀ b, r = some b → Counted 6 b) (agreement s ws e sig) := by
  have hmoderate : ∀ p ∈ ws, p.2.IsBelow moderate := by
    obtain ⟨ws', hws', h⟩ := hs.target
    cases hws.symm.trans hws'
    exact h
  have hgiven : ∀ name, Returns (Json.IsBelow (6 * moderate))
      (.ok (given ws name)) := fun name =>
    ⟨_, rfl, (given_isBelow hmoderate name).mono (by omega)⟩
  have hname : Returns (Json.IsBelow (6 * moderate))
      (do .ok (.num ((← bestName s sig none e.names).getD (.float 0.0)))) :=
    (bestName_returns hs hc.sound rfl).bind fun best hbest => by
      cases best with
      | none => exact ⟨_, rfl, rfl⟩
      | some x => exact ⟨_, rfl, (Json.isBelow_num hbest).mono (by omega)⟩
  have hmethods : Returns (Json.IsBelow (6 * moderate))
      (do .ok (.num (← Scoring.confirmedPoints s sig.methods))) := by
    rw [Scoring.confirmedPoints, hws]
    refine (mul_moderate (isBelow_orZero fun _ hx => ?_) hc.methods).bind fun c hc => ⟨_, rfl, Json.isBelow_num hc⟩
    exact (hmoderate _ (Fields.mem_of_get? hx)).number
  have hsearch : ∃ b, (searchNames true e sig).map (fun _ => nameFits e sig) = .ok b := by
    rw [searchNames_returns hc.sound]
    exact ⟨_, rfl⟩
  apply count_returns
  simp only [parts, List.forall_mem_cons]
  exact ⟨⟨⟨_, rfl⟩, hgiven _⟩, ⟨hsearch, hname⟩, ⟨⟨_, rfl⟩, hmethods⟩,
    ⟨⟨_, rfl⟩, times_returns (given_isBelow hmoderate _) hc.properties⟩, ⟨⟨_, rfl⟩, hgiven _⟩,
    ⟨⟨_, rfl⟩, hgiven _⟩, by simp⟩

theorem accessWeight_counted {ws : Fields Json} (h : ∀ p ∈ ws, p.2.IsBelow moderate) :
    Counted 1 (accessWeight ws e sig) := by
  have hgiven : ∀ name, Counted 1 [(name, given ws name)] := fun name =>
    counted_single ((given_isBelow h name).mono (by omega))
  unfold accessWeight
  split
  · exact hgiven _
  split
  · exact hgiven _
  · exact counted_nil 1

theorem pointsOf_returns {b : Fields Json} (hb : Counted 7 b) : Returns (fun _ => True) (Points.of b) := by
  have hlarge := moderate_gt
  have hle := moderate_le
  have hlen : (b.map (·.2)).length * (6 * moderate) ≤ 7 * (6 * moderate) :=
    Nat.mul_le_mul_right _ (by rw [List.length_map]; exact hb.1)
  refine (addAll_returns (k := 6 * moderate) (j := 1) ?_ rfl (by omega)).bind fun _ _ => ⟨_, rfl, trivial⟩
  intro v hv
  obtain ⟨p, hp, rfl⟩ := List.mem_map.mp hv
  exact hb.2 p hp

theorem validate_of_fits (hs : s.Moderate) (hc : Countable sig e) (ht : typeFits e sig) (hn : nameFits e sig)
    (hm : methodsFit e sig) (hp : propertiesFit e sig) (hb : baseFits e sig) (hi : instanceFits e sig) :
    ∃ p, validate s e sig = .ok (some p) := by
  obtain ⟨ws, hws, -⟩ := hs.target
  obtain ⟨r, hr, hcounted⟩ := agreement_returns hs hc hws
  cases r with
  | none => exact absurd hr (agreement_ne_none ht hn hm hp hb hi)
  | some b =>
    obtain ⟨hlen, hsmall⟩ := hcounted b rfl
    obtain ⟨points, hpoints, -⟩ := pointsOf_returns ⟨by omega, hsmall⟩
    refine ⟨points, ?_⟩
    rw [validate, bind_ok hws, bind_ok hr]
    simp only
    rw [bind_ok hpoints]

theorem attempt_returns (hs : s.Moderate) (hc : Countable sig e) : Returns (fun _ => True) (attempt s e sig) := by
  obtain ⟨ws, hws, hsmall⟩ := hs.target
  rw [attempt, bind_ok (checkShape_eq_ok.mpr ⟨searchNames_returns hc.sound _, rfl⟩)]
  split
  · rw [bind_ok hws]
    refine (agreement_returns hs hc hws).bind fun r hr => ?_
    cases r with
    | none => exact ⟨none, rfl, trivial⟩
    | some b =>
      exact (pointsOf_returns ((hr b rfl).append (accessWeight_counted hsmall))).bind fun _ _ => ⟨_, rfl, trivial⟩
  · exact ⟨none, rfl, trivial⟩

theorem resolveFrom_returns (hs : s.Moderate) {es : List ExportEntry} (hc : ∀ e ∈ es, Countable sig e)
    (best : Option Resolved) : Returns (fun _ => True) (resolveFrom s sig es best) := by
  induction es generalizing best with
  | nil => exact ⟨best, rfl, trivial⟩
  | cons e r ih =>
    have hrest : ∀ e ∈ r, Countable sig e := fun e he => hc e (List.mem_cons_of_mem _ he)
    refine (attempt_returns hs (hc e List.mem_cons_self)).bind fun x _ => ?_
    cases x with
    | none => exact ih hrest best
    | some x => exact ih hrest (better best x)

/-- Among exports that can be counted one is chosen as soon as one of them meets every constraint. -/
theorem resolve_of_fits (hs : s.Moderate) {es : ExportMetadata} (hc : ∀ e ∈ es, Countable sig e)
    (he : e ∈ es) (hshape : hasShape e sig) (hi : instanceFits e sig) :
    ∃ x, resolve s es sig = .ok (some x) := by
  obtain ⟨ws, hws, -⟩ := hs.target
  obtain ⟨r, hr, -⟩ := resolveFrom_returns hs hc none
  have hres : resolve s es sig = .ok r := by rw [resolve, bind_ok hws, hr]
  cases r with
  | some x => exact ⟨x, hres⟩
  | none =>
    obtain ⟨why, hwhy⟩ := mismatch_of_resolve_none hres e he
    rw [mismatch_eq_none_iff.mpr ⟨hshape, hi⟩] at hwhy
    cases hwhy

theorem ne_empty_of_mem_names {n : String} (h : n ∈ e.names) : n ≠ "" := by
  have hall : ∀ m ∈ e.names, m ≠ "" := by
    unfold ExportEntry.names
    refine List.foldlRecOn (motive := fun out => ∀ m ∈ out, m ≠ "") _ _ (by simp) fun out hout a _ m hm => ?_
    cases a with
    | none => exact hout m hm
    | some t =>
      simp only at hm
      split at hm
      · exact hout m hm
      · next ht =>
        rcases List.mem_append.mp hm with hm | hm
        · exact hout m hm
        · rw [List.mem_singleton.mp hm]
          rintro rfl
          exact ht (by simp)
  exact hall n h

theorem sound_of_bestName {p : Pattern.Compiled} (hp : sig.pattern? = some p) {names : List String}
    (hne : ∀ n ∈ names, n ≠ "") {start best : Option Number}
    (h : bestName s sig start names = .ok best) : p.Sound names := by
  induction names generalizing start with
  | nil => simp [Pattern.Compiled.Sound]
  | cons n r ih =>
    obtain ⟨first, hfirst, h⟩ := bind_eq_ok.mp h
    obtain ⟨hn, hr⟩ := List.forall_mem_cons.mp hne
    refine List.forall_mem_cons.mpr ⟨?_, ih hr h⟩
    simp only [Scoring.namedPoints, if_neg hn, hp] at hfirst
    obtain ⟨fits, hfits, -⟩ := bind_eq_ok.mp hfirst
    exact ⟨fits, hfits⟩

theorem sound_of_validate {points : Points} (h : validate s e sig = .ok (some points)) :
    ∀ p, sig.pattern? = some p → p.Sound e.names := by
  intro p hp
  obtain ⟨ws, -, h⟩ := bind_eq_ok.mp h
  obtain ⟨r, hr, h⟩ := bind_eq_ok.mp h
  cases r with
  | none => cases h
  | some b =>
    have hall := count_eq_some hr
    simp only [parts, List.forall_mem_cons] at hall
    obtain ⟨-, hnames, -⟩ := hall
    obtain ⟨-, v, hv⟩ := hnames (by rw [isSome_name_of_pattern? hp, Bool.true_or])
    obtain ⟨best, hbest, -⟩ := bind_eq_ok.mp hv
    exact sound_of_bestName hp (fun n => ne_empty_of_mem_names) hbest

end Resolution

/-! ## Exports that their own description finds -/

namespace Suggestion

open Matching Signature Resolution

variable {e : ExportEntry}

/-- An export goes by a name that is asked for, and looking for it does not fail. -/
def Answers (e : ExportEntry) : NameQuery → Prop
  | .exact n => ∃ m ∈ e.names, Text.lower m = Text.lower n
  | .pattern p => (∃ m ∈ e.names, p.occursIn m = true) ∧ p.Sound e.names

/-- An export that its own description finds: what is left of its texts after trimming still says the same
of it, its kind can be asked for, and it goes by its name also if that is read as a pattern. -/
structure Describable (e : ExportEntry) : Prop where
  kind : (clean (toldKind e)).isSome = true → (TargetType.ofText? e.info.kind).isSome = true
  name : ∀ n ∈ clean e.info.name, ∃ q, readName n = .ok q ∧ Answers e q
  exported : ∀ x ∈ clean (toldExport e), e.access.name = some x
  methods : ∀ m ∈ e.info.methods.take 5, Text.trim m ≠ "" → Text.trim m ∈ e.info.methods
  properties : ∀ m ∈ e.info.properties.take 3, Text.trim m ≠ "" → Text.trim m ∈ e.info.properties
  base : ∀ b ∈ clean e.info.base, e.info.base = some b
  speaks : ∃ t ∈ texts e, Text.trim t ≠ ""

theorem kind_fits_iff : (∃ type, readKindOf (clean (toldKind e)) = .ok type ∧
      type.all (kindFits e.info.kind) = true) ↔
    ((clean (toldKind e)).isSome = true → (TargetType.ofText? e.info.kind).isSome = true) := by
  cases hk : clean (toldKind e) with
  | none => simp [readKindOf]
  | some k =>
    have htrim : Text.trim e.info.kind = k := by
      obtain ⟨-, u, hu, rfl⟩ := mem_clean.mp (Option.mem_def.mpr hk)
      unfold toldKind at hu
      split at hu <;> cases hu
      rfl
    constructor
    · rintro ⟨type, htype, hfits⟩ -
      rw [readKindOf] at htype
      split at htype <;> cases htype
      next t ht =>
      -- a kind that fits is one of the words
      cases t <;> simp only [Option.all_some, kindFits, Bool.or_eq_true, beq_iff_eq] at hfits
      case module => rcases hfits with h | h <;> rw [h] <;> rfl
      all_goals rw [hfits]; rfl
    · intro h
      obtain ⟨t, ht⟩ := Option.isSome_iff_exists.mp (h rfl)
      have htext := TargetType.text_of_ofText? ht
      have hread : TargetType.ofText? (Text.lower k) = some t := by
        rw [← htrim, htext, TargetType.lower_trim_text, TargetType.ofText?_text]
      refine ⟨some t, by rw [readKindOf, hread], ?_⟩
      rw [htext]
      cases t <;> rfl

theorem answers_iff (sig : Signature) : (nameFits e sig = true ∧ ∀ p, sig.pattern? = some p → p.Sound e.names) ↔
    ∀ q, sig.name = some q → Answers e q := by
  unfold nameFits pattern?
  rcases sig.name with _ | (n | p)
  · simp
  · simp [Answers]
  · simp [Answers]

theorem absent_isEmpty {asked there : List String} :
    (absent asked there).isEmpty = true ↔ ∀ m ∈ asked, m ∈ there := by
  simp [absent]

/-- What the signature that is read from a description asks of the export, field by field. -/
theorem hasShape_told (type : Option TargetType) (name : Option NameQuery) :
    (hasShape e (told e type name) = true ∧ ∀ p, (told e type name).pattern? = some p → p.Sound e.names) ↔
    type.all (kindFits e.info.kind) = true ∧ (∀ q, name = some q → Answers e q) ∧
      (∀ x ∈ clean (toldExport e), e.access.name = some x) ∧
      (∀ m ∈ e.info.methods.take 5, Text.trim m ≠ "" → Text.trim m ∈ e.info.methods) ∧
      (∀ m ∈ e.info.properties.take 3, Text.trim m ≠ "" → Text.trim m ∈ e.info.properties) ∧
      ∀ b ∈ clean e.info.base, e.info.base = some b := by
  have hexports : exportFits e (told e type name) = true ↔
      ∀ x ∈ clean (toldExport e), e.access.name = some x := by
    rw [exportFits, told, Option.all_eq_true]
    unfold toldExport
    split
    · next hn => simp [hn]
    · simp [clean]
  have hbase : baseFits e (told e type name) = true ↔
      ∀ b ∈ clean e.info.base, e.info.base = some b := by
    rw [baseFits, told, Option.all_eq_true]
    simp
  have hname := answers_iff (told e type name) (e := e)
  have hmethods : methodsFit e (told e type name) = true ↔ _ :=
    absent_isEmpty.trans forall_mem_tidied
  have hproperties : propertiesFit e (told e type name) = true ↔ _ :=
    absent_isEmpty.trans forall_mem_tidied
  rw [hasShape]
  simp only [Bool.and_eq_true, hexports, hbase, hmethods, hproperties]
  constructor
  · rintro ⟨⟨⟨⟨⟨⟨ht, hx⟩, hn⟩, hm⟩, hp⟩, hb⟩, hsound⟩
    exact ⟨ht, hname.mp ⟨hn, hsound⟩, hx, hm, hp, hb⟩
  · rintro ⟨ht, hq, hx, hm, hp, hb⟩
    obtain ⟨hn, hsound⟩ := hname.mpr hq
    exact ⟨⟨⟨⟨⟨⟨ht, hx⟩, hn⟩, hm⟩, hp⟩, hb⟩, hsound⟩

theorem countable_told (type : Option TargetType) (name : Option NameQuery) {e' : ExportEntry}
    (hsound : ∀ p, (told e type name).pattern? = some p → p.Sound e'.names) : Countable (told e type name) e' :=
  ⟨(length_tidied_le _).trans (List.length_take_le _ _),
    ((length_tidied_le _).trans (List.length_take_le _ _)).trans (by decide), hsound⟩

/-- The description of an export finds it again exactly if the export is describable. -/
theorem passes_description_iff {s : Settings} (hs : s.Moderate) :
    (∃ sig, Signature.normalize (.obj (fieldsOf e)) = .ok sig ∧ Passes s sig e) ↔ Describable e := by
  constructor
  · rintro ⟨sig, hsig, hshape, points, hpoints⟩
    obtain ⟨type, name, htype, hname, hspeaks, rfl⟩ := normalize_fieldsOf.mp hsig
    obtain ⟨ht, hq, hx, hm, hp, hb⟩ :=
      (hasShape_told type name).mp ⟨hshape, sound_of_validate hpoints⟩
    refine ⟨kind_fits_iff.mp ⟨type, htype, ht⟩, fun n hn => ?_, hx, hm, hp, hb, hspeaks⟩
    rcases readNameOf_eq_ok.mp hname with ⟨hnone, -⟩ | ⟨n', q, hn', hread, rfl⟩
    · rw [hnone] at hn
      cases hn
    · cases hn'.symm.trans hn
      exact ⟨q, hread, hq q rfl⟩
  · intro hd
    obtain ⟨type, htype, ht⟩ := kind_fits_iff.mpr hd.kind
    obtain ⟨name, hname, hq⟩ : ∃ name, readNameOf (clean e.info.name) = .ok name ∧
        ∀ q, name = some q → Answers e q := by
      cases hn : clean e.info.name with
      | none => exact ⟨none, rfl, by simp⟩
      | some n =>
        obtain ⟨q, hread, hans⟩ := hd.name n hn
        refine ⟨some q, by rw [readNameOf, hread]; rfl, fun q' h => ?_⟩
        cases h
        exact hans
    obtain ⟨hshape, hsound⟩ :=
      (hasShape_told type name).mpr ⟨ht, hq, hd.exported, hd.methods, hd.properties, hd.base⟩
    refine ⟨_, normalize_fieldsOf.mpr ⟨type, name, htype, hname, hd.speaks, rfl⟩, hshape, ?_⟩
    have hparts := hshape
    simp only [hasShape, Bool.and_eq_true] at hparts
    obtain ⟨⟨⟨⟨⟨hkind, -⟩, hfits⟩, hm⟩, hp⟩, hb⟩ := hparts
    exact validate_of_fits hs (countable_told type name hsound) hkind hfits hm hp hb rfl

theorem mem_of_primary {m : ExportMetadata} (h : m.primary = some e) : e ∈ m := by
  cases m with
  | nil => cases h
  | cons a r =>
    cases h
    refine List.foldlRecOn (motive := fun b => b ∈ a :: r) r _ List.mem_cons_self fun b hb c hc => ?_
    unfold ExportMetadata.better
    split
    · exact List.mem_cons_of_mem a hc
    · exact hb

/-- A suggestion finds the export that it describes exactly if that export is describable.  It then also
leads to a choice among the exports of the file, as long as no match of its name is broken. -/
theorem suggestion_usable_iff {s : Settings} (hs : s.Moderate) {m : ExportMetadata} {g : Json}
    (hg : ofExports (some m) = some g) : ∃ e ∈ m, m.primary = some e ∧
      ((∃ sig, Signature.normalize g = .ok sig ∧ Passes s sig e) ↔ Describable e) ∧
      ∀ sig, Signature.normalize g = .ok sig → Passes s sig e →
        (∀ p, sig.pattern? = some p → ∀ e' ∈ m, p.Sound e'.names) →
          ∃ x, resolve s m sig = .ok (some x) := by
  obtain ⟨e, he, hge⟩ : ∃ e, m.primary = some e ∧ g = .obj (fieldsOf e) := by
    rw [ofExports, Option.bind_some] at hg
    cases hm : m.primary with
    | none => simp [hm] at hg
    | some e =>
      simp only [hm] at hg
      split at hg <;> cases hg
      exact ⟨e, rfl, rfl⟩
  subst hge
  refine ⟨e, mem_of_primary he, he, passes_description_iff hs, fun sig hsig hpass hsound => ?_⟩
  obtain ⟨type, name, -, -, -, rfl⟩ := normalize_fieldsOf.mp hsig
  exact resolve_of_fits hs
    (fun e' he' => countable_told type name fun p hp => hsound p hp e' he') (mem_of_primary he) hpass.1 rfl

theorem moderate_default : ({} : Settings).Moderate := by
  have htarget : ∀ ws, ({} : Settings).weights "target" = .ok ws →
      ws.all (fun p => p.2.numeric?.any (Number.isBelow moderate)) = true := by
    intro ws h
    cases h
    decide +kernel
  have hnames : ∀ ws, ({} : Settings).weights "fileName" = .ok ws →
      ws.all (fun p => p.2.number?.all (Number.isBelow moderate)) = true := by
    intro ws h
    cases h
    decide +kernel
  exact ⟨⟨_, rfl, List.all_eq_true.mp (htarget _ rfl)⟩, ⟨_, rfl, List.all_eq_true.mp (hnames _ rfl)⟩⟩

/-- A class with more methods than a suggestion names, one of them blank. -/
def storeEntry : ExportEntry :=
  { exportedName := some "Store", access := ⟨.named, some "Store"⟩
    info := { name := some "Store", kind := "class", methods := ["get", " ", "put", "has", "drop", "size"],
              base := some "Base" } }

theorem describable_store : Describable storeEntry where
  kind := fun _ => rfl
  name := by
    intro n hn
    have hname : clean storeEntry.info.name = some "Store" := by decide +kernel
    cases hname.symm.trans hn
    exact ⟨.exact "Store", rfl, "Store", by decide +kernel, rfl⟩
  exported := by decide +kernel
  methods := by decide +kernel
  properties := by simp [storeEntry]
  base := by decide +kernel
  speaks := by decide +kernel

theorem suggestion_store : ∃ g, ofExports (some [storeEntry]) = some g ∧
    ∃ sig x, Signature.normalize g = .ok sig ∧ Passes {} sig storeEntry ∧
      resolve {} [storeEntry] sig = .ok (some x) := by
  have hg : ofExports (some [storeEntry]) = some (.obj (fieldsOf storeEntry)) := rfl
  refine ⟨_, hg, ?_⟩
  obtain ⟨e, hmem, -, hiff, hres⟩ := suggestion_usable_iff moderate_default hg
  cases List.mem_singleton.mp hmem
  obtain ⟨sig, hsig, hpass⟩ := hiff.mpr describable_store
  have hexact : ((Signature.normalize (.obj (fieldsOf storeEntry))).toOption.bind pattern?).isNone = true := by
    decide +kernel
  rw [hsig] at hexact
  have hnone : sig.pattern? = none := Option.isNone_iff_eq_none.mp hexact
  obtain ⟨x, hx⟩ := hres sig hsig hpass (by simp [hnone])
  exact ⟨sig, x, hsig, hpass, hx⟩

/-- A table whose only key has a blank in front. -/
def spacedText : String := "X = \x7b\" a\": 1\x7d\n"

/-- The table, and the file that holds it. -/
def spacedExports : ExportMetadata :=
  [{ exportedName := some "X", access := ⟨.named, some "X"⟩
     info := { name := some "X", kind := "object", properties := [" a"] } },
   { exportedName := none, access := {}, info := { name := some "X", kind := "module", properties := ["X"] } }]

/-- The key is asked for without its blank, and no export has it. -/
theorem suggestion_spaced : Outline.moduleOutline spacedText "X.py" = .ok spacedExports ∧
    ∃ g sig, ofExports (some spacedExports) = some g ∧ Signature.normalize g = .ok sig ∧
      (∀ e ∈ spacedExports, ¬ Passes {} sig e) ∧ resolve {} spacedExports sig = .ok none := by
  refine ⟨eq_ok_of_toOption (by decide +kernel), ?_⟩
  obtain ⟨g, hg⟩ : ∃ g, ofExports (some spacedExports) = some g := ⟨_, rfl⟩
  have hmissed : ((ofExports (some spacedExports)).bind fun g => (Signature.normalize g).toOption).any
      (fun sig => sig.pattern?.isNone && spacedExports.all fun e => !hasShape e sig) = true := by
    decide +kernel
  rw [hg, Option.bind_some] at hmissed
  cases hsig : Signature.normalize g with
  | error x => simp [hsig, Except.toOption] at hmissed
  | ok sig =>
    rw [hsig] at hmissed
    obtain ⟨hplain, hmissed⟩ := Bool.and_eq_true_iff.mp hmissed
    have hnone : sig.pattern? = none := Option.isNone_iff_eq_none.mp hplain
    have hshape : ∀ e ∈ spacedExports, hasShape e sig = false := fun e he => by
      simpa using List.all_eq_true.mp hmissed e he
    refine ⟨g, sig, hg, hsig, fun e he hpass => ?_, ?_⟩
    · rw [Passes, hshape e he] at hpass
      exact absurd hpass.1 (by decide)
    · have hnone : ∀ e ∈ spacedExports, attempt {} e sig = .ok none := fun e he => by
        rw [attempt, bind_ok (checkShape_eq_ok.mpr ⟨searchNames_returns (by simp [hnone]) _, hshape e he⟩)]
        rfl
      obtain ⟨hfirst, hrest⟩ := List.forall_mem_cons.mp hnone
      have hweights : Settings.weights {} "target" = .ok _ := rfl
      rw [resolve, bind_ok hweights, spacedExports, resolveFrom, bind_ok hfirst]
      simp only
      rw [resolveFrom, bind_ok (hrest _ List.mem_cons_self)]
      rfl

end Suggestion

end ShapeSearch
