import Mathlib.Data.List.Infix
import ShapeSearch.Proofs.Fields
import ShapeSearch.Misfit
import ShapeSearch.Resolution

/-!
# Checking an export and explaining the result

An export is checked against a signature three times: by its shape (`hasShape`), when its points are
counted (`agreement`), and when it is explained why it does not fit (`mismatch`).  The three agree, so an
export that is passed over can be explained:

    mismatch e sig = none ↔ hasShape e sig ∧ instanceFits e sig             (mismatch_eq_none_iff)
    resolve s es sig = .ok none → every export of es has a mismatch         (mismatch_of_resolve_none)

With weights that are numbers only two things can go wrong on the way (`Gives`): a number is too large to
be counted with, or a match of the name is broken.  If nothing does, an export has the right shape and points
exactly if there is nothing to explain (`checks_agree`).
-/

namespace ShapeSearch

namespace Matching

variable {e : ExportEntry} {sig : Signature} {why : String}

/-- Nothing is to be explained exactly if the shape is right and so is the base that instances have. -/
theorem mismatch_eq_none_iff :
    mismatch e sig = none ↔ hasShape e sig = true ∧ instanceFits e sig = true := by
  unfold mismatch hasShape
  cases typeFits e sig
  · simp
  cases exportFits e sig
  · simp
  cases nameFits e sig
  · simp
  cases methodsFit e sig
  · simp
  cases propertiesFit e sig
  · simp
  cases baseFits e sig
  · simp
  cases instanceFits e sig <;> simp

theorem checkShape_eq_ok {b : Bool} : checkShape e sig = .ok b ↔
    searchNames (typeFits e sig && exportFits e sig) e sig = .ok () ∧ hasShape e sig = b := by
  unfold checkShape
  cases searchNames (typeFits e sig && exportFits e sig) e sig <;> simp [bind, Except.bind]

theorem explain_eq_ok {out : Option String} : explain e sig = .ok out ↔
    searchNames (typeFits e sig && exportFits e sig) e sig = .ok () ∧ mismatch e sig = out := by
  unfold explain
  cases searchNames (typeFits e sig && exportFits e sig) e sig <;> simp [bind, Except.bind]

theorem searchNames_of_reached {reached : Bool} (h : searchNames reached e sig = .ok ()) (b : Bool) :
    searchNames (reached && b) e sig = .ok () := by
  cases b with
  | true => rw [Bool.and_true, h]
  | false =>
    rw [Bool.and_false, searchNames]
    split <;> rfl

theorem instanceFits_eq_false_iff : instanceFits e sig = false ↔
    ∃ i, sig.instanceOf = some i ∧ e.info.name ≠ some i ∧ e.info.base ≠ some i := by
  unfold instanceFits
  cases sig.instanceOf <;> simp

/-- The words of an explanation that follow the name of the export. -/
def afterLabel : List String :=
  [" is a ", " is missing methods: ", " is missing properties: ", " extends ", " is not an instance of "]

/-- The words that open an explanation by themselves. -/
def openings : List String :=
  ["exported as '", "name '"]

/-- An explanation is made of the name of the export and the words for what does not fit. -/
theorem mismatch_form (h : mismatch e sig = some why) :
    ∃ front mark back, why = front ++ mark ++ back ∧
      ((front = label e ∧ mark ∈ afterLabel) ∨ (front = "" ∧ mark ∈ openings)) := by
  unfold mismatch at h
  split at h
  · cases h
    exact ⟨label e, " is a ", _, by simp only [String.append_assoc]; rfl, .inl ⟨rfl, by decide⟩⟩
  split at h
  · cases h
    exact ⟨"", "exported as '", _, by simp only [String.append_assoc, String.empty_append]; rfl,
      .inr ⟨rfl, by decide⟩⟩
  split at h
  · cases h
    exact ⟨"", "name '", _, by simp only [String.append_assoc, String.empty_append]; rfl,
      .inr ⟨rfl, by decide⟩⟩
  split at h
  · cases h
    exact ⟨label e, " is missing methods: ", _, rfl, .inl ⟨rfl, by decide⟩⟩
  split at h
  · cases h
    exact ⟨label e, " is missing properties: ", _, rfl, .inl ⟨rfl, by decide⟩⟩
  split at h
  · cases h
    exact ⟨label e, " extends ", _, by simp only [String.append_assoc]; rfl, .inl ⟨rfl, by decide⟩⟩
  split at h
  · cases h
    exact ⟨label e, " is not an instance of ", _, rfl, .inl ⟨rfl, by decide⟩⟩
  · cases h

/-- A text without any of the words of an explanation is none. -/
theorem mismatch_ne_of_unmarked {t : String}
    (ht : ∀ mark ∈ afterLabel ++ openings, ¬ mark.toList <:+: t.toList) : mismatch e sig ≠ some t := by
  intro h
  obtain ⟨front, mark, back, rfl, hmark⟩ := mismatch_form h
  have hmem : mark ∈ afterLabel ++ openings :=
    List.mem_append.mpr (hmark.imp And.right And.right)
  exact ht mark hmem ⟨front.toList, back.toList, by simp⟩

theorem mismatch_ne_empty : mismatch e sig ≠ some "" :=
  mismatch_ne_of_unmarked (by decide)

/-- The words that open the reason of a candidate that could not be loaded. -/
def unloaded : String := "could not be loaded ("

/-- None of the words of an explanation goes on where a part of `unloaded` ends. -/
theorem unloaded_apart : ∀ mark ∈ afterLabel ++ openings, ∀ k < unloaded.toList.length,
    ¬ unloaded.toList.drop k <+: mark.toList ∧ ¬ mark.toList <+: unloaded.toList.drop k := by
  decide

/-- An explanation opens with the words for a failure to load only if the name of the export does. -/
theorem unloaded_prefix_label (h : mismatch e sig = some why)
    (hp : unloaded.toList <+: why.toList) : unloaded.toList <+: (label e).toList := by
  obtain ⟨front, mark, back, rfl, hmark⟩ := mismatch_form h
  have hmem : mark ∈ afterLabel ++ openings :=
    List.mem_append.mpr (hmark.imp And.right And.right)
  have hfront : unloaded.toList <+: front.toList := by
    rw [String.toList_append, String.toList_append, List.append_assoc] at hp
    rcases List.prefix_or_prefix_of_prefix hp (List.prefix_append _ _) with hle | hle
    · exact hle
    · -- the name is a part of the words, and what is left of them would have to start the mark
      obtain ⟨rest, hrest⟩ := hle
      rw [← hrest] at hp ⊢
      have hrest' : rest <+: mark.toList ++ back.toList := (List.prefix_append_right_inj _).mp hp
      cases rest with
      | nil => rw [List.append_nil]
      | cons c r =>
        have hk : front.toList.length < unloaded.toList.length := by
          rw [← hrest, List.length_append, List.length_cons]
          omega
        have hdrop : unloaded.toList.drop front.toList.length = c :: r := by
          rw [← hrest, List.drop_left]
        obtain ⟨hno, hno'⟩ := unloaded_apart mark hmem _ hk
        rw [hdrop] at hno hno'
        rcases List.prefix_or_prefix_of_prefix hrest' (List.prefix_append _ _) with hpre | hpre
        · exact absurd hpre hno
        · exact absurd hpre hno'
  rcases hmark with ⟨rfl, -⟩ | ⟨rfl, -⟩
  · exact hfront
  · exact absurd hfront (by decide)

end Matching

/-! ## What can go wrong -/

/-- A computation whose result has a property, and that can only fail because a number is too large to be
counted with or because a match is broken. -/
def Gives {α : Type} (P : α → Prop) : Except Misfit α → Prop
  | .ok a => P a
  | .error m => m = .tooLarge ∨ m = .brokenGroup

section Gives

variable {α β : Type} {P : α → Prop} {Q : β → Prop}

theorem Gives.ok {a : α} (h : P a) : Gives P (.ok a) := h

theorem Gives.bind {x : Except Misfit α} {f : α → Except Misfit β} (hx : Gives P x)
    (hf : ∀ a, P a → Gives Q (f a)) : Gives Q (x >>= f) := by
  cases x with
  | error m => exact hx
  | ok a => exact hf a hx

end Gives

theorem Number.toFloat_gives (a : Number) : Gives (fun _ => True) a.toFloat := by
  cases a with
  | float x => exact Gives.ok trivial
  | int n =>
    cases Nat.lt_or_ge n.natAbs floatLimit with
    | inl h =>
      rw [toFloat, if_pos h]
      exact Gives.ok trivial
    | inr h =>
      rw [toFloat, if_neg (Nat.not_lt.mpr h)]
      exact .inl rfl

theorem Number.onFloats_gives (f : Float → Float → Float) (a b : Number) :
    Gives (fun _ => True) (onFloats f a b) :=
  (toFloat_gives a).bind fun _ _ => (toFloat_gives b).bind fun _ _ => trivial

theorem Number.add_gives (a b : Number) : Gives (fun _ => True) (a.add b) := by
  unfold add
  split
  · trivial
  · exact onFloats_gives Float.add _ _

theorem Number.mul_gives (a b : Number) : Gives (fun _ => True) (a.mul b) := by
  unfold mul
  split
  · trivial
  · exact onFloats_gives Float.mul _ _

theorem Pattern.Compiled.matchesIn_gives (p : Pattern.Compiled) (s : String) :
    Gives (fun _ => True) (p.matchesIn s) := by
  rw [matchesIn]
  split
  · split
    · exact .inr rfl
    · trivial
  · trivial

/-- Looking for a name fails only on a broken match. -/
theorem Matching.searchNames_gives (reached : Bool) (e : ExportEntry) (sig : Signature) :
    Gives (fun _ => True) (searchNames reached e sig) := by
  have hfirst : ∀ (p : Pattern.Compiled) names, Gives (fun _ => True) (firstMatch p names) := by
    intro p names
    induction names with
    | nil => trivial
    | cons n r ih =>
      refine (p.matchesIn_gives n).bind fun fits _ => ?_
      cases fits with
      | true => trivial
      | false => exact ih
  unfold searchNames
  split
  · next p _ =>
    split
    · have hp := hfirst p e.names
      cases h : firstMatch p e.names with
      | error m =>
        rw [h] at hp
        exact hp
      | ok b => trivial
    · trivial
  · trivial

/-- A value that counts as a number. -/
def Json.IsNumeric (v : Json) : Prop := v.numeric?.isSome = true

namespace Weights

/-- A table of numbers. -/
def NumericTable (b : Fields Json) : Prop := ∀ p ∈ b, p.2.IsNumeric

theorem NumericTable.append {a b : Fields Json} (ha : NumericTable a) (hb : NumericTable b) :
    NumericTable (a ++ b) := by
  intro p hp
  rcases List.mem_append.mp hp with hp | hp
  · exact ha p hp
  · exact hb p hp

theorem numericTable_nil : NumericTable [] := by
  simp [NumericTable]

theorem numericTable_single {name : String} {v : Json} (h : v.IsNumeric) : NumericTable [(name, v)] := by
  intro p hp
  rw [List.mem_singleton.mp hp]
  exact h

theorem addAll_gives {vs : List Json} (h : ∀ v ∈ vs, v.IsNumeric) (t : Number) :
    Gives (fun _ => True) (addAll t vs) := by
  induction vs generalizing t with
  | nil => trivial
  | cons v r ih =>
    obtain ⟨n, hn⟩ := Option.isSome_iff_exists.mp (h v List.mem_cons_self)
    rw [addAll, hn]
    exact (Number.add_gives t n).bind fun u _ => ih (fun v hv => h v (List.mem_cons_of_mem _ hv)) u

theorem times_gives {v : Json} (h : v.IsNumeric) (n : Nat) : Gives Json.IsNumeric (times v n) := by
  cases v with
  | num x => exact (Number.mul_gives x (.int n)).bind fun _ _ => rfl
  | bool b => exact rfl
  | _ => cases h

theorem given_numeric {ws : Fields Json} (h : NumericTable ws) (name : String) :
    (given ws name).IsNumeric := by
  rw [given]
  cases hv : ws.get? name with
  | none => rfl
  | some v => exact h _ (Fields.mem_of_get? hv)

end Weights

/-- The weights for exports are numbers. -/
def Settings.NumericWeights (s : Settings) : Prop :=
  ∃ ws, s.weights "target" = .ok ws ∧ Weights.NumericTable ws

/-- Where one weight table can be looked up, all can. -/
theorem Settings.NumericWeights.weights_gives {s : Settings} (h : s.NumericWeights) (table : String) :
    Gives (fun _ => True) (s.weights table) := by
  obtain ⟨ws, hws, -⟩ := h
  unfold Settings.weights at hws ⊢
  cases hs : s.scoring with
  | obj fs =>
    simp only
    split <;> trivial
  | _ =>
    rw [hs] at hws
    cases hws

theorem Settings.NumericWeights.target_gives {s : Settings} (h : s.NumericWeights) :
    Gives Weights.NumericTable (s.weights "target") := by
  obtain ⟨ws, hws, hn⟩ := h
  rw [hws]
  exact hn

namespace Scoring

variable {s : Settings}

theorem namedPoints_gives (h : s.NumericWeights) (name : Option String) (sig : Signature) :
    Gives (fun _ => True) (namedPoints s name sig) := by
  unfold namedPoints
  split
  · trivial
  split
  · trivial
  split
  · refine (Pattern.Compiled.matchesIn_gives _ _).bind fun fits _ => ?_
    cases fits with
    | true => exact (h.weights_gives "fileName").bind fun _ _ => trivial
    | false => trivial
  split
  · trivial
  split
  · exact (h.weights_gives "target").bind fun _ _ => trivial
  split
  · exact (h.weights_gives "fileName").bind fun _ _ => trivial
  · trivial

theorem confirmedPoints_gives (h : s.NumericWeights) (methods : List String) :
    Gives (fun _ => True) (confirmedPoints s methods) :=
  (h.weights_gives "target").bind fun _ _ => Number.mul_gives _ _

end Scoring

namespace Resolution

open Matching Weights

variable {ws : Fields Json}

variable {s : Settings} {sig : Signature} {e : ExportEntry}

theorem count_gives {ps : List Part}
    (h : ∀ p ∈ ps, Gives (fun _ => True) p.fits ∧ Gives Json.IsNumeric p.points) :
    Gives (fun r => ∀ b, r = some b → NumericTable b) (count ps) := by
  induction ps with
  | nil =>
    intro b hb
    cases hb
    exact numericTable_nil
  | cons p r ih =>
    obtain ⟨⟨hfits, hpoints⟩, hr⟩ := List.forall_mem_cons.mp h
    rw [count]
    split
    · refine hfits.bind fun fits _ => ?_
      split
      · refine hpoints.bind fun v hv => (ih hr).bind fun o ho => ?_
        intro b hb
        obtain ⟨rest, hrest, rfl⟩ := Option.map_eq_some_iff.mp hb
        exact (numericTable_single hv).append (ho rest hrest)
      · intro b hb
        cases hb
    · exact ih hr

theorem bestName_gives (h : s.NumericWeights) (sig : Signature) (names : List String) :
    ∀ best, Gives (fun _ => True) (bestName s sig best names) := by
  induction names with
  | nil => exact fun _ => trivial
  | cons n r ih => exact fun _ => (Scoring.namedPoints_gives h (some n) sig).bind fun _ _ => ih _

theorem agreement_gives (h : s.NumericWeights) (hws : NumericTable ws) :
    Gives (fun r => ∀ b, r = some b → NumericTable b) (agreement s ws e sig) := by
  have hgiven : ∀ name, Gives Json.IsNumeric (.ok (given ws name)) := fun name => .ok (given_numeric hws name)
  have hnum : ∀ n : Number, (Json.num n).IsNumeric := fun _ => rfl
  have hnames : Gives (fun _ => True) ((searchNames true e sig).map fun _ => nameFits e sig) :=
    (searchNames_gives true e sig).bind fun _ _ => trivial
  have hbest :=
    (bestName_gives h sig e.names none).bind fun best _ => Gives.ok (hnum (best.getD (.float 0.0)))
  have hmethods := (Scoring.confirmedPoints_gives h sig.methods).bind fun n _ => Gives.ok (hnum n)
  apply count_gives
  simp only [parts, List.forall_mem_cons]
  exact ⟨⟨trivial, hgiven _⟩, ⟨hnames, hbest⟩, ⟨trivial, hmethods⟩,
    ⟨trivial, times_gives (given_numeric hws _) _⟩, ⟨trivial, hgiven _⟩, ⟨trivial, hgiven _⟩, by simp⟩

theorem accessWeight_numeric (hws : NumericTable ws) : NumericTable (accessWeight ws e sig) := by
  unfold accessWeight
  split
  · exact numericTable_single (given_numeric hws _)
  split
  · exact numericTable_single (given_numeric hws _)
  · exact numericTable_nil

theorem pointsOf_gives {b : Fields Json} (hb : NumericTable b) : Gives (fun _ => True) (Points.of b) := by
  refine (addAll_gives ?_ (.int 0)).bind fun _ _ => trivial
  intro v hv
  obtain ⟨p, hp, rfl⟩ := List.mem_map.mp hv
  exact hb p hp

theorem attempt_gives (h : s.NumericWeights) : Gives (fun _ => True) (attempt s e sig) := by
  have hshape : Gives (fun _ => True) (checkShape e sig) :=
    (searchNames_gives _ e sig).bind fun _ _ => trivial
  refine hshape.bind fun fits _ => ?_
  cases fits with
  | true =>
    refine h.target_gives.bind fun ws hws => (agreement_gives h hws).bind fun r hr => ?_
    cases r with
    | none => trivial
    | some b => exact (pointsOf_gives ((hr b rfl).append (accessWeight_numeric hws))).bind fun _ _ => trivial
  | false => trivial

theorem resolveFrom_gives (h : s.NumericWeights) (es : List ExportEntry) (best : Option Resolved) :
    Gives (fun _ => True) (resolveFrom s sig es best) := by
  induction es generalizing best with
  | nil => trivial
  | cons e r ih =>
    refine (attempt_gives h).bind fun x _ => ?_
    cases x with
    | none => exact ih best
    | some x => exact ih (better best x)

/-- With weights that are numbers, the exports of a file can be gone through unless a number is too large
or a match is broken. -/
theorem resolve_gives (h : s.NumericWeights) (es : ExportMetadata) :
    Gives (fun _ => True) (resolve s es sig) :=
  (h.weights_gives "target").bind fun _ _ => resolveFrom_gives h es none

/-! ## Exports that are passed over -/

/-- A first part is not asked for, or it does not fit and ends the count, or it is counted before the others. -/
theorem count_cons_cases {p : Part} {ps : List Part} {o : Option (Fields Json)} (h : count (p :: ps) = .ok o) :
    (p.asked = false ∧ count ps = .ok o) ∨ (p.asked = true ∧ p.fits = .ok false ∧ o = none) ∨
      ∃ v o', p.asked = true ∧ p.fits = .ok true ∧ p.points = .ok v ∧ count ps = .ok o' ∧
        o = o'.map ((p.name, v) :: ·) := by
  rw [count] at h
  split at h
  · next hasked =>
    obtain ⟨fits, hfits, h⟩ := bind_eq_ok.mp h
    cases fits with
    | false => exact .inr (.inl ⟨hasked, hfits, (Except.ok.inj h).symm⟩)
    | true =>
      obtain ⟨v, hv, h⟩ := bind_eq_ok.mp h
      obtain ⟨o', ho', h⟩ := bind_eq_ok.mp h
      exact .inr (.inr ⟨v, o', hasked, hfits, hv, ho', (Except.ok.inj h).symm⟩)
  · next hasked => exact .inl ⟨eq_false_of_ne_true hasked, h⟩

/-- Of parts that are counted, each one that is asked for fits and has points. -/
theorem count_eq_some {ps : List Part} {b : Fields Json} (h : count ps = .ok (some b)) :
    ∀ p ∈ ps, p.asked → p.fits = .ok true ∧ ∃ v, p.points = .ok v := by
  induction ps generalizing b with
  | nil => simp
  | cons p r ih =>
    rw [List.forall_mem_cons]
    obtain ⟨hasked, h⟩ | ⟨-, -, h⟩ | ⟨v, o, -, hfits, hv, ho, h⟩ := count_cons_cases h
    · exact ⟨fun htrue => by simp [hasked] at htrue, ih h⟩
    · cases h
    · obtain ⟨rest, rfl, -⟩ := Option.map_eq_some_iff.mp h.symm
      exact ⟨fun _ => ⟨hfits, v, hv⟩, ih ho⟩

theorem count_ne_none {ps : List Part} (h : ∀ p ∈ ps, p.fits ≠ .ok false) : count ps ≠ .ok none := by
  induction ps with
  | nil => simp [count]
  | cons p r ih =>
    obtain ⟨hp, hr⟩ := List.forall_mem_cons.mp h
    intro hcount
    obtain ⟨-, hcount⟩ | ⟨-, hfits, -⟩ | ⟨v, o, -, -, -, ho, hnone⟩ := count_cons_cases hcount
    · exact ih hr hcount
    · exact hp hfits
    · rw [Option.map_eq_none_iff.mp hnone.symm] at ho
      exact ih hr ho

theorem agreement_ne_none (ht : typeFits e sig) (hn : nameFits e sig) (hm : methodsFit e sig)
    (hp : propertiesFit e sig) (hb : baseFits e sig) (hi : instanceFits e sig) :
    agreement s ws e sig ≠ .ok none := by
  have hnames : (searchNames true e sig).map (fun _ => nameFits e sig) ≠ .ok false := by
    rw [hn]
    cases searchNames true e sig <;> simp [Except.map]
  apply count_ne_none
  simp only [parts, List.forall_mem_cons, ht, hm, hp, hb, hi]
  exact ⟨by simp, hnames, by simp⟩

theorem mismatch_of_attempt_none (h : attempt s e sig = .ok none) : ∃ why, mismatch e sig = some why := by
  rw [← Option.ne_none_iff_exists']
  intro hnone
  obtain ⟨hshape, hi⟩ := mismatch_eq_none_iff.mp hnone
  obtain ⟨fits, hfits, h⟩ := bind_eq_ok.mp h
  rw [← (checkShape_eq_ok.mp hfits).2, if_pos hshape] at h
  obtain ⟨ws, -, h⟩ := bind_eq_ok.mp h
  obtain ⟨r, hr, h⟩ := bind_eq_ok.mp h
  cases r with
  | none =>
    simp only [hasShape, Bool.and_eq_true] at hshape
    obtain ⟨⟨⟨⟨⟨ht, -⟩, hn⟩, hm⟩, hp⟩, hb⟩ := hshape
    exact agreement_ne_none ht hn hm hp hb hi hr
  | some b =>
    obtain ⟨points, -, h⟩ := bind_eq_ok.mp h
    cases h

theorem attempt_none_of_resolveFrom (es : List ExportEntry) :
    ∀ best, resolveFrom s sig es best = .ok none → best = none ∧ ∀ e ∈ es, attempt s e sig = .ok none := by
  induction es with
  | nil =>
    intro best h
    exact ⟨Except.ok.inj h, by simp⟩
  | cons e r ih =>
    intro best h
    obtain ⟨x, hx, h⟩ := bind_eq_ok.mp h
    cases x with
    | none =>
      obtain ⟨hbest, hr⟩ := ih best h
      exact ⟨hbest, List.forall_mem_cons.mpr ⟨hx, hr⟩⟩
    | some x =>
      -- one of the two compared is kept
      have hkept : better best x = none := (ih _ h).1
      unfold better at hkept
      split at hkept
      · cases hkept
      · split at hkept <;> cases hkept

theorem mismatch_of_resolve_none {es : ExportMetadata} (h : resolve s es sig = .ok none) :
    ∀ e ∈ es, ∃ why, mismatch e sig = some why := by
  obtain ⟨ws, -, h⟩ := bind_eq_ok.mp h
  intro e he
  exact mismatch_of_attempt_none ((attempt_none_of_resolveFrom es none h).2 e he)

/-! ## The three checks -/

theorem validate_gives (h : s.NumericWeights) : Gives (fun _ => True) (validate s e sig) := by
  refine h.target_gives.bind fun ws hws => (agreement_gives h hws).bind fun r hr => ?_
  cases r with
  | none => trivial
  | some b => exact (pointsOf_gives (hr b rfl)).bind fun _ _ => trivial

variable {r : Option Points}

theorem isSome_name_of_pattern? {p : Pattern.Compiled} (h : sig.pattern? = some p) : sig.name.isSome = true := by
  unfold Signature.pattern? at h
  split at h
  · next hname => rw [hname, Option.isSome_some]
  · cases h

/-- The names have been searched if the kind of the export fits. -/
theorem searchNames_of_agreement {o : Option (Fields Json)} (h : agreement s ws e sig = .ok o) :
    searchNames (typeFits e sig) e sig = .ok () := by
  cases hp : sig.pattern? with
  | none => simp [searchNames, hp]
  | some p =>
    cases ht : typeFits e sig with
    | false => simp [searchNames, hp]
    | true =>
      have hname : sig.name.isSome = true := isSome_name_of_pattern? hp
      obtain ⟨o', ho'⟩ : ∃ o', count (parts s ws e sig).tail = .ok o' := by
        obtain ⟨-, h⟩ | ⟨-, hfits, -⟩ | ⟨-, o', -, -, -, h, -⟩ := count_cons_cases h
        · exact ⟨o, h⟩
        · rw [ht] at hfits
          cases hfits
        · exact ⟨o', h⟩
      obtain ⟨b, hb⟩ : ∃ b, (searchNames true e sig).map (fun _ => nameFits e sig) = .ok b := by
        obtain ⟨hasked, -⟩ | ⟨-, hfits, -⟩ | ⟨-, -, -, hfits, -⟩ := count_cons_cases ho'
        · simp [hname] at hasked
        · exact ⟨_, hfits⟩
        · exact ⟨_, hfits⟩
      cases hsearch : searchNames true e sig with
      | error m =>
        rw [hsearch] at hb
        cases hb
      | ok u => rfl

theorem searchNames_of_validate (h : validate s e sig = .ok r) :
    searchNames (typeFits e sig && exportFits e sig) e sig = .ok () := by
  obtain ⟨ws, -, h⟩ := bind_eq_ok.mp h
  obtain ⟨o, ho, -⟩ := bind_eq_ok.mp h
  exact searchNames_of_reached (searchNames_of_agreement ho) _

/-- An export of the right shape is left without points only for the sake of its instances. -/
theorem validate_eq_none_iff (hshape : hasShape e sig) (h : validate s e sig = .ok r) :
    r = none ↔ instanceFits e sig = false := by
  simp only [hasShape, Bool.and_eq_true] at hshape
  obtain ⟨⟨⟨⟨⟨ht, -⟩, hn⟩, hm⟩, hp⟩, hb⟩ := hshape
  obtain ⟨ws, -, h⟩ := bind_eq_ok.mp h
  obtain ⟨o, ho, h⟩ := bind_eq_ok.mp h
  cases hi : instanceFits e sig with
  | true =>
    cases o with
    | none => exact absurd ho (agreement_ne_none ht hn hm hp hb hi)
    | some b =>
      obtain ⟨points, -, h⟩ := bind_eq_ok.mp h
      cases h
      simp
  | false =>
    cases o with
    | none =>
      cases h
      simp
    | some b =>
      -- an instance is asked for, since the export is not one
      have hasked : sig.instanceOf.isSome = true := by
        rw [Option.isSome_iff_ne_none]
        intro hnone
        simp [instanceFits, hnone] at hi
      have hall := count_eq_some ho
      simp only [parts, List.forall_mem_cons] at hall
      obtain ⟨-, -, -, -, -, hinstance, -⟩ := hall
      rw [hi] at hinstance
      cases (hinstance hasked).1

/-- The shape, the points and the explanation of an export agree, unless counting its points fails.  Among
the exports of the right shape the points single out those that cannot be what instances are asked of. -/
theorem checks_agree (h : s.NumericWeights) (e : ExportEntry) (sig : Signature) :
    (∃ shaped points why, checkShape e sig = .ok shaped ∧ validate s e sig = .ok points ∧
      explain e sig = .ok why ∧ (why = none ↔ shaped = true ∧ points ≠ none) ∧
      (shaped = true → (points = none ↔
        ∃ i, sig.instanceOf = some i ∧ e.info.name ≠ some i ∧ e.info.base ≠ some i))) ∨
    validate s e sig = .error .tooLarge ∨ validate s e sig = .error .brokenGroup := by
  have hgives : Gives (fun _ => True) (validate s e sig) := validate_gives h
  cases hv : validate s e sig with
  | error m =>
    rw [hv] at hgives
    rcases hgives with rfl | rfl
    · exact .inr (.inl rfl)
    · exact .inr (.inr rfl)
  | ok points =>
    have hsearch := searchNames_of_validate hv
    refine .inl ⟨hasShape e sig, points, mismatch e sig, checkShape_eq_ok.mpr ⟨hsearch, rfl⟩, rfl,
      explain_eq_ok.mpr ⟨hsearch, rfl⟩, ?_, ?_⟩
    · rw [mismatch_eq_none_iff]
      refine and_congr_right fun hshape => ?_
      rw [Ne, validate_eq_none_iff hshape hv, Bool.not_eq_false]
    · intro hshape
      rw [validate_eq_none_iff hshape hv, instanceFits_eq_false_iff]

/-- A class that nobody extends. -/
def loneClass : ExportEntry :=
  ⟨some "A", ⟨.direct, none⟩, { name := some "A", kind := "class", methods := ["run"] }⟩

/-- A class of the right shape whose instances are not those asked for. -/
theorem checks_agree_lone : ({} : Settings).NumericWeights ∧
    ∃ why, checkShape loneClass { methods := ["run"], instanceOf := some "B" } = .ok true ∧
      validate {} loneClass { methods := ["run"], instanceOf := some "B" } = .ok none ∧
      explain loneClass { methods := ["run"], instanceOf := some "B" } = .ok (some why) := by
  have hnumeric : ({} : Settings).NumericWeights := by
    refine ⟨_, rfl, fun p hp => ?_⟩
    simp only [List.mem_map] at hp
    obtain ⟨w, -, rfl⟩ := hp
    rfl
  refine ⟨hnumeric, ?_⟩
  have hvalidate : (validate {} loneClass { methods := ["run"], instanceOf := some "B" }).toOption.any
      (·.isNone) = true := by decide +kernel
  rcases checks_agree hnumeric loneClass { methods := ["run"], instanceOf := some "B" } with
    ⟨shaped, points, why, hshaped, hpoints, hwhy, hnone, hinstance⟩ | herror | herror
  · rw [hpoints] at hvalidate
    have hp : points = none := Option.isNone_iff_eq_none.mp hvalidate
    subst hp
    obtain rfl : true = shaped := (checkShape_eq_ok.mp hshaped).2
    have hsome : why ≠ none := fun h => (hnone.mp h).2 rfl
    obtain ⟨text, rfl⟩ := Option.ne_none_iff_exists'.mp hsome
    exact ⟨text, hshaped, hpoints, hwhy⟩
  · rw [herror] at hvalidate
    cases hvalidate
  · rw [herror] at hvalidate
    cases hvalidate

/-- Settings with a weight that no float can hold. -/
def heavyTarget : Settings :=
  { scoring := .obj [("target", .obj [("typeMatch", .ofNat (Nat.pow 10 400))])] }

/-- With a weight that is too large, an export of the right shape that leaves nothing to explain cannot be
counted. -/
theorem checks_of_heavyTarget : heavyTarget.NumericWeights ∧
    Signature.normalize (.obj [("type", .str "class"), ("exports", .str "X")]) =
      .ok { type := some .classDef, exports := some "X" } ∧
    checkShape loneClass { type := some .classDef, exports := some "X" } = .ok true ∧
    explain loneClass { type := some .classDef, exports := some "X" } = .ok none ∧
    validate heavyTarget loneClass { type := some .classDef, exports := some "X" } = .error .tooLarge := by
  refine ⟨⟨_, rfl, fun p hp => ?_⟩, rfl, rfl, rfl, eq_error_of_failure? (by decide +kernel)⟩
  rw [List.mem_singleton.mp hp]
  rfl

end Resolution

end ShapeSearch
