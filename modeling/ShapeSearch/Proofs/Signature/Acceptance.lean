import ShapeSearch.Proofs.Signature.Question

/-!
# What can be read as a signature

A value is read as a signature exactly if it is a text or a table whose fields are `Acceptable`.  Anything else is
refused for a reason, with two exceptions (`Breaks`): a pattern between slashes can fail in a way that is no refusal,
and an item of a list that is no text cannot always be shown in the reason.

    (∃ sig, normalize v limits = .ok sig) ↔ ((∃ s, v = .str s) ∨ ∃ fs, v = .obj fs) ∧ Acceptable (asked v)
    normalize v limits = .error (.misfit m) ↔ Breaks limits (asked v) m                     (normalize_outcome)
-/

namespace ShapeSearch.Signature

open Suggestion
open ToolCall (HoldsText)

/-! ## Single fields -/

/-- A kind that can be asked for: a blank one, or one of the four words in any case. -/
def IsKind (s : String) : Prop :=
  Text.trim s = "" ∨ Text.lower (Text.trim s) ∈ ["class", "function", "object", "module"]

/-- A name that can be asked for: any, but what stands between slashes has to be a pattern. -/
def IsName (s : String) : Prop :=
  ∀ body letters, Slashes (Text.trim s) body letters → ∃ p, Pattern.compile body (modesOf letters) = .ok p

/-- The texts in a field. -/
def textsIn : Option Json → List String
  | some (.str s) => [s]
  | some (.arr items) => items.filterMap Json.text?
  | _ => []

/-- A field with a text that is not blank. -/
def NonBlank (v : Option Json) : Prop := ∃ s ∈ textsIn v, Text.trim s ≠ ""

variable {limits : Json.Limits} {field : String} {v : Option Json} {s : Option String} {m : Misfit}

theorem textsIn_of_text (h : HoldsText v s) : textsIn v = s.toList := by
  cases s with
  | none => rcases h with rfl | rfl <;> rfl
  | some t =>
    cases h
    rfl

theorem textsIn_of_holds {xs : List String} (h : Holds v xs) : textsIn v = xs := by
  cases h with
  | list xs => simp [textsIn, Json.ofTexts, List.filterMap_map, Function.comp_def, Json.text?]
  | _ => rfl

/-- Something can be made of a field exactly if it holds a text, or none, of which it can be made. -/
theorem exists_text_iff {β : Type} {R : Option String → β → Prop} {Q : String → Prop}
    (hnone : ∃ b, R none b) (hsome : ∀ t, (∃ b, R (some t) b) ↔ Q t) :
    (∃ b s, HoldsText v s ∧ R s b) ↔ (∃ s, HoldsText v s) ∧ ∀ t ∈ textsIn v, Q t := by
  have h : ∀ s, (∃ b, R s b) ↔ ∀ t ∈ s.toList, Q t := by
    intro s
    cases s with
    | none => exact ⟨fun _ t ht => (by cases ht), fun _ => hnone⟩
    | some t => simp [hsome]
  constructor
  · rintro ⟨b, s, hs, hb⟩
    rw [textsIn_of_text hs]
    exact ⟨⟨s, hs⟩, (h s).mp ⟨b, hb⟩⟩
  · rintro ⟨⟨s, hs⟩, ht⟩
    rw [textsIn_of_text hs] at ht
    obtain ⟨b, hb⟩ := (h s).mpr ht
    exact ⟨b, s, hs, hb⟩

theorem readType_isOk : (∃ k, readType v = .ok k) ↔
    (∃ s, HoldsText v s) ∧ ∀ t ∈ textsIn v, IsKind t := by
  have hword : ∀ t, (∃ k, readKindOf (some t) = .ok k) ↔
      Text.lower t ∈ ["class", "function", "object", "module"] := by
    intro t
    rw [readKindOf, TargetType.ofText?]
    split_ifs <;> simp_all
  simp only [readType_eq_ok]
  refine exists_text_iff ⟨none, rfl⟩ fun t => ?_
  rw [clean_some]
  split
  · next hblank => simp [IsKind, hblank, readKindOf]
  · next hne => simp [IsKind, hne, hword]

theorem nameFrom_isOk : (∃ n, nameFrom v none = .ok n) ↔
    (∃ s, HoldsText v s) ∧ ∀ t ∈ textsIn v, IsName t := by
  have hread : ∀ t, (∃ q, readName (Text.trim t) = .ok q) ↔ IsName t := by
    intro t
    simp only [IsName, readName, ← slashed?_eq_some_iff]
    cases slashed? (Text.trim t) with
    | none => simp
    | some r =>
      obtain ⟨body, letters⟩ := r
      simp only
      split <;> simp_all
  simp only [nameFrom_eq_ok]
  refine exists_text_iff ⟨none, rfl⟩ fun t => ?_
  rw [clean_some]
  split
  · next hblank => simp [IsName, Slashes, hblank, readNameOf]
  · simp [readNameOf_eq_ok, ← hread]

/-! ## All fields -/

/-- Fields that can be read. -/
structure Acceptable (fs : Fields Json) : Prop where
  texts : ∀ k ∈ ["name", "type", "exports", "extends", "instanceof", "language"], ∃ s, HoldsText (fs.get? k) s
  lists : ∀ k ∈ ["methods", "properties"], ∃ xs, Holds (fs.get? k) xs
  type : ∀ s ∈ textsIn (fs.get? "type"), IsKind s
  name : ∀ s ∈ textsIn (fs.get? "name"), IsName s
  constrained : ∃ k ∈ ["name", "type", "exports", "methods", "properties", "extends", "instanceof"],
    NonBlank (fs.get? k)

/-- Fields with a kind and a language that can be read; these are read first. -/
structure Begins (fs : Fields Json) : Prop where
  texts : ∀ k ∈ ["type", "language"], ∃ s, HoldsText (fs.get? k) s
  type : ∀ s ∈ textsIn (fs.get? "type"), IsKind s

/-- Fields with a name and an export that can be read; these come next. -/
structure Goes (fs : Fields Json) : Prop extends Begins fs where
  named : ∀ k ∈ ["name", "exports"], ∃ s, HoldsText (fs.get? k) s
  name : ∀ s ∈ textsIn (fs.get? "name"), IsName s

/-- A list whose first item that is no text cannot be shown. -/
def Unshown (limits : Json.Limits) (v : Option Json) (m : Misfit) : Prop :=
  ∃ (xs : List String) (x : Json) (r : List Json), v = some (.arr (xs.map .str ++ x :: r)) ∧
    x.text? = none ∧ x.shown limits = .error m

/-- Fields that break the reading: the name is a pattern that fails without being refused, or one of the lists has an
item that cannot be shown. -/
inductive Breaks (limits : Json.Limits) (fs : Fields Json) (m : Misfit) : Prop
  | name {s body : String} {letters : List Char} (before : Begins fs) (text : fs.get? "name" = some (.str s))
      (slashes : Slashes (Text.trim s) body letters)
      (fails : Pattern.compile body (modesOf letters) = .error (.misfit m))
  | methods (before : Goes fs) (fails : Unshown limits (fs.get? "methods") m)
  | properties (before : Goes fs) (methods : ∃ xs, Holds (fs.get? "methods") xs)
      (fails : Unshown limits (fs.get? "properties") m)

theorem isSome_cleanText {out : Option String} (h : cleanText field v = .ok out) :
    out.isSome = true ↔ NonBlank v := by
  obtain ⟨s, hs, rfl⟩ := cleanText_eq_ok.mp h
  rw [NonBlank, textsIn_of_text hs, isSome_clean]

theorem isSome_readType {out : Option TargetType} (h : readType v = .ok out) :
    out.isSome = true ↔ NonBlank v := by
  obtain ⟨s, hs, hk⟩ := readType_eq_ok.mp h
  rw [NonBlank, textsIn_of_text hs, isSome_readKindOf hk, isSome_clean]

theorem isSome_nameFrom {out : Option NameQuery} (h : nameFrom v none = .ok out) :
    out.isSome = true ↔ NonBlank v := by
  obtain ⟨s, hs, hn⟩ := nameFrom_eq_ok.mp h
  rw [NonBlank, textsIn_of_text hs, isSome_readNameOf hn, isSome_clean]

theorem not_isEmpty_tidy {out : List String} (h : ∃ xs, Holds v xs ∧ out = tidied xs) :
    (!out.isEmpty) = true ↔ NonBlank v := by
  obtain ⟨xs, hxs, rfl⟩ := h
  rw [NonBlank, textsIn_of_holds hxs, not_isEmpty_tidied]

theorem isConstrained_iff {fs : Fields Json} {sig : Signature} (hn : nameFrom (fs.get? "name") none = .ok sig.name)
    (ht : readType (fs.get? "type") = .ok sig.type) (he : cleanText "exports" (fs.get? "exports") = .ok sig.exports)
    (hm : ∃ xs, Holds (fs.get? "methods") xs ∧ sig.methods = tidied xs)
    (hp : ∃ xs, Holds (fs.get? "properties") xs ∧ sig.properties = tidied xs)
    (hb : cleanText "extends" (fs.get? "extends") = .ok sig.base)
    (hi : cleanText "instanceof" (fs.get? "instanceof") = .ok sig.instanceOf) : sig.isConstrained = true ↔
      ∃ k ∈ ["name", "type", "exports", "methods", "properties", "extends", "instanceof"],
        NonBlank (fs.get? k) := by
  simp only [isConstrained, Bool.or_eq_true, isSome_nameFrom hn, isSome_readType ht, isSome_cleanText he,
    not_isEmpty_tidy hm, not_isEmpty_tidy hp, isSome_cleanText hb, isSome_cleanText hi]
  simp [or_assoc]

theorem ofFields_isOk {fs : Fields Json} : (∃ sig, ofFields limits none fs = .ok sig) ↔ Acceptable fs := by
  constructor
  · rintro ⟨sig, h⟩
    have r := ofFields_eq_ok.mp h
    obtain ⟨hname, hnames⟩ := nameFrom_isOk.mp ⟨_, r.name⟩
    obtain ⟨htype, htypes⟩ := readType_isOk.mp ⟨_, r.type⟩
    obtain ⟨_, hlanguage, -⟩ := r.language
    refine ⟨?_, ?_, htypes, hnames,
      (isConstrained_iff r.name r.type r.exports r.methods r.properties r.base r.instanceOf).mp r.constrained⟩
    · have htext : ∀ {k out}, cleanText k (fs.get? k) = .ok out → ∃ s, HoldsText (fs.get? k) s :=
        fun h => (cleanText_eq_ok.mp h).imp fun _ h => h.1
      simp only [List.forall_mem_cons]
      exact ⟨hname, htype, htext r.exports, htext r.base, htext r.instanceOf, htext hlanguage, by simp⟩
    · simp only [List.forall_mem_cons]
      exact ⟨r.methods.imp fun _ h => h.1, r.properties.imp fun _ h => h.1, by simp⟩
  · intro h
    obtain ⟨name, hname⟩ := nameFrom_isOk.mpr ⟨h.texts _ (by decide), h.name⟩
    obtain ⟨type, htype⟩ := readType_isOk.mpr ⟨h.texts _ (by decide), h.type⟩
    obtain ⟨exports, hexports⟩ := h.texts "exports" (by decide)
    obtain ⟨base, hbase⟩ := h.texts "extends" (by decide)
    obtain ⟨instanceOf, hinstance⟩ := h.texts "instanceof" (by decide)
    obtain ⟨language, hlanguage⟩ := h.texts "language" (by decide)
    obtain ⟨methods, hmethods⟩ := h.lists "methods" (by decide)
    obtain ⟨properties, hproperties⟩ := h.lists "properties" (by decide)
    have htext : ∀ {k s}, HoldsText (fs.get? k) s → cleanText k (fs.get? k) = .ok (clean s) :=
      fun hs => cleanText_eq_ok.mpr ⟨_, hs, rfl⟩
    let sig : Signature :=
      { name, type, exports := clean exports, methods := tidied methods, properties := tidied properties,
        base := clean base, instanceOf := clean instanceOf, language := (clean language).map Text.lower,
        extra := fs.filter fun p => !knownFields.contains p.1 }
    have hsig : sig.isConstrained = true := (isConstrained_iff hname htype (htext hexports) ⟨_, hmethods, rfl⟩
      ⟨_, hproperties, rfl⟩ (htext hbase) (htext hinstance)).mpr h.constrained
    exact ⟨sig, ofFields_eq_ok.mpr ⟨hname, htype, htext hexports, ⟨_, hmethods, rfl⟩, ⟨_, hproperties, rfl⟩,
      htext hbase, htext hinstance, ⟨_, htext hlanguage, rfl⟩, rfl, hsig⟩⟩

theorem cleanItems_eq_misfit {vs : List Json} {out : List String} :
    cleanItems limits field vs out = .error (.misfit m) ↔
      ∃ (xs : List String) (x : Json) (r : List Json), vs = xs.map .str ++ x :: r ∧
        x.text? = none ∧ x.shown limits = .error m := by
  have hshowing : ∀ {x : Json} {e : SignatureError},
      Fault.showing limits x e = .misfit m ↔ x.shown limits = .error m := by
    intro x e
    rw [Fault.showing]
    split <;> simp_all
  induction vs generalizing out with
  | nil => simp [cleanItems]
  | cons v vs ih =>
    by_cases hv : v.text? = none
    · have hclean : cleanItems limits field (v :: vs) out =
          .error (.showing limits v (.itemNotAText field v)) := by
        cases v <;> first | rfl | cases hv
      rw [hclean, Except.error.injEq, hshowing]
      constructor
      · exact fun h => ⟨[], v, vs, rfl, hv, h⟩
      · rintro ⟨xs, x, r, heq, -, h⟩
        cases xs with
        | nil =>
          cases heq
          exact h
        | cons y xs =>
          cases heq
          cases hv
    · obtain ⟨s, rfl⟩ : ∃ s, v = .str s := by
        cases v <;> simp_all [Json.text?]
      rw [cleanItems]
      refine ih.trans ?_
      constructor
      · rintro ⟨xs, x, r, rfl, h⟩
        exact ⟨s :: xs, x, r, rfl, h⟩
      · rintro ⟨xs, x, r, heq, hx, h⟩
        cases xs with
        | nil =>
          cases heq
          cases hx
        | cons y xs =>
          cases heq
          exact ⟨xs, x, r, rfl, hx, h⟩

theorem cleanList_eq_misfit : cleanList limits field v = .error (.misfit m) ↔ Unshown limits v m := by
  unfold cleanList Unshown
  split
  · simp
  · simp
  · simp [cleanItems]
  · simp [cleanItems_eq_misfit]
  · next hlist =>
    constructor
    · rintro ⟨⟩
    · rintro ⟨xs, x, r, heq, -⟩
      exact (hlist _ (Option.some.inj heq)).elim

theorem goes_iff {fs : Fields Json} : Goes fs ↔ Begins fs ∧ (∃ n, nameFrom (fs.get? "name") none = .ok n) ∧
    ∃ t, cleanText "exports" (fs.get? "exports") = .ok t := by
  rw [nameFrom_isOk]
  constructor
  · intro h
    obtain ⟨exports, hexports⟩ := h.named "exports" (by decide)
    exact ⟨h.toBegins, ⟨h.named "name" (by decide), h.name⟩, _,
      cleanText_eq_ok.mpr ⟨exports, hexports, rfl⟩⟩
  · rintro ⟨hbegins, ⟨htext, hname⟩, t, ht⟩
    refine ⟨hbegins, ?_, hname⟩
    simp only [List.forall_mem_cons]
    exact ⟨htext, (cleanText_eq_ok.mp ht).imp fun _ h => h.1, by simp⟩

theorem begins_iff {fs : Fields Json} : Begins fs ↔ (∃ k, readType (fs.get? "type") = .ok k) ∧
    ∃ t, cleanText "language" (fs.get? "language") = .ok t := by
  rw [readType_isOk]
  constructor
  · intro h
    obtain ⟨language, hlanguage⟩ := h.texts "language" (by decide)
    exact ⟨⟨h.texts "type" (by decide), h.type⟩, _, cleanText_eq_ok.mpr ⟨language, hlanguage, rfl⟩⟩
  · rintro ⟨⟨htext, htype⟩, t, ht⟩
    refine ⟨?_, htype⟩
    simp only [List.forall_mem_cons]
    exact ⟨htext, (cleanText_eq_ok.mp ht).imp fun _ h => h.1, by simp⟩

theorem nameFrom_breaks : nameFrom v none = .error (.misfit m) ↔
    ∃ s body letters, v = some (.str s) ∧ Slashes (Text.trim s) body letters ∧
      Pattern.compile body (modesOf letters) = .error (.misfit m) := by
  simp only [Question.nameFrom_eq_misfit, slashed?_eq_some_iff]
  constructor
  · rintro ⟨n, body, letters, hn, h⟩
    obtain ⟨s, hs, hclean⟩ := cleanText_eq_ok.mp hn
    obtain ⟨-, u, rfl, rfl⟩ := mem_clean.mp hclean.symm
    exact ⟨u, body, letters, hs, h⟩
  · rintro ⟨s, body, letters, rfl, hslashed, hcompile⟩
    have hne : Text.trim s ≠ "" := by
      intro hempty
      rw [hempty] at hslashed
      cases hslashed.2.2
    refine ⟨Text.trim s, body, letters, cleanText_eq_ok.mpr ⟨some s, rfl, ?_⟩, hslashed, hcompile⟩
    rw [clean_some, if_neg hne]

theorem ofFields_breaks {fs : Fields Json} :
    ofFields limits none fs = .error (.misfit m) ↔ Breaks limits fs m := by
  have hholds : (∃ xs, cleanList limits "methods" (fs.get? "methods") = .ok xs) ↔
      ∃ xs, Holds (fs.get? "methods") xs := by
    simp only [cleanList_eq_ok]
    constructor
    · rintro ⟨-, xs, hxs, -⟩
      exact ⟨xs, hxs⟩
    · rintro ⟨xs, hxs⟩
      exact ⟨_, xs, hxs, rfl⟩
  rw [Question.ofFields_eq_misfit, ← and_assoc, ← begins_iff, cleanList_eq_misfit, cleanList_eq_misfit,
    nameFrom_breaks, hholds]
  constructor
  · rintro ⟨hbegins, ⟨s, body, letters, hs, hslashed, hcompile⟩ | ⟨hname, hexports, h⟩⟩
    · exact .name hbegins hs hslashed hcompile
    · have hgoes : Goes fs := goes_iff.mpr ⟨hbegins, hname, hexports⟩
      rcases h with h | ⟨hmethods, h⟩
      · exact .methods hgoes h
      · exact .properties hgoes hmethods h
  · intro h
    cases h with
    | name before hs hslashed hcompile => exact ⟨before, .inl ⟨_, _, _, hs, hslashed, hcompile⟩⟩
    | methods before h =>
      obtain ⟨hbegins, hname, hexports⟩ := goes_iff.mp before
      exact ⟨hbegins, .inr ⟨hname, hexports, .inl h⟩⟩
    | properties before hmethods h =>
      obtain ⟨hbegins, hname, hexports⟩ := goes_iff.mp before
      exact ⟨hbegins, .inr ⟨hname, hexports, .inr ⟨hmethods, h⟩⟩⟩

/-- A value is read as a signature exactly if it is a text or a table with acceptable fields.  It is refused
otherwise, unless its name is a pattern that fails in another way, or an item that is refused cannot be shown. -/
theorem normalize_outcome (limits : Json.Limits) (v : Json) :
    ((∃ sig, normalize v limits = .ok sig) ↔
      ((∃ s, v = .str s) ∨ ∃ fs, v = .obj fs) ∧ Acceptable (asked v)) ∧
    ∀ m, normalize v limits = .error (.misfit m) ↔ Breaks limits (asked v) m := by
  have hnothing : ∀ m, ¬ Breaks limits [] m := by
    intro m h
    cases h with
    | name _ text => cases text
    | methods _ fails =>
      obtain ⟨_, _, _, h, -⟩ := fails
      cases h
    | properties _ _ fails =>
      obtain ⟨_, _, _, h, -⟩ := fails
      cases h
  cases v with
  | str s => exact ⟨by simpa [normalize, asked] using ofFields_isOk, fun m => ofFields_breaks⟩
  | obj fs => exact ⟨by simpa [normalize, asked] using ofFields_isOk, fun m => ofFields_breaks⟩
  | _ => exact ⟨by simp [normalize], fun m => by simpa [normalize, asked] using hnothing m⟩

/-- A pattern with more repetitions than can be counted is neither read nor refused. -/
theorem normalize_endless : (¬ ∃ sig, normalize (.str Question.endlessName) = .ok sig) ∧
    ¬ ∃ e, normalize (.str Question.endlessName) = .error (.refused e) := by
  have h : normalize (.str Question.endlessName) = .error (.misfit .tooLarge) :=
    Question.eq_misfit_of_misfit? (by decide +kernel)
  rw [h]
  simp

end ShapeSearch.Signature
