import ShapeSearch.Proofs.Signature

/-!
# The normal form of a signature

What has been read has a normal form (`Normal`), and a signature in normal form is read as itself, from its own
fields and from its written form:

    normalize v = .ok sig → sig.Normal                                             (normal_of_normalize)
    sig.Normal → renormalize sig = .ok sig                                          (renormalize_of_normal)
    sig.Normal → normalize sig.toJson = .ok { sig with extra := [] }             (normalize_toJson_of_normal)

A pattern changes its written form on the way, since its modes are written in a fixed order and include those
that the pattern itself switches on; it is the same pattern for all that (`readName_literal`).
-/

namespace ShapeSearch

namespace Signature

/-! ## Texts -/

/-- A text that is not blank and has no blanks at its ends. -/
def IsClean (t : String) : Prop := t ≠ "" ∧ Text.trim t = t

theorem isClean_of_cleanText {field : String} {v : Option Json} {out : Option String}
    (h : cleanText field v = .ok out) : ∀ t ∈ out, IsClean t := by
  obtain ⟨s, -, rfl⟩ := cleanText_eq_ok.mp h
  intro t ht
  obtain ⟨hne, u, -, rfl⟩ := Suggestion.mem_clean.mp ht
  exact ⟨hne, Text.trim_trim u⟩

theorem cleanText_of_clean (field : String) {s : Option String} (h : ∀ t ∈ s, IsClean t) :
    cleanText field (s.map Json.str) = .ok s := by
  rw [cleanText_map]
  cases s with
  | none => rfl
  | some t =>
    obtain ⟨hne, htrim⟩ := h t rfl
    rw [Suggestion.clean_some, htrim, if_neg hne]

theorem eraseDups_of_nodup {xs : List String} (h : xs.Nodup) : xs.eraseDups = xs := by
  induction xs with
  | nil => rfl
  | cons x r ih =>
    obtain ⟨hx, hr⟩ := List.nodup_cons.mp h
    have hfilter : r.filter (fun b => !b == x) = r := by
      refine List.filter_eq_self.mpr fun b hb => ?_
      have hne : b ≠ x := by
        rintro rfl
        exact hx hb
      simp [hne]
    rw [List.eraseDups_cons, hfilter, ih hr]

/-- Texts that need no more cleaning. -/
def AreTidy (xs : List String) : Prop := (∀ t ∈ xs, IsClean t) ∧ xs.Nodup

theorem areTidy_tidied (xs : List String) : AreTidy (tidied xs) := by
  refine ⟨fun t ht => ?_, nodup_eraseDups _⟩
  obtain ⟨hne, x, -, rfl⟩ := mem_tidied.mp ht
  exact ⟨hne, Text.trim_trim x⟩

theorem tidied_of_areTidy {xs : List String} (h : AreTidy xs) : tidied xs = xs := by
  have htrim : xs.map Text.trim = xs := List.map_congr_left (fun t ht => (h.1 t ht).2) |>.trans (List.map_id _)
  have hkept : xs.filter (· ≠ "") = xs := List.filter_eq_self.mpr fun t ht => by simpa using (h.1 t ht).1
  rw [tidied, trimmed, htrim, hkept, eraseDups_of_nodup h.2]

/-! ## Names -/

/-- The form of a pattern: slashes around what is not empty, and mode letters behind. -/
def IsSlashed (s : String) : Prop :=
  ∃ body letters, body ≠ [] ∧ (∀ c ∈ letters, c = 'i' ∨ c = 'm' ∨ c = 's') ∧
    s.toList = '/' :: (body ++ '/' :: letters)

theorem slashed?_eq_none_iff {s : String} : slashed? s = none ↔ ¬ IsSlashed s := by
  have hsome : IsSlashed s ↔ ∃ r, slashed? s = some r := by
    constructor
    · rintro ⟨body, letters, hbody, hletters, hs⟩
      exact ⟨(String.ofList body, letters), slashed?_eq_some_iff.mpr
        ⟨by simpa using hbody, hletters, by rw [hs, String.toList_ofList]⟩⟩
    · rintro ⟨⟨body, letters⟩, h⟩
      obtain ⟨hbody, hletters, hs⟩ := slashed?_eq_some_iff.mp h
      exact ⟨body.toList, letters, by simpa using hbody, hletters, hs⟩
  rw [hsome, ← Option.isSome_iff_exists, Option.not_isSome_iff_eq_none]

theorem modesOf_lettersOf (f : Pattern.Flags) : modesOf (lettersOf f) = f.outer := by
  rw [modesOf, lettersOf, Pattern.Flags.outer]
  cases f.ignoreCase <;> cases f.multiline <;> cases f.dotAll <;> rfl

/-- A pattern is read again from its written form. -/
theorem readName_literal {body : String} {letters : List Char} {p : Pattern.Compiled} (hbody : body ≠ "")
    (h : Pattern.compile body (modesOf letters) = .ok p) : readName p.literal = .ok (.pattern p) := by
  have hsource : p.source = body := source_of_compile h
  rw [readName, slashed?_literal (by rwa [hsource])]
  simp only
  rw [hsource, modesOf_lettersOf, Pattern.compile_again (isOuter_modesOf letters) h]

theorem isClean_literal (p : Pattern.Compiled) : IsClean p.literal := by
  have hlist := toList_literal p
  constructor
  · intro hempty
    rw [hempty] at hlist
    cases hlist
  · rw [Text.trim_eq_self_iff, hlist]
    constructor
    · rintro c ⟨⟩
      decide
    · have hblank : ('/' :: lettersOf p.flags).all (fun c => !Text.isBlank c) = true := by
        rw [lettersOf]
        cases p.flags.ignoreCase <;> cases p.flags.multiline <;> cases p.flags.dotAll <;> decide
      intro c hc
      rw [← List.cons_append, List.getLast?_append, List.getLast?_cons, Option.some_or] at hc
      have hmem : c ∈ '/' :: lettersOf p.flags := List.mem_of_getLast? (by rwa [List.getLast?_cons])
      simpa using List.all_eq_true.mp hblank c hmem

/-! ## Normal form -/

/-- A name that is read as itself from its written form; a plain one never has the form of a pattern. -/
def NormalName : NameQuery → Prop
  | .exact s => IsClean s ∧ ¬ IsSlashed s
  | .pattern p => readName p.literal = .ok (.pattern p)

/-- A signature in normal form. -/
structure Normal (sig : Signature) : Prop where
  name : ∀ n ∈ sig.name, NormalName n
  exports : ∀ t ∈ sig.exports, IsClean t
  methods : AreTidy sig.methods
  properties : AreTidy sig.properties
  base : ∀ t ∈ sig.base, IsClean t
  instanceOf : ∀ t ∈ sig.instanceOf, IsClean t
  language : ∀ t ∈ sig.language, IsClean t ∧ Text.lower t = t
  extra : (Fields.keys sig.extra).Nodup ∧ ∀ k ∈ Fields.keys sig.extra, k ∉ knownFields
  constrained : sig.isConstrained = true

theorem normalName_of_nameFrom {v : Option Json} {name : Option NameQuery} (h : nameFrom v none = .ok name) :
    ∀ n ∈ name, NormalName n := by
  obtain ⟨t, ht, hname⟩ := bind_eq_ok.mp h
  have hclean := isClean_of_cleanText (Fault.refuse_eq_ok.mp ht)
  rcases readNameOf_eq_ok.mp hname with ⟨-, rfl⟩ | ⟨s, n, rfl, hread, rfl⟩
  · simp
  · rintro n ⟨⟩
    rcases readName_eq_ok hread with ⟨hplain, rfl⟩ | ⟨body, letters, p, hbody, hp, rfl⟩
    · exact ⟨hclean s rfl, slashed?_eq_none_iff.mp hplain⟩
    · exact readName_literal hbody hp

theorem normal_of_reads {fs : Fields Json} {sig : Signature} (hfs : (Fields.keys fs).Nodup)
    (h : Reads none fs sig) : sig.Normal where
  name := normalName_of_nameFrom h.name
  exports := isClean_of_cleanText h.exports
  methods := by
    obtain ⟨xs, -, hxs⟩ := h.methods
    rw [hxs]
    exact areTidy_tidied xs
  properties := by
    obtain ⟨xs, -, hxs⟩ := h.properties
    rw [hxs]
    exact areTidy_tidied xs
  base := isClean_of_cleanText h.base
  instanceOf := isClean_of_cleanText h.instanceOf
  language := by
    obtain ⟨t, ht, hlower⟩ := h.language
    rw [hlower]
    intro s hs
    obtain ⟨u, hu, rfl⟩ := Option.map_eq_some_iff.mp hs
    obtain ⟨hne, htrim⟩ := isClean_of_cleanText ht u hu
    exact ⟨⟨Text.lower_ne_empty hne, Text.trim_lower htrim⟩, Text.lower_lower u⟩
  extra := by
    rw [h.extra]
    refine ⟨Fields.nodup_filter _ hfs, fun k hk => ?_⟩
    obtain ⟨p, hp, rfl⟩ := List.mem_map.mp hk
    simpa using (List.mem_filter.mp hp).2
  constrained := h.constrained

/-! ## Reading a normal form -/

theorem isClean_targetText (k : TargetType) : IsClean k.text := by
  cases k <;> exact ⟨by decide, by decide +kernel⟩

theorem readType_of_text (k : Option TargetType) : readType ((k.map TargetType.text).map Json.str) = .ok k := by
  have hclean : ∀ t ∈ k.map TargetType.text, IsClean t := by
    intro t ht
    obtain ⟨k, -, rfl⟩ := Option.map_eq_some_iff.mp ht
    exact isClean_targetText k
  rw [readType, cleanText_of_clean "type" hclean]
  cases k with
  | none => rfl
  | some k =>
    have hlower : Text.lower k.text = k.text := by
      have := TargetType.lower_trim_text k
      rwa [(isClean_targetText k).2] at this
    simp only [Option.map_some, bind, Except.bind]
    rw [hlower, TargetType.ofText?_text]

variable {limits : Json.Limits} {sig : Signature}

theorem ofFields_of_normal (h : sig.Normal) {given : Option NameQuery} {fs : Fields Json}
    (hname : nameFrom (fs.get? "name") given = .ok sig.name)
    (hget : ∀ k ∈ knownFields, k ≠ "name" → fs.get? k = Fields.get? sig.toFields k) :
    ofFields limits given fs = .ok { sig with extra := fs.filter fun p => !knownFields.contains p.1 } := by
  obtain ⟨-, htype, hexports, hbase, hinstance, hlanguage, hmethods, hproperties⟩ := get?_toFields sig
  have hlower : sig.language = sig.language.map Text.lower := by
    cases hl : sig.language with
    | none => rfl
    | some t => rw [Option.map_some, (h.language t hl).2]
  refine ofFields_eq_ok.mpr
    { name := hname, type := ?_, exports := ?_, methods := ?_, properties := ?_, base := ?_,
      instanceOf := ?_, language := ⟨sig.language, ?_, hlower⟩, extra := rfl, constrained := h.constrained }
  · rw [hget _ (by decide) (by decide), htype, readType_of_text]
  · rw [hget _ (by decide) (by decide), hexports, cleanText_of_clean _ h.exports]
  · rw [hget _ (by decide) (by decide), hmethods]
    exact ⟨_, holds_nonEmptyList _, (tidied_of_areTidy h.methods).symm⟩
  · rw [hget _ (by decide) (by decide), hproperties]
    exact ⟨_, holds_nonEmptyList _, (tidied_of_areTidy h.properties).symm⟩
  · rw [hget _ (by decide) (by decide), hbase, cleanText_of_clean _ h.base]
  · rw [hget _ (by decide) (by decide), hinstance, cleanText_of_clean _ h.instanceOf]
  · rw [hget _ (by decide) (by decide), hlanguage, cleanText_of_clean _ fun t ht => (h.language t ht).1]

theorem nameFrom_of_normal (h : sig.Normal) : nameFrom (Fields.get? sig.toFields "name") none = .ok sig.name := by
  rw [(get?_toFields sig).1]
  cases hn : sig.name with
  | none => rfl
  | some n =>
    have hnormal := h.name n hn
    have hclean : IsClean n.text := by
      cases n with
      | exact s => exact hnormal.1
      | pattern p => exact isClean_literal p
    have hread : readName n.text = .ok n := by
      cases n with
      | exact s =>
        show readName s = _
        rw [readName, slashed?_eq_none_iff.mpr hnormal.2]
      | pattern p => exact hnormal
    rw [nameFrom, Option.map_some, cleanText_of_clean "name" (s := some n.text) (by simpa using hclean)]
    show (readName n.text).map some = _
    rw [hread]
    rfl

theorem known_of_toFields : ∀ k ∈ Fields.keys sig.toFields, k ∈ knownFields := by
  have hknown : ∀ k ∈ ["name", "type", "exports", "extends", "instanceof", "language", "methods", "properties"],
      k ∈ knownFields := by decide
  exact fun k hk => hknown k ((keys_toFields sig).subset hk)

theorem unknown_toFields (sig : Signature) : sig.toFields.filter (fun p => !knownFields.contains p.1) = [] := by
  rw [List.filter_eq_nil_iff]
  intro p hp
  simpa using known_of_toFields p.1 (List.mem_map_of_mem hp)

theorem normalize_toJson_of_normal (h : sig.Normal) : normalize sig.toJson = .ok { sig with extra := [] } := by
  rw [toJson, normalize, ofFields_of_normal h (nameFrom_of_normal h) fun _ _ _ => rfl, unknown_toFields]

theorem renormalize_of_normal (h : sig.Normal) : renormalize sig = .ok sig := by
  obtain ⟨hnodup, hunknown⟩ := h.extra
  have hput : Fields.putAll sig.toFields sig.extra = sig.toFields ++ sig.extra := by
    refine Fields.putAll_of_nodup ?_
    rw [Fields.keys, List.map_append]
    exact (nodup_toFields sig).append hnodup fun k hk hk' => hunknown k hk' (known_of_toFields k hk)
  have hget : ∀ k ∈ knownFields, Fields.get? (sig.toFields ++ sig.extra) k = Fields.get? sig.toFields k := by
    intro k hk
    have hnone : Fields.get? sig.extra k = none := Fields.get?_eq_none_iff.mpr fun hmem => hunknown k hmem hk
    rw [Fields.get?_append, hnone, Option.or_none]
  have hextra : (sig.toFields ++ sig.extra).filter (fun p => !knownFields.contains p.1) = sig.extra := by
    rw [List.filter_append, unknown_toFields, List.nil_append, List.filter_eq_self]
    intro p hp
    simpa using hunknown p.1 (List.mem_map_of_mem hp)
  unfold renormalize
  rw [hput]
  simp only
  split
  · next p hp =>
    -- a pattern is not read again, and its field is left out
    have hname : sig.name = some (.pattern p) := by
      unfold pattern? at hp
      split at hp
      · next q hq =>
        cases hp
        exact hq
      · cases hp
    have herase : ((sig.toFields ++ sig.extra).erase "name").filter (fun p => !knownFields.contains p.1) =
        sig.extra := by
      rw [Fields.erase, List.filter_filter]
      refine (List.filter_congr fun q _ => ?_).trans hextra
      by_cases hq : q.1 = "name" <;> simp [hq, knownFields]
    rw [ofFields_of_normal h (by rw [hname]; rfl), herase]
    intro k hk hne
    rw [← hget k hk, Fields.erase, Fields.get?_filter (fun k => decide (k ≠ "name")), if_pos (by simpa using hne)]
  · rw [ofFields_of_normal h ?_ fun k hk _ => hget k hk, hextra]
    rw [hget _ (by decide), nameFrom_of_normal h]

/-! ## What has been read -/

/-- The fields that a value is read from. -/
def asked : Json → Fields Json
  | .str s => [("name", .str s)]
  | .obj fs => fs
  | _ => []

theorem reads_of_normalize {v : Json} (h : normalize v = .ok sig) : Reads none (asked v) sig := by
  cases v with
  | str s => exact ofFields_eq_ok.mp h
  | obj fs => exact ofFields_eq_ok.mp h
  | _ => cases h

theorem normal_of_normalize {v : Json} (hv : v.Distinct) (h : normalize v = .ok sig) : sig.Normal := by
  refine normal_of_reads ?_ (reads_of_normalize h)
  cases hv with
  | obj hkeys _ => exact hkeys
  | _ => simp [asked, Fields.keys]

theorem unified_toJson (sig : Signature) : sig.toJson.unified = sig.toJson := by
  have hvalue : ∀ f ∈ sig.toFields, f.2.unified = f.2 := by
    intro f hf
    rcases mem_toFields hf with ⟨s, hs⟩ | ⟨xs, hxs⟩
    · rw [hs]
      rfl
    · rw [hxs, Json.ofTexts, Json.unified, Json.unifiedItems_eq, List.map_map]
      rfl
  have hfields : sig.toFields.map (fun f => (f.1, f.2.unified)) = sig.toFields := by
    refine (List.map_congr_left fun f hf => ?_).trans (List.map_id _)
    rw [hvalue f hf]
    rfl
  rw [toJson, Json.unified, Json.unifiedFields_eq, hfields, Fields.ofList_of_nodup (nodup_toFields sig)]

/-- What has been read is read again as it is: from its own fields, and from its written form, which leaves out
the unknown fields only.  It has a normal form, in which the members asked for are in order of first mention. -/
theorem normalize_stable {v : Json} {sig : Signature} (hv : v.Distinct) (h : normalize v = .ok sig) :
    renormalize sig = .ok sig ∧
    normalize sig.toJson = .ok { sig with extra := [] } ∧
    (∀ st : Json.Style, st.Readable → Json.parse (sig.toJson.write st).toList = .ok (some sig.toJson)) ∧
    sig.Normal ∧
    (∀ k ∈ sig.type, k.text ∈ ["class", "function", "module", "object"]) ∧
    (∃ xs, Holds ((asked v).get? "methods") xs ∧ sig.methods = tidied xs) ∧
    ∃ xs, Holds ((asked v).get? "properties") xs ∧ sig.properties = tidied xs := by
  have hreads := reads_of_normalize h
  have hnormal := normal_of_normalize hv h
  refine ⟨renormalize_of_normal hnormal, normalize_toJson_of_normal hnormal, fun st hst => ?_, hnormal,
    fun k _ => ?_, hreads.methods, hreads.properties⟩
  · rw [Json.parse_write_of_fits hst (fits_toJson sig 986), unified_toJson]
  · cases k <;> decide

/-- A pattern that switches on a mode of its own, and members in disorder. -/
def untidy : Json :=
  .obj [("note", .null), ("name", .str " /(?m)a/b/imi"), ("language", .str "Python "),
    ("methods", .ofTexts ["stop ", "", "run", " stop", "run"])]

theorem normalize_stable_untidy : ∃ sig, untidy.Distinct ∧ normalize untidy = .ok sig ∧
    sig.name.map NameQuery.text = some "/(?m)a/b/im" ∧ sig.methods = ["stop", "run"] ∧
    sig.language = some "python" ∧ renormalize sig = .ok sig ∧
    normalize sig.toJson = .ok { sig with extra := [] } := by
  have hdistinct : untidy.Distinct := by
    refine .obj (by decide) fun f hf => ?_
    simp only [List.mem_cons, List.not_mem_nil, or_false] at hf
    rcases hf with rfl | rfl | rfl | rfl
    · exact .null
    · exact .str _
    · exact .str _
    · refine .arr fun x hx => ?_
      obtain ⟨s, -, rfl⟩ := List.mem_map.mp hx
      exact .str s
  have hread : ((normalize untidy).toOption.any fun sig =>
      sig.name.map NameQuery.text == some "/(?m)a/b/im" && sig.methods == ["stop", "run"] &&
        sig.language == some "python") = true := by
    decide +kernel
  obtain ⟨sig, hsig, hfacts⟩ := (Option.any_eq_true _ _).mp hread
  have hsig := eq_ok_of_toOption hsig
  simp only [Bool.and_eq_true, beq_iff_eq] at hfacts
  obtain ⟨hagain, hwritten, -⟩ := normalize_stable hdistinct hsig
  exact ⟨sig, hdistinct, hsig, hfacts.1.1, hfacts.1.2, hfacts.2, hagain, hwritten⟩

end Signature

end ShapeSearch
