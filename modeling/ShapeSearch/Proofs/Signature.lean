import ShapeSearch.Proofs.Json.Sorted
import ShapeSearch.Proofs.Pattern.Modes
import ShapeSearch.Proofs.Signature.Reading

/-!
# Keys of signatures

What a key is the digest of says which root was searched, if any, and which signature was asked for, the
unknown fields apart:

    normalize x = .ok a → normalize y = .ok b →
      (a.canonical r = b.canonical q ↔ a.same b = true ∧ r = q)                      (canonical_eq_iff)

The written form of a name leaves nothing open: a name that is not a pattern never has the form of one, and
the last slash of a pattern ends its source (`text_injective`).
-/

namespace ShapeSearch

namespace Signature

variable {n : NameQuery} {x y : Json} {sig a b : Signature}

/-! ## Names -/

theorem splitLastSlash_append (body letters : List Char) (h : '/' ∉ letters) :
    splitLastSlash (body ++ '/' :: letters) = some (body, letters) := by
  have hall : ∀ c ∈ letters.reverse, (decide (c ≠ '/')) = true := by
    intro c hc
    exact decide_eq_true fun heq => h (heq ▸ List.mem_reverse.mp hc)
  have hrev : (body ++ '/' :: letters).reverse = letters.reverse ++ '/' :: body.reverse := by simp
  rw [splitLastSlash, hrev]
  rw [List.dropWhile_append_of_pos hall, List.takeWhile_append_of_pos hall]
  simp

theorem splitLastSlash_eq_some {s body letters : List Char} (h : splitLastSlash s = some (body, letters)) :
    s = body ++ '/' :: letters := by
  unfold splitLastSlash at h
  simp only at h
  split at h
  · next c before hdrop =>
    cases h
    have hc : c = '/' := by
      have hhead := List.head?_dropWhile_not (fun c => decide (c ≠ '/')) s.reverse
      rw [hdrop] at hhead
      simpa using hhead
    have hsplit := List.takeWhile_append_dropWhile (p := fun c => decide (c ≠ '/')) (l := s.reverse)
    rw [hdrop, hc] at hsplit
    calc s = s.reverse.reverse := s.reverse_reverse.symm
      _ = (s.reverse.takeWhile (fun c => decide (c ≠ '/')) ++ '/' :: before).reverse := by rw [hsplit]
      _ = _ := by simp
  · cases h

/-- The form of a pattern: slashes around what is not empty, and mode letters behind the last one. -/
def Slashes (s body : String) (letters : List Char) : Prop :=
  body ≠ "" ∧ (∀ c ∈ letters, c = 'i' ∨ c = 'm' ∨ c = 's') ∧
    s.toList = '/' :: (body.toList ++ '/' :: letters)

theorem slashed?_eq_some_iff {s body : String} {letters : List Char} :
    slashed? s = some (body, letters) ↔ Slashes s body letters := by
  constructor
  · intro h
    unfold slashed? at h
    split at h
    · next rest hlist =>
      split at h
      · next b ls hsplit =>
        split at h
        · cases h
        · next hc =>
          cases h
          simp only [Bool.or_eq_true, Bool.not_eq_true', not_or, List.isEmpty_iff, Bool.not_eq_false,
            List.all_eq_true, beq_iff_eq, or_assoc] at hc
          refine ⟨fun he => hc.1 (by simpa using congrArg String.toList he), hc.2, ?_⟩
          rw [hlist, splitLastSlash_eq_some hsplit, String.toList_ofList]
      · cases h
    · cases h
  · rintro ⟨hbody, hletters, hs⟩
    have hslash : '/' ∉ letters := fun hmem => absurd (hletters _ hmem) (by decide)
    have hall : letters.all (fun c => c == 'i' || c == 'm' || c == 's') = true := by
      simpa [or_assoc] using hletters
    have hempty : body.toList.isEmpty = false := by simpa using hbody
    rw [slashed?, hs]
    simp only
    rw [splitLastSlash_append _ _ hslash]
    simp [hempty, hall, String.ofList_toList]

/-- The letters of the modes in force. -/
def lettersOf (f : Pattern.Flags) : List Char :=
  (if f.ignoreCase then ['i'] else []) ++ (if f.multiline then ['m'] else []) ++
    if f.dotAll then ['s'] else []

theorem mem_lettersOf (f : Pattern.Flags) :
    ('i' ∈ lettersOf f ↔ f.ignoreCase = true) ∧ ('m' ∈ lettersOf f ↔ f.multiline = true) ∧
      ('s' ∈ lettersOf f ↔ f.dotAll = true) := by
  rw [lettersOf]
  cases f.ignoreCase <;> cases f.multiline <;> cases f.dotAll <;> decide

theorem lettersOf_injective {f g : Pattern.Flags} (h : lettersOf f = lettersOf g) :
    f.ignoreCase = g.ignoreCase ∧ f.multiline = g.multiline ∧ f.dotAll = g.dotAll := by
  obtain ⟨hi, hm, hs⟩ := mem_lettersOf f
  obtain ⟨hi', hm', hs'⟩ := mem_lettersOf g
  rw [h] at hi hm hs
  exact ⟨Bool.eq_iff_iff.mpr (hi.symm.trans hi'), Bool.eq_iff_iff.mpr (hm.symm.trans hm'),
    Bool.eq_iff_iff.mpr (hs.symm.trans hs')⟩

theorem toList_literal (p : Pattern.Compiled) :
    p.literal.toList = '/' :: (p.source.toList ++ '/' :: lettersOf p.flags) := by
  rw [Pattern.Compiled.literal, lettersOf]
  cases p.flags.ignoreCase <;> cases p.flags.multiline <;> cases p.flags.dotAll <;> simp

/-- A pattern is written as a name between slashes. -/
theorem slashed?_literal {p : Pattern.Compiled} (h : p.source ≠ "") :
    slashed? p.literal = some (p.source, lettersOf p.flags) := by
  refine slashed?_eq_some_iff.mpr ⟨h, ?_, toList_literal p⟩
  rw [lettersOf]
  cases p.flags.ignoreCase <;> cases p.flags.multiline <;> cases p.flags.dotAll <;> simp

theorem isOuter_modesOf (letters : List Char) : (modesOf letters).IsOuter := rfl

theorem source_of_compile {source : String} {f : Pattern.Flags} {p : Pattern.Compiled}
    (h : Pattern.compile source f = .ok p) : p.source = source := by
  obtain ⟨_, _, -, hsource, -⟩ := Pattern.compile_eq_ok h
  exact hsource

/-- What a name is read as: itself, or the pattern between its slashes. -/
theorem readName_eq_ok {name : String} (h : readName name = .ok n) :
    (slashed? name = none ∧ n = .exact name) ∨
      ∃ body letters p, body ≠ "" ∧ Pattern.compile body (modesOf letters) = .ok p ∧ n = .pattern p := by
  unfold readName at h
  split at h
  · next hs =>
    cases h
    exact .inl ⟨hs, rfl⟩
  · next body letters hs =>
    split at h
    · next p hp =>
      cases h
      exact .inr ⟨body, letters, p, (slashed?_eq_some_iff.mp hs).1, hp, rfl⟩
    · cases h
    · cases h

theorem text_injective {x y : String} {m : NameQuery} (hn : readName x = .ok n) (hm : readName y = .ok m)
    (h : n.text = m.text) : n = m := by
  rcases readName_eq_ok hn with ⟨hx, rfl⟩ | ⟨body, letters, p, hbody, hp, rfl⟩ <;>
    rcases readName_eq_ok hm with ⟨hy, rfl⟩ | ⟨body', letters', q, hbody', hq, rfl⟩
  · exact congrArg NameQuery.exact h
  · rw [NameQuery.text, NameQuery.text] at h
    rw [h, slashed?_literal (by rw [source_of_compile hq]; exact hbody')] at hx
    cases hx
  · rw [NameQuery.text, NameQuery.text] at h
    rw [← h, slashed?_literal (by rw [source_of_compile hp]; exact hbody)] at hy
    cases hy
  · have hs := congrArg slashed? h
    rw [NameQuery.text, NameQuery.text, slashed?_literal (by rw [source_of_compile hp]; exact hbody),
      slashed?_literal (by rw [source_of_compile hq]; exact hbody'), source_of_compile hp,
      source_of_compile hq] at hs
    obtain ⟨rfl, hl⟩ := Prod.mk.inj (Option.some.inj hs)
    obtain ⟨hi, hm', hd⟩ := lettersOf_injective hl
    rw [Pattern.compile_unique (isOuter_modesOf _) (isOuter_modesOf _) hp hq hi hm' hd]

theorem readName_of_ofFields {fs : Fields Json} {limits : Json.Limits}
    (h : ofFields limits none fs = .ok sig) : ∀ n ∈ sig.name, ∃ s, readName s = .ok n := by
  obtain ⟨_, -, hname⟩ := nameFrom_eq_ok.mp (ofFields_eq_ok.mp h).name
  rcases readNameOf_eq_ok.mp hname with ⟨-, hnone⟩ | ⟨s, n, -, hread, hsome⟩
  · simp [hnone]
  · rw [hsome]
    rintro n ⟨⟩
    exact ⟨s, hread⟩

theorem readName_of_normalize {v : Json} (h : normalize v = .ok sig) :
    ∀ n ∈ sig.name, ∃ s, readName s = .ok n := by
  cases v with
  | str s => exact readName_of_ofFields h
  | obj fs => exact readName_of_ofFields h
  | _ => cases h

/-! ## Fields -/

theorem get?_textField (k k' : String) (s : Option String) :
    Fields.get? (textField k s) k' = if k = k' then s.map Json.str else none := by
  cases s with
  | none => simp [textField]
  | some s => simp [textField, Fields.get?]

/-- The list under a name, if there is one and it is not empty. -/
def nonEmptyList (xs : List String) : Option Json :=
  if xs.isEmpty then none else some (.ofTexts xs)

theorem holds_nonEmptyList (xs : List String) : Holds (nonEmptyList xs) xs := by
  cases xs with
  | nil => exact .absent
  | cons x r => exact .list (x :: r)

theorem get?_listField (k k' : String) (xs : List String) :
    Fields.get? (listField k xs) k' = if k = k' then nonEmptyList xs else none := by
  rw [listField, nonEmptyList]
  split <;> simp [Fields.get?]

theorem key_of_textField {k : String} {s : Option String} {p : String × Json}
    (h : p ∈ textField k s) : p.1 = k := by
  cases s with
  | none => cases h
  | some u => rw [List.mem_singleton.mp h]

theorem key_of_listField {k : String} {xs : List String} {p : String × Json}
    (h : p ∈ listField k xs) : p.1 = k := by
  rw [listField] at h
  split at h
  · cases h
  · rw [List.mem_singleton.mp h]

theorem get?_toFields (sig : Signature) :
    Fields.get? sig.toFields "name" = (sig.name.map NameQuery.text).map Json.str ∧
    Fields.get? sig.toFields "type" = (sig.type.map TargetType.text).map Json.str ∧
    Fields.get? sig.toFields "exports" = sig.exports.map Json.str ∧
    Fields.get? sig.toFields "extends" = sig.base.map Json.str ∧
    Fields.get? sig.toFields "instanceof" = sig.instanceOf.map Json.str ∧
    Fields.get? sig.toFields "language" = sig.language.map Json.str ∧
    Fields.get? sig.toFields "methods" = nonEmptyList sig.methods ∧
    Fields.get? sig.toFields "properties" = nonEmptyList sig.properties := by
  simp only [toFields, Fields.get?_append, get?_textField, get?_listField]
  simp

theorem keys_toFields (sig : Signature) : (Fields.keys sig.toFields).Sublist
    ["name", "type", "exports", "extends", "instanceof", "language", "methods", "properties"] := by
  have htext : ∀ k s, (Fields.keys (textField k s)).Sublist [k] := by
    intro k s
    cases s <;> simp [textField, Fields.keys]
  have hlist : ∀ k xs, (Fields.keys (listField k xs)).Sublist [k] := by
    intro k xs
    rw [listField]
    split <;> simp [Fields.keys]
  simp only [toFields, Fields.keys, List.map_append, List.append_assoc]
  exact ((htext _ _).append <| (htext _ _).append <| (htext _ _).append <| (htext _ _).append <|
    (htext _ _).append <| (htext _ _).append <| (hlist _ _).append <| hlist _ _)

theorem nodup_toFields (sig : Signature) : (Fields.keys sig.toFields).Nodup :=
  (keys_toFields sig).nodup (by decide)

theorem mem_toFields {f : String × Json} (h : f ∈ sig.toFields) :
    (∃ s, f.2 = .str s) ∨ ∃ xs, f.2 = .ofTexts xs := by
  have htext : ∀ {k s}, f ∈ textField k s → ∃ s, f.2 = .str s := by
    intro k s hf
    cases s with
    | none => cases hf
    | some s => exact ⟨s, congrArg Prod.snd (List.mem_singleton.mp hf)⟩
  have hlist : ∀ {k xs}, f ∈ listField k xs → ∃ xs, f.2 = .ofTexts xs := by
    intro k xs hf
    rw [listField] at hf
    split at hf
    · cases hf
    · exact ⟨xs, congrArg Prod.snd (List.mem_singleton.mp hf)⟩
  simp only [toFields, List.mem_append] at h
  rcases h with ((((((h | h) | h) | h) | h) | h) | h) | h
  all_goals first
    | exact .inl (htext h)
    | exact .inr (hlist h)

/-! ## The written form -/

theorem refiled_ofTexts (xs : List String) : (Json.ofTexts xs).refiled = .ofTexts xs := by
  have hmap : ∀ f : Json → Json, (∀ s, f (.str s) = .str s) → (xs.map Json.str).map f = xs.map Json.str := by
    intro f hf
    rw [List.map_map]
    exact List.map_congr_left fun s _ => hf s
  rw [Json.ofTexts, Json.refiled, Json.sorted, Json.sortedItems_eq, hmap _ fun _ => rfl, Json.unified,
    Json.unifiedItems_eq, hmap _ fun _ => rfl]

theorem fits_toJson (sig : Signature) (depth : ℕ) : Json.fits .usual (depth + 2) sig.toJson = true := by
  rw [toJson, Json.fits, Bool.and_eq_true]
  refine ⟨by simp, Json.fitsFields_iff.mpr fun f hf => ?_⟩
  rcases mem_toFields hf with ⟨s, hs⟩ | ⟨xs, hxs⟩
  · rw [hs]
    rfl
  · rw [hxs, Json.ofTexts, Json.fits, Bool.and_eq_true]
    refine ⟨by simp, Json.fitsItems_iff.mpr fun x hx => ?_⟩
    obtain ⟨s, -, rfl⟩ := List.mem_map.mp hx
    rfl

/-- What the key for a root is made of. -/
def payload (sig : Signature) (root : String) : Fields Json :=
  [("root", .str root), ("signature", sig.toJson)]

theorem parse_canonical (sig : Signature) (root : String) :
    Json.parse (sig.canonical (some root)).toList = .ok (some (Json.obj (sig.payload root)).refiled) := by
  refine Json.parse_write_of_fits Json.Style.readable_compact ?_
  rw [Json.fits_sorted]
  show Json.fits .usual Json.Limits.usual.depth (.obj (sig.payload root)) = true
  rw [Json.fits, Bool.and_eq_true]
  refine ⟨by decide, Json.fitsFields_iff.mpr fun f hf => ?_⟩
  simp only [payload, List.mem_cons, List.not_mem_nil, or_false] at hf
  rcases hf with rfl | rfl
  · rfl
  · exact fits_toJson sig 985

theorem nodup_payload (sig : Signature) (root : String) : (Fields.keys (sig.payload root)).Nodup := by
  simp [payload, Fields.keys]

theorem parse_canonical_none (sig : Signature) :
    Json.parse (sig.canonical none).toList = .ok (some sig.toJson.refiled) := by
  refine Json.parse_write_of_fits Json.Style.readable_compact ?_
  rw [Json.fits_sorted]
  exact fits_toJson sig 986

theorem map_str_refiled (s : Option String) : (s.map Json.str).map Json.refiled = s.map Json.str := by
  cases s with
  | none => rfl
  | some s => rw [Option.map_some, Option.map_some, Json.refiled_str]

theorem nonEmptyList_refiled (xs : List String) :
    (nonEmptyList xs).map Json.refiled = nonEmptyList xs := by
  rw [nonEmptyList]
  split
  · rfl
  · rw [Option.map_some, refiled_ofTexts]

theorem map_str_injective {s t : Option String} (h : s.map Json.str = t.map Json.str) : s = t :=
  Option.map_injective (fun _ _ h => Json.str.inj h) h

theorem nonEmptyList_injective {xs ys : List String} (h : nonEmptyList xs = nonEmptyList ys) :
    xs = ys := by
  have hstr : Function.Injective Json.str := fun _ _ h => Json.str.inj h
  cases xs with
  | nil => cases ys with
    | nil => rfl
    | cons y ys => cases h
  | cons x xs => cases ys with
    | nil => cases h
    | cons y ys =>
      simp only [nonEmptyList, Json.ofTexts, List.isEmpty_cons, Bool.false_eq_true, if_false,
        Option.some.injEq, Json.arr.injEq] at h
      exact List.map_injective_iff.mpr hstr h

theorem targetText_injective : Function.Injective TargetType.text := by
  intro a b
  cases a <;> cases b <;> decide

/-- Signatures with the same written form ask for the same. -/
theorem fields_injective (ha : normalize x = .ok a) (hb : normalize y = .ok b)
    (h : a.toJson.refiled = b.toJson.refiled) : { a with extra := [] } = { b with extra := [] } := by
  obtain ⟨gs, hgs⟩ : ∃ gs, a.toJson.refiled = .obj gs := ⟨_, Json.refiled_obj _⟩
  have hget : ∀ k, (Fields.get? a.toFields k).map Json.refiled =
      (Fields.get? b.toFields k).map Json.refiled := fun k =>
    (Json.get?_refiled (nodup_toFields a) hgs k).symm.trans
      (Json.get?_refiled (nodup_toFields b) (h.symm.trans hgs) k)
  obtain ⟨hname, htype, hexports, hbase, hinstance, hlanguage, hmethods, hproperties⟩ := get?_toFields a
  obtain ⟨hname', htype', hexports', hbase', hinstance', hlanguage', hmethods', hproperties'⟩ :=
    get?_toFields b
  have htext : ∀ {k : String} {s t : Option String}, Fields.get? a.toFields k = s.map Json.str →
      Fields.get? b.toFields k = t.map Json.str → s = t := by
    intro k s t hs ht
    have := hget k
    rw [hs, ht, map_str_refiled, map_str_refiled] at this
    exact map_str_injective this
  have hlist : ∀ {k : String} {xs ys : List String}, Fields.get? a.toFields k = nonEmptyList xs →
      Fields.get? b.toFields k = nonEmptyList ys → xs = ys := by
    intro k xs ys hxs hys
    have := hget k
    rw [hxs, hys, nonEmptyList_refiled, nonEmptyList_refiled] at this
    exact nonEmptyList_injective this
  have htypes : a.type = b.type := Option.map_injective targetText_injective (htext htype htype')
  have hnames : a.name = b.name := by
    have heq := htext hname hname'
    have hra := readName_of_normalize ha
    have hrb := readName_of_normalize hb
    cases hna : a.name with
    | none =>
      rw [hna, Option.map_none, eq_comm, Option.map_eq_none_iff] at heq
      exact heq.symm
    | some n =>
      rw [hna, Option.map_some, eq_comm, Option.map_eq_some_iff] at heq
      obtain ⟨m, hnb, htextm⟩ := heq
      obtain ⟨s, hs⟩ := hra n hna
      obtain ⟨t, ht⟩ := hrb m hnb
      rw [hnb, text_injective ht hs htextm]
  cases a
  cases b
  simp only [Signature.mk.injEq]
  exact ⟨hnames, htypes, htext hexports hexports', hlist hmethods hmethods',
    hlist hproperties hproperties', htext hbase hbase', htext hinstance hinstance',
    htext hlanguage hlanguage', trivial⟩

/-- The text behind a key says which root was searched and what was asked for. -/
theorem canonical_injective (ha : normalize x = .ok a) (hb : normalize y = .ok b) {r q : String}
    (h : a.canonical (some r) = b.canonical (some q)) : r = q ∧ { a with extra := [] } = { b with extra := [] } := by
  have hparse := parse_canonical a r
  rw [h, parse_canonical b q] at hparse
  have hpayload : (Json.obj (b.payload q)).refiled = (Json.obj (a.payload r)).refiled :=
    Option.some.inj (Except.ok.inj hparse)
  obtain ⟨gs, hgs⟩ : ∃ gs, (Json.obj (a.payload r)).refiled = .obj gs := ⟨_, Json.refiled_obj _⟩
  have hget : ∀ k, (Fields.get? (a.payload r) k).map Json.refiled =
      (Fields.get? (b.payload q) k).map Json.refiled := fun k =>
    (Json.get?_refiled (nodup_payload a r) hgs k).symm.trans
      (Json.get?_refiled (nodup_payload b q) (hpayload.trans hgs) k)
  have hroot := hget "root"
  have hsig := hget "signature"
  simp only [payload, Fields.get?, if_true, Option.map_some, Json.refiled_str, Option.some.injEq,
    Json.str.injEq] at hroot
  simp [payload, Fields.get?] at hsig
  exact ⟨hroot, fields_injective ha hb hsig⟩

theorem canonical_none_injective (ha : normalize x = .ok a) (hb : normalize y = .ok b)
    (h : a.canonical none = b.canonical none) : { a with extra := [] } = { b with extra := [] } := by
  have hparse := parse_canonical_none a
  rw [h, parse_canonical_none b] at hparse
  exact fields_injective ha hb (Option.some.inj (Except.ok.inj hparse)).symm

/-- No signature has a field for the root, so the text tells whether a root was given. -/
theorem canonical_none_ne (a b : Signature) (q : String) : a.canonical none ≠ b.canonical (some q) := by
  intro h
  have hparse := parse_canonical_none a
  rw [h, parse_canonical b q] at hparse
  have hpayload : (Json.obj (b.payload q)).refiled = a.toJson.refiled :=
    Option.some.inj (Except.ok.inj hparse)
  obtain ⟨gs, hgs⟩ : ∃ gs, a.toJson.refiled = .obj gs := ⟨_, Json.refiled_obj _⟩
  have hroot : (Fields.get? a.toFields "root").map Json.refiled =
      (Fields.get? (b.payload q) "root").map Json.refiled :=
    (Json.get?_refiled (nodup_toFields a) hgs "root").symm.trans
      (Json.get?_refiled (nodup_payload b q) (hpayload.trans hgs) "root")
  have hnone : Fields.get? a.toFields "root" = none :=
    Fields.get?_eq_none_iff.mpr fun hmem => absurd ((keys_toFields a).subset hmem) (by decide)
  rw [hnone] at hroot
  cases hroot

/-! ## Signatures that ask for the same -/

theorem name_same_refl (n : NameQuery) : n.same n = true := by
  cases n <;> simp [NameQuery.same, Pattern.Compiled.same]

theorem text_of_name_same {m : NameQuery} (h : n.same m) : n.text = m.text := by
  cases n <;> cases m <;> simp [NameQuery.same, Pattern.Compiled.same] at h
  · exact h
  · rw [NameQuery.text, NameQuery.text, Pattern.Compiled.literal, Pattern.Compiled.literal, h.1, h.2]

theorem same_of_eq (h : { a with extra := [] } = { b with extra := [] }) : a.same b = true := by
  cases a
  cases b
  simp only [Signature.mk.injEq] at h
  obtain ⟨rfl, rfl, rfl, rfl, rfl, rfl, rfl, rfl, -⟩ := h
  rename_i name _ _ _ _ _ _ _ _ _
  cases name <;> simp [same, name_same_refl]

theorem toFields_of_same (h : a.same b) : a.toFields = b.toFields := by
  simp only [same, Bool.and_eq_true, beq_iff_eq] at h
  obtain ⟨⟨⟨⟨⟨⟨⟨hname, htype⟩, hexports⟩, hmethods⟩, hproperties⟩, hbase⟩, hinstance⟩,
    hlanguage⟩ := h
  have htext : a.name.map NameQuery.text = b.name.map NameQuery.text := by
    cases ha : a.name with
    | none => cases hb : b.name with
      | none => rfl
      | some m => simp [ha, hb] at hname
    | some n => cases hb : b.name with
      | none => simp [ha, hb] at hname
      | some m =>
        simp only [ha, hb] at hname
        rw [Option.map_some, Option.map_some, text_of_name_same hname]
  rw [toFields, toFields, htext, htype, hexports, hmethods, hproperties, hbase, hinstance, hlanguage]

/-- Two requests have the same text behind their keys exactly if they ask for the same below the same root, or
both below none. -/
theorem canonical_eq_iff {x y : Json} {a b : Signature} (ha : normalize x = .ok a)
    (hb : normalize y = .ok b) (r q : Option String) :
    a.canonical r = b.canonical q ↔ a.same b = true ∧ r = q := by
  constructor
  · intro h
    cases r with
    | none => cases q with
      | none => exact ⟨same_of_eq (canonical_none_injective ha hb h), rfl⟩
      | some q => exact absurd h (canonical_none_ne a b q)
    | some r => cases q with
      | none => exact absurd h.symm (canonical_none_ne b a r)
      | some q =>
        obtain ⟨hroot, hsame⟩ := canonical_injective ha hb h
        exact ⟨same_of_eq hsame, congrArg some hroot⟩
  · rintro ⟨hsame, rfl⟩
    have hjson : a.toJson = b.toJson := congrArg Json.obj (toFields_of_same hsame)
    unfold canonical
    rw [hjson]

/-- Mode letters in another order and twice, blanks and unknown fields make no other request; a root does. -/
theorem canonical_letters : ∃ a b, normalize (.str "/(?m)ab/si") = .ok a ∧
    normalize (.obj [("note", .null), ("name", .str " /(?m)ab/imis ")]) = .ok b ∧ a.same b = true ∧
    a.canonical (some "/r") = b.canonical (some "/r") ∧ a.canonical none ≠ b.canonical (some "/r") := by
  have hread : ((normalize (.str "/(?m)ab/si")).toOption.bind fun a =>
      (normalize (.obj [("note", .null), ("name", .str " /(?m)ab/imis ")])).toOption.map fun b =>
        a.same b) = some true := by decide +kernel
  obtain ⟨a, ha, hread⟩ := Option.bind_eq_some_iff.mp hread
  obtain ⟨b, hb, hsame⟩ := Option.map_eq_some_iff.mp hread
  have ha := eq_ok_of_toOption ha
  have hb := eq_ok_of_toOption hb
  refine ⟨a, b, ha, hb, hsame, (canonical_eq_iff ha hb _ _).mpr ⟨hsame, rfl⟩, fun h => ?_⟩
  cases ((canonical_eq_iff ha hb _ _).mp h).2

end Signature

end ShapeSearch
