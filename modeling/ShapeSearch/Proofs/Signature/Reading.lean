import Mathlib.Data.List.Perm.Subperm
import ShapeSearch.Misfit
import ShapeSearch.Proofs.Text
import ShapeSearch.Signature

/-!
# Reading a signature

The fields of a signature are read one by one, and the reading succeeds exactly if each of them can be read and one
of them asks for something (`ofFields_eq_ok`).  A field for a text holds one or none, and what is left of it after
trimming is taken (`cleanText_eq_ok`); a field for texts holds a list, a single text or none (`cleanList_eq_ok`).
-/

namespace ShapeSearch

theorem Fault.refuse_eq_ok {ε α : Type} {x : Except ε α} {a : α} : Fault.refuse x = .ok a ↔ x = .ok a := by
  cases x <;> simp [Fault.refuse]

/-! ## Kinds -/

namespace TargetType

theorem ofText?_text (t : TargetType) : ofText? t.text = some t := by
  cases t <;> rfl

theorem text_of_ofText? {s : String} {t : TargetType} (h : ofText? s = some t) : s = t.text := by
  unfold ofText? at h
  split at h
  · cases h
    assumption
  split at h
  · cases h
    assumption
  split at h
  · cases h
    assumption
  split at h
  · cases h
    assumption
  · cases h

theorem lower_trim_text (t : TargetType) : Text.lower (Text.trim t.text) = t.text := by
  cases t <;> decide +kernel

end TargetType

/-! ## Texts -/

namespace Suggestion

/-- What is left of a text that is trimmed; nothing if it is blank. -/
def clean (s : Option String) : Option String :=
  (s.map Text.trim).filter (· ≠ "")

theorem clean_some (s : String) : clean (some s) = if Text.trim s = "" then none else some (Text.trim s) := by
  by_cases h : Text.trim s = "" <;> simp [clean, Option.filter, h]

theorem mem_clean {s : Option String} {t : String} :
    t ∈ clean s ↔ t ≠ "" ∧ ∃ u, s = some u ∧ Text.trim u = t := by
  cases s with
  | none => simp [clean]
  | some u =>
    rw [clean_some]
    split
    · next h => simp +contextual [h, eq_comm]
    · next h =>
      simp only [Option.mem_def, Option.some.injEq, exists_eq_left']
      constructor
      · rintro rfl
        exact ⟨h, rfl⟩
      · exact And.right

theorem isSome_clean (s : Option String) : (clean s).isSome = true ↔ ∃ t ∈ s.toList, Text.trim t ≠ "" := by
  cases s with
  | none => simp [clean]
  | some u =>
    rw [clean_some]
    split <;> simp_all

end Suggestion

/-- An argument that holds a text, or nothing. -/
def ToolCall.HoldsText (v : Option Json) : Option String → Prop
  | some s => v = some (.str s)
  | none => v = none ∨ v = some .null

namespace Signature

open Suggestion (clean clean_some)
open ToolCall (HoldsText)

variable {xs : List String} {s : Option String}

variable {limits : Json.Limits} {field : String} {v : Option Json}

theorem cleanText_eq_ok {out : Option String} :
    cleanText field v = .ok out ↔ ∃ s, HoldsText v s ∧ out = clean s := by
  constructor
  · intro h
    cases v with
    | none => exact ⟨none, .inl rfl, (Except.ok.inj h).symm⟩
    | some v =>
      cases v with
      | null => exact ⟨none, .inr rfl, (Except.ok.inj h).symm⟩
      | str s => exact ⟨some s, rfl, by rw [clean_some]; exact (Except.ok.inj h).symm⟩
      | _ => cases h
  · rintro ⟨s, hs, rfl⟩
    cases s with
    | none => rcases hs with rfl | rfl <;> rfl
    | some u =>
      cases hs
      rw [clean_some]
      rfl

theorem holdsText_map (s : Option String) : HoldsText (s.map Json.str) s := by
  cases s with
  | none => exact .inl rfl
  | some t => rfl

theorem cleanText_map (field : String) (s : Option String) : cleanText field (s.map Json.str) = .ok (clean s) :=
  cleanText_eq_ok.mpr ⟨s, holdsText_map s, rfl⟩

/-- A field that holds some texts: none if it is absent, one that stands alone, or a list. -/
inductive Holds : Option Json → List String → Prop where
  | absent : Holds none []
  | null : Holds (some .null) []
  | text (s : String) : Holds (some (.str s)) [s]
  | list (xs : List String) : Holds (some (.ofTexts xs)) xs

/-- Trimmed texts, blank ones left out. -/
def trimmed (xs : List String) : List String :=
  (xs.map Text.trim).filter (· ≠ "")

theorem trimmed_cons (x : String) (r : List String) :
    trimmed (x :: r) = if Text.trim x = "" then trimmed r else Text.trim x :: trimmed r := by
  by_cases h : Text.trim x = "" <;> simp [trimmed, h]

/-- Trimmed texts in order of their first mention. -/
def tidied (xs : List String) : List String :=
  (trimmed xs).eraseDups

theorem mem_tidied {t : String} : t ∈ tidied xs ↔ t ≠ "" ∧ ∃ x ∈ xs, Text.trim x = t := by
  rw [tidied, List.mem_eraseDups, trimmed, List.mem_filter, List.mem_map, and_comm]
  simp

theorem forall_mem_tidied {P : String → Prop} :
    (∀ t ∈ tidied xs, P t) ↔ ∀ x ∈ xs, Text.trim x ≠ "" → P (Text.trim x) := by
  simp only [mem_tidied]
  constructor
  · intro hall x hx hne
    exact hall _ ⟨hne, x, hx, rfl⟩
  · rintro hall _ ⟨hne, x, hx, rfl⟩
    exact hall x hx hne

theorem not_isEmpty_tidied : (!(tidied xs).isEmpty) = true ↔ ∃ x ∈ xs, Text.trim x ≠ "" := by
  rw [Bool.not_eq_true', List.isEmpty_eq_false_iff_exists_mem]
  simp only [mem_tidied]
  constructor
  · rintro ⟨_, hne, x, hx, rfl⟩
    exact ⟨x, hx, hne⟩
  · rintro ⟨x, hx, hne⟩
    exact ⟨_, hne, x, hx, rfl⟩

theorem nodup_eraseDups (xs : List String) : xs.eraseDups.Nodup := by
  induction hn : xs.length using Nat.strongRecOn generalizing xs with
  | _ n ih =>
    cases xs with
    | nil => simp
    | cons x r =>
      rw [List.eraseDups_cons, List.nodup_cons]
      constructor
      · simp [List.mem_eraseDups]
      · refine ih _ ?_ _ rfl
        have := List.length_filter_le (fun b => !b == x) r
        rw [List.length_cons] at hn
        omega

theorem length_tidied_le (xs : List String) : (tidied xs).length ≤ xs.length :=
  calc (tidied xs).length
    _ ≤ (trimmed xs).length := (List.subperm_of_subset (nodup_eraseDups _) fun _ => List.mem_eraseDups.mp).length_le
    _ ≤ (xs.map Text.trim).length := List.length_filter_le _ _
    _ = xs.length := List.length_map _

theorem removeAll_snoc (ys out : List String) (t : String) :
    ys.removeAll (out ++ [t]) = (ys.removeAll out).filter fun b => !b == t := by
  rw [List.removeAll, List.removeAll, List.filter_filter]
  refine List.filter_congr fun y _ => ?_
  by_cases hy : y = t <;> simp [hy]

theorem cleanItems_eq (field : String) (xs out : List String) :
    cleanItems limits field (xs.map Json.str) out = .ok (out ++ ((trimmed xs).removeAll out).eraseDups) := by
  induction xs generalizing out with
  | nil => simp [cleanItems, trimmed, List.removeAll]
  | cons x r ih =>
    rw [List.map_cons, cleanItems, ih, trimmed_cons]
    by_cases hempty : Text.trim x = ""
    · simp [hempty]
    · by_cases hmem : Text.trim x ∈ out
      · simp [hempty, hmem, List.removeAll]
      · have htaken : (Text.trim x :: trimmed r).removeAll out = Text.trim x :: (trimmed r).removeAll out := by
          simp [List.removeAll, hmem]
        simp [hempty, hmem, htaken, List.eraseDups_cons, removeAll_snoc]

theorem texts_of_cleanItems {vs : List Json} {out ys : List String}
    (h : cleanItems limits field vs out = .ok ys) : ∃ xs : List String, vs = xs.map Json.str := by
  induction vs generalizing out with
  | nil => exact ⟨[], rfl⟩
  | cons v r ih =>
    cases v with
    | str s =>
      rw [cleanItems] at h
      obtain ⟨xs, rfl⟩ := ih h
      exact ⟨s :: xs, rfl⟩
    | _ => cases h

theorem cleanList_of_holds (field : String) (h : Holds v xs) : cleanList limits field v = .ok (tidied xs) := by
  have hitems : cleanItems limits field (xs.map Json.str) [] = .ok (tidied xs) := by
    rw [cleanItems_eq]
    simp [tidied, List.removeAll]
  cases h with
  | absent => exact hitems
  | null => exact hitems
  | text s => exact hitems
  | list xs => exact hitems

theorem cleanList_eq_ok {ys : List String} :
    cleanList limits field v = .ok ys ↔ ∃ xs, Holds v xs ∧ ys = tidied xs := by
  constructor
  · intro h
    have hholds : ∃ xs, Holds v xs := by
      unfold cleanList at h
      split at h
      · exact ⟨_, .absent⟩
      · exact ⟨_, .null⟩
      · exact ⟨_, .text _⟩
      · obtain ⟨xs, rfl⟩ := texts_of_cleanItems h
        exact ⟨xs, .list xs⟩
      · cases h
    obtain ⟨xs, hxs⟩ := hholds
    rw [cleanList_of_holds field hxs] at h
    exact ⟨xs, hxs, (Except.ok.inj h).symm⟩
  · rintro ⟨xs, hxs, rfl⟩
    exact cleanList_of_holds field hxs

/-! ## Kind and name -/

def readKindOf : Option String → Except SignatureError (Option TargetType)
  | none => .ok none
  | some t =>
    match TargetType.ofText? (Text.lower t) with
    | some k => .ok (some k)
    | none => .error (.unknownType (Text.lower t))

theorem isSome_readKindOf {type : Option TargetType} (h : readKindOf s = .ok type) : type.isSome = s.isSome := by
  cases s with
  | none =>
    cases h
    rfl
  | some t =>
    rw [readKindOf] at h
    split at h
    · cases h
      rfl
    · cases h

theorem readType_eq_ok {out : Option TargetType} :
    readType v = .ok out ↔ ∃ s, HoldsText v s ∧ readKindOf (clean s) = .ok out := by
  have hread : readType v = (cleanText "type" v >>= readKindOf) := by
    rw [readType]
    refine congrArg _ (funext fun t => ?_)
    cases t <;> rfl
  rw [hread, bind_eq_ok]
  constructor
  · rintro ⟨t, ht, h⟩
    obtain ⟨s, hs, rfl⟩ := cleanText_eq_ok.mp ht
    exact ⟨s, hs, h⟩
  · rintro ⟨s, hs, h⟩
    exact ⟨_, cleanText_eq_ok.mpr ⟨s, hs, rfl⟩, h⟩

def readNameOf : Option String → Except (Fault SignatureError) (Option NameQuery)
  | none => .ok none
  | some n => (readName n).map some

theorem readNameOf_eq_ok {name : Option NameQuery} :
    readNameOf s = .ok name ↔
      (s = none ∧ name = none) ∨ ∃ n q, s = some n ∧ readName n = .ok q ∧ name = some q := by
  cases s with
  | none => simp [readNameOf, eq_comm]
  | some n =>
    rw [readNameOf]
    cases hn : readName n <;> simp [Except.map, hn, eq_comm]

theorem isSome_readNameOf {name : Option NameQuery} (h : readNameOf s = .ok name) : name.isSome = s.isSome := by
  obtain ⟨rfl, rfl⟩ | ⟨n, q, rfl, -, rfl⟩ := readNameOf_eq_ok.mp h <;> rfl

def nameFrom (v : Option Json) : Option NameQuery → Except (Fault SignatureError) (Option NameQuery)
  | some n => .ok (some n)
  | none => Fault.refuse (cleanText "name" v) >>= readNameOf

theorem nameFrom_eq_ok {out : Option NameQuery} :
    nameFrom v none = .ok out ↔ ∃ s, HoldsText v s ∧ readNameOf (clean s) = .ok out := by
  rw [nameFrom, bind_eq_ok]
  constructor
  · rintro ⟨t, ht, h⟩
    obtain ⟨s, hs, rfl⟩ := cleanText_eq_ok.mp (Fault.refuse_eq_ok.mp ht)
    exact ⟨s, hs, h⟩
  · rintro ⟨s, hs, h⟩
    exact ⟨_, Fault.refuse_eq_ok.mpr (cleanText_eq_ok.mpr ⟨s, hs, rfl⟩), h⟩

/-! ## All fields -/

theorem ofFields_eq (given : Option NameQuery) (fs : Fields Json) : ofFields limits given fs = (do
    let type ← Fault.refuse (readType (fs.get? "type"))
    let language ← Fault.refuse (cleanText "language" (fs.get? "language"))
    let name ← nameFrom (fs.get? "name") given
    let exports ← Fault.refuse (cleanText "exports" (fs.get? "exports"))
    let methods ← cleanList limits "methods" (fs.get? "methods")
    let properties ← cleanList limits "properties" (fs.get? "properties")
    let base ← Fault.refuse (cleanText "extends" (fs.get? "extends"))
    let instanceOf ← Fault.refuse (cleanText "instanceof" (fs.get? "instanceof"))
    let sig : Signature :=
      { name, type, exports, methods, properties, base, instanceOf, language := language.map Text.lower,
        extra := fs.filter fun p => !knownFields.contains p.1 }
    if sig.isConstrained then .ok sig else .error (.refused .unconstrained)) := by
  unfold ofFields
  refine congrArg _ (funext fun type => congrArg _ (funext fun language => ?_))
  cases given with
  | some n => rfl
  | none =>
    rw [nameFrom]
    cases cleanText "name" (fs.get? "name") with
    | error e => rfl
    | ok t => cases t <;> rfl

/-- The signature that fields are read as, part by part. -/
structure Reads (given : Option NameQuery) (fs : Fields Json) (sig : Signature) : Prop where
  name : nameFrom (fs.get? "name") given = .ok sig.name
  type : readType (fs.get? "type") = .ok sig.type
  exports : cleanText "exports" (fs.get? "exports") = .ok sig.exports
  methods : ∃ xs, Holds (fs.get? "methods") xs ∧ sig.methods = tidied xs
  properties : ∃ xs, Holds (fs.get? "properties") xs ∧ sig.properties = tidied xs
  base : cleanText "extends" (fs.get? "extends") = .ok sig.base
  instanceOf : cleanText "instanceof" (fs.get? "instanceof") = .ok sig.instanceOf
  language : ∃ t, cleanText "language" (fs.get? "language") = .ok t ∧ sig.language = t.map Text.lower
  extra : sig.extra = fs.filter fun p => !knownFields.contains p.1
  constrained : sig.isConstrained = true

theorem ofFields_eq_ok {given : Option NameQuery} {fs : Fields Json} {sig : Signature} :
    ofFields limits given fs = .ok sig ↔ Reads given fs sig := by
  rw [ofFields_eq]
  constructor
  · intro h
    obtain ⟨type, htype, h⟩ := bind_eq_ok.mp h
    obtain ⟨language, hlanguage, h⟩ := bind_eq_ok.mp h
    obtain ⟨name, hname, h⟩ := bind_eq_ok.mp h
    obtain ⟨exports, hexports, h⟩ := bind_eq_ok.mp h
    obtain ⟨methods, hmethods, h⟩ := bind_eq_ok.mp h
    obtain ⟨properties, hproperties, h⟩ := bind_eq_ok.mp h
    obtain ⟨base, hbase, h⟩ := bind_eq_ok.mp h
    obtain ⟨instanceOf, hinstance, h⟩ := bind_eq_ok.mp h
    simp only at h
    split at h
    · next hc =>
      cases h
      rw [Fault.refuse_eq_ok] at htype hlanguage hexports hbase hinstance
      exact ⟨hname, htype, hexports, cleanList_eq_ok.mp hmethods, cleanList_eq_ok.mp hproperties, hbase, hinstance,
        ⟨_, hlanguage, rfl⟩, rfl, hc⟩
    · cases h
  · intro h
    obtain ⟨t, ht, hlower⟩ := h.language
    rw [bind_ok (Fault.refuse_eq_ok.mpr h.type), bind_ok (Fault.refuse_eq_ok.mpr ht), bind_ok h.name,
      bind_ok (Fault.refuse_eq_ok.mpr h.exports), bind_ok (cleanList_eq_ok.mpr h.methods),
      bind_ok (cleanList_eq_ok.mpr h.properties), bind_ok (Fault.refuse_eq_ok.mpr h.base),
      bind_ok (Fault.refuse_eq_ok.mpr h.instanceOf), ← hlower, ← h.extra]
    exact if_pos h.constrained

end Signature

end ShapeSearch
