import ShapeSearch.CommandLine
import ShapeSearch.Proofs.Signature.Normal
import ShapeSearch.Proofs.Suggestion
import ShapeSearch.Tools

/-!
# One question, two ways to ask it

A signature is described by seven parts (`Question`), on a command line or in the arguments of a tool.  The two
leave different things out before the signature is read: the command line drops what is empty, the tool also
trims the members and drops the blank ones.  What is read is the same (`ofFields_of_tells`):

    args.Asks ws.question → normalize v = normalize (.obj (ToolCall.signatureOf args))       (signatures_agree)

where `v` is the signature on the command line.  A command line that describes nothing is refused at once, and
the tool's signature is refused when it is read.
-/

namespace ShapeSearch

/-- A signature as it is described, before anything has been cleaned. -/
structure Question where
  name : Option String := none
  type : Option String := none
  exports : Option String := none
  methods : List String := []
  properties : List String := []
  base : Option String := none
  language : Option String := none

namespace Question

open Signature Suggestion

/-! ## Fields that tell a question -/

/-- Fields from which the parts of a question are read. -/
structure Tells (fs : Fields Json) (q : Question) : Prop where
  name : cleanText "name" (fs.get? "name") = .ok (clean q.name)
  type : cleanText "type" (fs.get? "type") = .ok (clean q.type)
  exports : cleanText "exports" (fs.get? "exports") = .ok (clean q.exports)
  methods : cleanList .usual "methods" (fs.get? "methods") = .ok (tidied q.methods)
  properties : cleanList .usual "properties" (fs.get? "properties") = .ok (tidied q.properties)
  base : cleanText "extends" (fs.get? "extends") = .ok (clean q.base)
  language : cleanText "language" (fs.get? "language") = .ok (clean q.language)
  instanceOf : fs.get? "instanceof" = none
  known : ∀ p ∈ fs, p.1 ∈ knownFields

variable {q : Question} {fs gs : Fields Json}

/-- What is read depends on the question only. -/
theorem ofFields_of_tells (h : Tells fs q) (h' : Tells gs q) :
    ofFields .usual none fs = ofFields .usual none gs := by
  have hextra : ∀ {hs : Fields Json}, Tells hs q → hs.filter (fun p => !knownFields.contains p.1) = [] := by
    intro hs hq
    rw [List.filter_eq_nil_iff]
    intro p hp
    simpa using hq.known p hp
  rw [ofFields_eq, ofFields_eq, readType, readType, nameFrom, nameFrom, h.name, h'.name, h.type, h'.type,
    h.exports, h'.exports, h.methods, h'.methods, h.properties, h'.properties, h.base, h'.base, h.language,
    h'.language, h.instanceOf, h'.instanceOf, hextra h, hextra h']

variable {m : Misfit}

theorem refuse_ne_misfit {α : Type} {x : Except SignatureError α} : Fault.refuse x ≠ .error (.misfit m) := by
  cases x <;> simp [Fault.refuse]

theorem readName_eq_misfit {s : String} : readName s = .error (.misfit m) ↔
    ∃ body letters, slashed? s = some (body, letters) ∧
      Pattern.compile body (modesOf letters) = .error (.misfit m) := by
  rw [readName]
  cases slashed? s with
  | none => simp
  | some r =>
    obtain ⟨body, letters⟩ := r
    simp only
    split <;> simp_all

theorem nameFrom_eq_misfit {v : Option Json} : nameFrom v none = .error (.misfit m) ↔
    ∃ n body letters, cleanText "name" v = .ok (some n) ∧ slashed? n = some (body, letters) ∧
      Pattern.compile body (modesOf letters) = .error (.misfit m) := by
  have hname : ∀ t : Option String, readNameOf t = .error (.misfit m) ↔
      ∃ n, t = some n ∧ readName n = .error (.misfit m) := by
    intro t
    cases t with
    | none => simp [readNameOf]
    | some n => cases hn : readName n <;> simp [readNameOf, Except.map, hn]
  simp only [nameFrom, bind_eq_error, refuse_ne_misfit, Fault.refuse_eq_ok, false_or, hname, readName_eq_misfit]
  constructor
  · rintro ⟨_, hv, n, rfl, body, letters, h⟩
    exact ⟨n, body, letters, hv, h⟩
  · rintro ⟨n, body, letters, hv, h⟩
    exact ⟨_, hv, n, rfl, body, letters, h⟩

/-- Reading fails in another way than by refusing if the name does, which is read after the kind and the language,
or else if one of the lists does. -/
theorem ofFields_eq_misfit {limits : Json.Limits} : ofFields limits none fs = .error (.misfit m) ↔
    (∃ k, readType (fs.get? "type") = .ok k) ∧ (∃ t, cleanText "language" (fs.get? "language") = .ok t) ∧
      (nameFrom (fs.get? "name") none = .error (.misfit m) ∨
        (∃ n, nameFrom (fs.get? "name") none = .ok n) ∧ (∃ t, cleanText "exports" (fs.get? "exports") = .ok t) ∧
          (cleanList limits "methods" (fs.get? "methods") = .error (.misfit m) ∨
            (∃ xs, cleanList limits "methods" (fs.get? "methods") = .ok xs) ∧
              cleanList limits "properties" (fs.get? "properties") = .error (.misfit m))) := by
  have hlast : ∀ sig : Signature, ((if sig.isConstrained then .ok sig else .error (.refused .unconstrained)) :
      Except (Fault SignatureError) Signature) ≠ .error (.misfit m) := by
    intro sig
    split <;> simp
  rw [ofFields_eq]
  simp only [bind_eq_error, refuse_ne_misfit, Fault.refuse_eq_ok, hlast, and_false, exists_false, or_false, false_or,
    exists_and_right]

theorem misfit_of_ofFields (h : Tells fs q) (hm : ofFields .usual none fs = .error (.misfit m)) :
    ∃ s body letters, q.name = some s ∧ slashed? (Text.trim s) = some (body, letters) ∧
      Pattern.compile body (modesOf letters) = .error (.misfit m) := by
  have hname : nameFrom (fs.get? "name") none = .error (.misfit m) := by
    have hlists := (ofFields_eq_misfit.mp hm).2.2
    rw [h.methods, h.properties] at hlists
    simpa using hlists
  obtain ⟨n, body, letters, hn, hslashed, hcompile⟩ := nameFrom_eq_misfit.mp hname
  rw [h.name] at hn
  obtain ⟨-, s, hs, rfl⟩ := mem_clean.mp (Except.ok.inj hn)
  exact ⟨s, body, letters, hs, hslashed, hcompile⟩

end Question

/-! ## The command line -/

namespace CommandLine

open Matching (nonEmpty)
open Signature Suggestion

/-- What a command line asks, the text behind `--signature` apart. -/
def Words.question (ws : Words) : Question where
  name := ws.arguments.head?
  type := ws.last? "type"
  exports := ws.last? "exports"
  methods := ws.all "method"
  properties := ws.all "property"
  base := ws.last? "extends"
  language := ws.last? "language"

theorem textField_eq (k : String) (s : Option String) : textField k s = Signature.textField k (nonEmpty s) :=
  Suggestion.textField_eq k s

theorem describedSignature_eq (ws : Words) : describedSignature ws.arguments.head? ws =
    Signature.textField "name" (nonEmpty ws.question.name) ++
      Signature.textField "type" (nonEmpty ws.question.type) ++
      Signature.textField "exports" (nonEmpty ws.question.exports) ++
      Signature.listField "methods" ws.question.methods ++
      Signature.listField "properties" ws.question.properties ++
      Signature.textField "extends" (nonEmpty ws.question.base) ++
      Signature.textField "language" (nonEmpty ws.question.language) := by
  simp only [describedSignature, textField_eq]
  rfl

theorem tells_described (ws : Words) : Question.Tells (describedSignature ws.arguments.head? ws) ws.question := by
  rw [describedSignature_eq]
  constructor
  case known =>
    intro p hp
    simp only [List.mem_append] at hp
    rcases hp with (((((hp | hp) | hp) | hp) | hp) | hp) | hp
    all_goals first
      | rw [key_of_textField hp]; decide
      | rw [key_of_listField hp]; decide
  all_goals
    simp only [Fields.get?_append, get?_textField, get?_listField]
    simp [cleanText_map, clean_nonEmpty, cleanList_of_holds _ (holds_nonEmptyList _)]

end CommandLine

/-! ## The tools -/

namespace ToolCall

open Signature Suggestion

/-- An argument that holds texts: a list, one text with commas, or nothing. -/
inductive HoldsTexts : Option Json → List String → Prop where
  | absent : HoldsTexts none []
  | null : HoldsTexts (some .null) []
  | list (xs : List String) : HoldsTexts (some (.ofTexts xs)) xs
  | commas (s : String) :
      HoldsTexts (some (.str s)) ((Text.splitOnChar ',' s.toList).map String.ofList)

/-- Arguments that ask a question. -/
structure Asks (args : Fields Json) (q : Question) : Prop where
  name : HoldsText (args.get? "name") q.name
  type : HoldsText (args.get? "type") q.type
  exports : HoldsText (args.get? "exports") q.exports
  methods : HoldsTexts (args.get? "methods") q.methods
  properties : HoldsTexts (args.get? "properties") q.properties
  base : HoldsText (args.get? "extends") q.base
  language : HoldsText (args.get? "language") q.language

/-- A field for what has been given. -/
def givenField (k : String) (v : Json) : Fields Json :=
  if isGiven v then [(k, v)] else []

theorem get?_givenField (k k' : String) (v : Json) :
    Fields.get? (givenField k v) k' = if k = k' then (if isGiven v then some v else none) else none := by
  rw [givenField]
  split <;> simp [Fields.get?]

theorem key_of_givenField {k : String} {v : Json} {p : String × Json} (h : p ∈ givenField k v) : p.1 = k := by
  rw [givenField] at h
  split at h
  · rw [List.mem_singleton.mp h]
  · cases h

theorem signatureOf_eq (args : Fields Json) : signatureOf args =
    givenField "name" ((args.get? "name").getD .null) ++
      givenField "type" ((args.get? "type").getD .null) ++
      givenField "exports" ((args.get? "exports").getD .null) ++
      givenField "methods" (namesOf ((args.get? "methods").getD .null)) ++
      givenField "properties" (namesOf ((args.get? "properties").getD .null)) ++
      givenField "extends" ((args.get? "extends").getD .null) ++
      givenField "language" ((args.get? "language").getD .null) := by
  have hcons : ∀ (k : String) (v : Json) (r : Fields Json), ((k, v) :: r).filter (fun p => isGiven p.2) =
      givenField k v ++ r.filter fun p => isGiven p.2 := by
    intro k v r
    rw [givenField, List.filter_cons]
    split <;> rfl
  rw [signatureOf]
  simp only [hcons, List.filter_nil, List.append_nil, List.append_assoc]

theorem cleanText_given {field : String} {v : Option Json} {s : Option String} (h : HoldsText v s) :
    cleanText field (if isGiven (v.getD .null) then some (v.getD .null) else none) = .ok (clean s) := by
  cases s with
  | none => rcases h with rfl | rfl <;> rfl
  | some u =>
    cases h
    rw [clean_some, Option.getD_some, isGiven]
    by_cases hu : u = ""
    · subst hu
      rfl
    · simp [hu, cleanText]

theorem cleaned_eq (xs : List String) : cleaned xs = trimmed xs := rfl

theorem trimmed_trimmed (xs : List String) : trimmed (trimmed xs) = trimmed xs := by
  induction xs with
  | nil => rfl
  | cons x r ih =>
    rw [trimmed_cons]
    split
    · exact ih
    · next h => rw [trimmed_cons, Text.trim_trim, if_neg h, ih]

/-- The argument for texts: nothing if there are none. -/
def textsOrNull (xs : List String) : Json :=
  if xs.isEmpty then .null else .ofTexts xs

theorem holds_textsOrNull (xs : List String) :
    Holds (if isGiven (textsOrNull xs) then some (textsOrNull xs) else none) xs := by
  cases xs with
  | nil => exact .absent
  | cons x r => exact .list (x :: r)

theorem namesOf_of_holds {v : Option Json} {xs : List String} (h : HoldsTexts v xs) :
    namesOf (v.getD .null) = textsOrNull (trimmed xs) := by
  cases h with
  | absent => rfl
  | null => rfl
  | list xs =>
    have hshown : (xs.map Json.str).map Json.display = xs := by
      rw [List.map_map]
      exact (List.map_congr_left fun s _ => rfl).trans (List.map_id _)
    rw [Option.getD_some, Json.ofTexts, namesOf, hshown, ← cleaned_eq, textsOrNull]
    cases cleaned xs <;> rfl
  | commas s =>
    rw [Option.getD_some, namesOf, ← cleaned_eq, textsOrNull]
    cases cleaned ((Text.splitOnChar ',' s.toList).map String.ofList) <;> rfl

/-- Texts that have been trimmed already are read as before. -/
theorem cleanList_given {field : String} {v : Option Json} {xs : List String} (h : HoldsTexts v xs) :
    cleanList .usual field (if isGiven (namesOf (v.getD .null)) then some (namesOf (v.getD .null)) else none) =
      .ok (tidied xs) := by
  rw [namesOf_of_holds h, cleanList_of_holds field (holds_textsOrNull _), tidied, trimmed_trimmed, tidied]

theorem tells_signatureOf {args : Fields Json} {q : Question} (h : Asks args q) :
    Question.Tells (signatureOf args) q := by
  rw [signatureOf_eq]
  constructor
  case known =>
    intro p hp
    simp only [List.mem_append] at hp
    rcases hp with (((((hp | hp) | hp) | hp) | hp) | hp) | hp <;>
      (rw [key_of_givenField hp]; decide)
  all_goals simp only [Fields.get?_append, get?_givenField]
  · simpa using cleanText_given h.name
  · simpa using cleanText_given h.type
  · simpa using cleanText_given h.exports
  · simpa using cleanList_given h.methods
  · simpa using cleanList_given h.properties
  · simpa using cleanText_given h.base
  · simpa using cleanText_given h.language
  · simp

end ToolCall

/-! ## The same answer -/

namespace Question

open Signature

/-- A question is read in the same way from a command line and from the arguments of a tool; one that describes
nothing is refused by both. -/
theorem signatures_agree {ws : CommandLine.Words} {args : Fields Json}
    (hwritten : CommandLine.writtenSignature ws = .ok []) (hasks : ToolCall.Asks args ws.question) :
    (CommandLine.signatureOf ws = .error (.refused .noSignature) ∧
      Signature.normalize (.obj (ToolCall.signatureOf args)) = .error (.refused .unconstrained)) ∨
    ∃ v, CommandLine.signatureOf ws = .ok v ∧
      Signature.normalize v = Signature.normalize (.obj (ToolCall.signatureOf args)) ∧
      ∀ m, Signature.normalize v = .error (.misfit m) → ∃ s body letters, ws.arguments.head? = some s ∧
        slashed? (Text.trim s) = some (body, letters) ∧
        Pattern.compile body (modesOf letters) = .error (.misfit m) := by
  have hwords := CommandLine.tells_described ws
  have htool := ToolCall.tells_signatureOf hasks
  have hsame := ofFields_of_tells hwords htool
  have hsignature : CommandLine.signatureOf ws =
      if (CommandLine.describedSignature ws.arguments.head? ws).isEmpty then .error (.refused .noSignature)
      else .ok (.obj (CommandLine.describedSignature ws.arguments.head? ws)) := by
    rw [CommandLine.signatureOf, bind_ok hwritten]
    rfl
  rw [hsignature]
  split
  · next hempty =>
    refine .inl ⟨rfl, ?_⟩
    rw [Signature.normalize, ← hsame, List.isEmpty_iff.mp hempty]
    rfl
  · exact .inr ⟨_, rfl, hsame, fun m hm => misfit_of_ofFields hwords hm⟩

/-- Words with blanks and repetitions. -/
def sloppyWords : CommandLine.Words where
  values := [("type", ["class"]), ("method", ["run ", " ", "run"])]
  arguments := [" Store"]

/-- The same with commas. -/
def sloppyArguments : Fields Json :=
  [("name", .str " Store"), ("type", .str "class"), ("exports", .null), ("methods", .str "run , ,run")]

theorem signatures_agree_sloppy : CommandLine.writtenSignature sloppyWords = .ok [] ∧
    ToolCall.Asks sloppyArguments sloppyWords.question ∧
    ∃ v sig, CommandLine.signatureOf sloppyWords = .ok v ∧ Signature.normalize v = .ok sig ∧
      Signature.normalize (.obj (ToolCall.signatureOf sloppyArguments)) = .ok sig ∧
      sig.targetName = some "Store" ∧ sig.methods = ["run"] := by
  have hasks : ToolCall.Asks sloppyArguments sloppyWords.question :=
    ⟨rfl, rfl, .inr rfl, .commas "run , ,run", .absent, .inl rfl, .inl rfl⟩
  have hread : (Signature.normalize (.obj (ToolCall.signatureOf sloppyArguments))).toOption.any (fun sig =>
      sig.targetName == some "Store" && sig.methods == ["run"]) = true := by decide +kernel
  obtain ⟨sig, hsig, hfacts⟩ := (Option.any_eq_true _ _).mp hread
  have hsig := eq_ok_of_toOption hsig
  simp only [Bool.and_eq_true, beq_iff_eq] at hfacts
  rcases signatures_agree rfl hasks with ⟨-, hrefused⟩ | ⟨v, hv, hsame, -⟩
  · rw [hsig] at hrefused
    cases hrefused
  · exact ⟨rfl, hasks, v, sig, hv, hsame.trans hsig, hsig, hfacts.1, hfacts.2⟩

/-- What a reading ran into. -/
def misfit? {ε α : Type} : Except (Fault ε) α → Option Misfit
  | .error (.misfit m) => some m
  | _ => none

theorem eq_misfit_of_misfit? {ε α : Type} {x : Except (Fault ε) α} {m : Misfit} (h : misfit? x = some m) :
    x = .error (.misfit m) := by
  unfold misfit? at h
  split at h
  · cases h
    rfl
  · cases h

/-- A name with more repetitions than a pattern can count. -/
def endlessName : String := "/a{4294967295}/"

/-- A pattern can fail in another way than by being refused, and does so for both. -/
theorem signatures_of_endless : ∃ ws args v, CommandLine.writtenSignature ws = .ok [] ∧
    ToolCall.Asks args ws.question ∧ CommandLine.signatureOf ws = .ok v ∧
    Signature.normalize v = .error (.misfit .tooLarge) ∧
    Signature.normalize (.obj (ToolCall.signatureOf args)) = .error (.misfit .tooLarge) := by
  refine ⟨{ arguments := [endlessName] }, [("name", .str endlessName)], .obj [("name", .str endlessName)], rfl,
    ⟨rfl, .inl rfl, .inl rfl, .absent, .absent, .inl rfl, .inl rfl⟩, rfl, ?_, ?_⟩
  · exact eq_misfit_of_misfit? (by decide +kernel)
  · exact eq_misfit_of_misfit? (by decide +kernel)

end Question

end ShapeSearch
