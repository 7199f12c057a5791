import ShapeSearch.Aliases
import ShapeSearch.Proofs.Json.Spelling
import ShapeSearch.Proofs.Naming.Boundaries

/-!
# Documents that need no tolerance

A tolerant reader drops comments, and commas before closing brackets, from a text.  A text that spells a value has
neither, but texts in quotes may look so.  The search for comments passes over those in quotes (`steady_comments`);
that for commas does not know of quotes:

    readWithin limits s = .ok v → no comma in quotes comes before a closing bracket → plainText s = s
                                                                                             (parse_document)
-/

namespace ShapeSearch.Tolerant

open Pattern Json

/-- The test for some characters, or for all others. -/
def chars (form : TestForm) (negated : Bool) (cs : List Char) : CharTest :=
  ⟨form, negated, .exact, true, cs.map fun c => .single c.toNat⟩

theorem accepts_chars (form : TestForm) (negated : Bool) (cs : List Char) (x : Char) :
    (chars form negated cs).accepts x = (cs.contains x != negated) := by
  have hcovers : ∀ c : Char, (Member.single c.toNat).covers .exact true x = (x == c) := fun c => by
    simp [Member.covers, Bool.beq_eq_decide_eq, Char.toNat_inj]
  simp only [chars, CharTest.accepts, Fold.apply, List.any_map, Function.comp_def, hcovers, List.contains_eq_any_beq]

/-- A character of a text in quotes, or two of them after a backslash. -/
def quotedChar : Pattern.Node :=
  let slash := chars .one false ['\\']
  let plain := chars .set true ['"', '\\']
  .alt (some slash) (.seq (.unit slash) (.unit (chars .any true []))) (.alt (some plain) (.unit plain) .never)

def quotedText : Pattern.Node :=
  let quote := chars .one false ['"']
  .group 1 (.seq (.unit quote) (.seq (.loop .greedy 0 none quotedChar) (.unit quote)))

/-- A comment that goes on to a star and a slash, and one that goes on to the end of its line. -/
def comment : Bool → Pattern.Node
  | true => .seq (.unit (chars .one false ['/'])) (.seq (.unit (chars .one false ['*'])) (.seq
      (.many .reluctant 0 none (chars .any true []) (some (chars .one false ['*'])))
      (.seq (.unit (chars .one false ['*'])) (.unit (chars .one false ['/'])))))
  | false => .seq (.unit (chars .one false ['/'])) (.seq (.unit (chars .one false ['/']))
      (.many .greedy 0 none (chars .one true ['\n']) none))

theorem node_comments : comments.node = .alt none quotedText (.alt (some (chars .one false ['/'])) (comment true)
    (.alt (some (chars .one false ['/'])) (comment false) .never)) := by
  decide +kernel

def blanks : CharTest := ⟨.set, false, .exact, true, [.category .space false]⟩

/-- A closing bracket, as a group. -/
def closing : Pattern.Node := .group 1 (.unit (chars .set false ['}', ']']))

theorem node_trailingCommas : trailingCommas.node =
    .seq (.unit (chars .one false [','])) (.seq (.many .greedy 0 none blanks none) closing) := by
  decide +kernel

theorem accepts_blanks (x : Char) : blanks.accepts x = Text.isBlank x := by
  simp [blanks, CharTest.accepts, Fold.apply, Member.covers, Category.holds]

variable {s : List Char} {c : Cursor}

/-! ## Commas -/

/-- All that is given back before a closing bracket is blank. -/
theorem heads_of_closes (h : closes s = false) {j : Nat} (hj : j ≤ (s.takeWhile blanks.accepts).length) :
    ∀ x ∈ (s.drop j).head?, x ≠ '}' ∧ x ≠ ']' := by
  rw [funext accepts_blanks] at hj
  induction s generalizing j with
  | nil => simp
  | cons y s ih =>
    by_cases hy : Text.isBlank y = true
    · rw [closes, List.dropWhile_cons_of_pos hy] at h
      rw [List.takeWhile_cons_of_pos hy] at hj
      cases j with
      | zero =>
        rintro _ ⟨⟩
        constructor <;> rintro rfl <;> cases hy
      | succ j => exact ih h (by simpa using hj)
    · rw [closes, List.dropWhile_cons_of_neg hy] at h
      rw [List.takeWhile_cons_of_neg hy] at hj
      obtain rfl : j = 0 := by simpa using hj
      rintro _ ⟨⟩
      simpa using h

theorem closing_lost (h : ∀ x ∈ c.after.head?, x ≠ '}' ∧ x ≠ ']') (r : Registers) :
    ∃ r', attempt false none (closing.run false stop) c r = .lost r' := by
  obtain ⟨b, s, pos⟩ := c
  cases s with
  | nil => exact ⟨_, rfl⟩
  | cons x s =>
    obtain ⟨hx, hy⟩ := h x rfl
    exact ⟨_, by simp [attempt, closing, Pattern.Node.run, Cursor.next?, accepts_chars, hx, hy]; rfl⟩

theorem matchAt_comma (h : ∀ r, c.after = ',' :: r → closes r = false) : trailingCommas.matchAt false c = none := by
  obtain ⟨b, s, pos⟩ := c
  cases s with
  | nil => simp [Compiled.matchAt, node_trailingCommas, Pattern.Node.run, Cursor.next?]
  | cons x s =>
    by_cases hx : x = ','
    · subst hx
      have hfold : blanks.isFoldedSet = false := rfl
      have hfits := (List.takeWhile_sublist blanks.accepts (l := s)).length_le
      have htry : ∀ j ≤ (s.takeWhile blanks.accepts).length, ∀ r, True → ∃ r', True ∧
          attempt false none (closing.run false stop)
            ((⟨',' :: b, s, pos + 1⟩ : Cursor).forward j) r = .lost r' := by
        intro j hj r _
        obtain ⟨r', hlost⟩ := closing_lost (c := (⟨_, s, _⟩ : Cursor).forward j)
          (heads_of_closes (h s rfl) hj) r
        exact ⟨r', trivial, hlost⟩
      obtain ⟨r, hlost⟩ := giveBack_lost (r := ⟨⟨',' :: b, s, pos + 1⟩, []⟩) hfits htry trivial
      refine Compiled.matchAt_of_lost (r := r) ?_
      simp [node_trailingCommas, Pattern.Node.run, Cursor.next?, accepts_chars, eat_eq, hasAtLeast, hfold,
        Registers.note, hlost]
    · simp [Compiled.matchAt, node_trailingCommas, Pattern.Node.run, Cursor.next?, accepts_chars, hx]

/-! ## Comments -/

theorem matchAt_plain (h : ∀ x ∈ c.after.head?, x ≠ '"' ∧ x ≠ '/') : comments.matchAt false c = none := by
  obtain ⟨b, s, pos⟩ := c
  cases s with
  | nil => simp [Compiled.matchAt, node_comments, quotedText, Pattern.Node.run, attempt, Cursor.next?, Cursor.passes]
  | cons x s =>
    obtain ⟨hx, hy⟩ := h x rfl
    simp [Compiled.matchAt, node_comments, quotedText, Pattern.Node.run, attempt, Cursor.next?, Cursor.passes,
      accepts_chars, hx, hy]

section Round

variable {k : Pattern.Step} {r g : Registers} {x : Char}

theorem round_quote (hc : c.after = '"' :: s) : quotedChar.run true k c r = .lost r := by
  simp [quotedChar, Pattern.Node.run, attempt, Cursor.passes, hc, accepts_chars]

theorem round_plain (hquote : x ≠ '"') (hslash : x ≠ '\\') (hc : c.after = x :: s)
    (h : ∀ r', r'.marks = r.marks → k (c.forward 1) r' = .found g) : quotedChar.run true k c r = .found g := by
  have hnext : c.next? = some (x, c.forward 1) := Cursor.next?_forward (n := 0) hc
  simp [quotedChar, Pattern.Node.run, attempt, Cursor.passes, hc, accepts_chars, hquote, hslash, hnext,
    h (r.note c) rfl]

theorem round_escaped (hc : c.after = '\\' :: x :: s)
    (h : ∀ r', r'.marks = r.marks → k (c.forward 2) r' = .found g) : quotedChar.run true k c r = .found g := by
  have hnext : c.next? = some ('\\', c.forward 1) := Cursor.next?_forward (n := 0) hc
  have hnext' : (c.forward 1).next? = some (x, c.forward 2) := Cursor.next?_forward (n := 1) (by rw [hc]; rfl)
  simp [quotedChar, Pattern.Node.run, attempt, Cursor.passes, hc, accepts_chars, hnext, hnext', h (r.note c) rfl]

end Round

section Loop

variable {m : Pattern.Step → Pattern.Step} {k : Pattern.Step} {out : Option Nat → Option Nat → Pattern.Step}
  {fuel : List Char} {last : Option Nat} {r g : Registers} (hlast : ∀ l ∈ last, l < c.pos)

include hlast

theorem greedyMore_next (x : Char) (h : m (greedyMore m k out fuel none (some c.pos)) c (r.note c) = .found g) :
    greedyMore m k out (x :: fuel) none last c r = .found g := by
  have hmoved : last ≠ some c.pos := fun hc => absurd (hlast c.pos hc) (Nat.lt_irrefl _)
  simp [greedyMore, hmoved, h]

theorem greedyMore_last (x : Char) {r' : Registers}
    (h : m (greedyMore m k out fuel none (some c.pos)) c (r.note c) = .lost r') (hk : k c (r.note c) = .found g) :
    greedyMore m k out (x :: fuel) none last c r = .found g := by
  have hmoved : last ≠ some c.pos := fun hc => absurd (hlast c.pos hc) (Nat.lt_irrefl _)
  simp [greedyMore, hmoved, h, noting, hk]

end Loop

/-- A loop over the characters of a text in quotes ends at its closing quote. -/
theorem loop_quoted {z : List Char} (h : Quoted s z) : ∃ n, s.drop n = '"' :: z ∧
    ∀ (c : Cursor) (k : Pattern.Step) (out : Option Nat → Option Nat → Pattern.Step) (fuel : List Char)
      (last : Option Nat) (marks : List (Option Cursor)) (g : Registers), c.after = s → s.length ≤ fuel.length →
      (∀ l ∈ last, l < c.pos) → (∀ r, r.marks = marks → k (c.forward n) r = .found g) →
      ∀ r, r.marks = marks →
        greedyMore (fun k c r => quotedChar.run true k c r) k out fuel none last c r = .found g := by
  induction h with
  | stop =>
    refine ⟨0, rfl, fun c k out fuel last marks g hc hfuel hlast hk r hr => ?_⟩
    cases fuel with
    | nil => simp at hfuel
    | cons x fuel => exact greedyMore_last hlast x (round_quote hc) (hk _ hr)
  | plain hquote hslash _ ih =>
    obtain ⟨n, hn, ih⟩ := ih
    refine ⟨n + 1, hn, fun c k out fuel last marks g hc hfuel hlast hk r hr => ?_⟩
    cases fuel with
    | nil => simp at hfuel
    | cons x fuel =>
      refine greedyMore_next hlast x (round_plain hquote hslash hc fun r' hr' => ?_)
      refine ih _ k out fuel (some c.pos) marks g (by simp [hc]) (by simpa using hfuel) (by simp) (fun r hr => ?_) r'
        (hr'.trans hr)
      rw [Cursor.forward_forward, Nat.add_comm]
      exact hk r hr
  | escaped _ _ ih =>
    obtain ⟨n, hn, ih⟩ := ih
    refine ⟨n + 2, hn, fun c k out fuel last marks g hc hfuel hlast hk r hr => ?_⟩
    cases fuel with
    | nil => simp at hfuel
    | cons x fuel =>
      refine greedyMore_next hlast x (round_escaped hc fun r' hr' => ?_)
      refine ih _ k out fuel (some c.pos) marks g (by simp [hc]) (by simp at hfuel; omega) (by simp) (fun r hr => ?_) r'
        (hr'.trans hr)
      rw [Cursor.forward_forward, Nat.add_comm]
      exact hk r hr

/-- A text in quotes is matched as a whole, and is its first group. -/
theorem matchAt_quoted {z : List Char} (h : Quoted s z) (hc : c.after = '"' :: s) :
    ∃ n m, 0 < n ∧ comments.matchAt false c = some m ∧ m.start = c ∧ m.stop = c.forward n ∧
      firstGroup m = c.after.take n ∧ c.after.drop n = z := by
  obtain ⟨n, hn, hloop⟩ := loop_quoted h
  have hend : c.after.drop (n + 1) = '"' :: z := by rw [hc, List.drop_succ_cons, hn]
  refine ⟨n + 2, ⟨c, ⟨c.forward (n + 2), [some c, some (c.forward (n + 2))]⟩, _⟩, by omega,
    Compiled.matchAt_of_found ?_, rfl, rfl, ?_, ?_⟩
  · have hopen : c.next? = some ('"', c.forward 1) := Cursor.next?_forward (n := 0) hc
    have hclose : ((c.forward 1).forward n).next? = some ('"', c.forward (n + 2)) := by
      rw [Cursor.forward_forward, Nat.add_comm]
      exact Cursor.next?_forward hend
    have hrun : quotedText.run false stop c ⟨c, []⟩ =
        .found ⟨c.forward (n + 2), [some c, some (c.forward (n + 2))]⟩ := by
      simp only [quotedText, Pattern.Node.run, hopen, accepts_chars, leastRounds, greedyRounds]
      refine hloop (c.forward 1) _ _ _ none [some c] _ (by simp [hc]) (by simp [roundsFrom, hc]; omega) (by simp)
        (fun r hr => ?_) _ rfl
      simp [hclose, Registers.mark, hr, stop, Registers.note]
    rw [node_comments]
    refine run_alt_found ?_
    simp [attempt, Registers.note, hrun]
  · simp [firstGroup, Match.span?, Registers.group?, Registers.bounds?, Span.chars]
  · rw [← List.tail_drop, hend]
    rfl

theorem steady_comments (h : Spelt s) (b : List Char) (pos : Nat) : comments.Steady firstGroup ⟨b, s, pos⟩ := by
  induction h generalizing b pos with
  | nil => exact .done (matchAt_plain (by simp))
  | char hx _ ih => exact .pass (matchAt_plain (by simp_all)) (ih _ _)
  | comma _ _ ih => exact .pass (matchAt_plain (by simp)) (ih _ _)
  | text hq _ ih =>
    obtain ⟨n, m, hn, hm, hstart, hstop, hf, hrest⟩ := matchAt_quoted hq (c := ⟨b, _, pos⟩) rfl
    refine .keep hn hm hstart hstop hf ?_
    rw [Cursor.forward, hrest]
    exact ih _ _

/-! ## Documents -/

/-- Where a text stands: outside of quotes, in quotes, or behind a backslash in quotes. -/
inductive Place where
  | outside
  | inside
  | escaped

/-- Whether there are quotes around a comma that only blanks part from a closing bracket. -/
def hides : Place → List Char → Bool
  | _, [] => false
  | .outside, x :: r => hides (if x = '"' then .inside else .outside) r
  | .inside, x :: r => x == ',' && closes r ||
      hides (if x = '"' then .outside else if x = '\\' then .escaped else .inside) r
  | .escaped, _ :: r => hides .inside r

theorem steady_quoted {z : List Char} (h : Quoted s z) (hs : hides .inside s = false)
    (hz : hides .outside z = false → ∀ b pos, trailingCommas.Steady firstGroup ⟨b, z, pos⟩) (b : List Char)
    (pos : Nat) : trailingCommas.Steady firstGroup ⟨b, s, pos⟩ := by
  induction h generalizing b pos with
  | stop => exact .pass (matchAt_comma (by simp)) (hz (by simpa [hides] using hs) _ _)
  | plain hquote hslash _ ih =>
    obtain ⟨hcomma, hrest⟩ : _ ∧ _ := by simpa [hides, hquote, hslash] using hs
    refine .pass (matchAt_comma ?_) (ih hrest hz _ _)
    rintro r ⟨⟩
    exact hcomma rfl
  | escaped hx _ ih =>
    refine .pass (matchAt_comma (by simp)) (.pass (matchAt_comma ?_) (ih (by simpa [hides] using hs) hz _ _))
    rintro r ⟨⟩
    exact absurd rfl hx

theorem steady_trailingCommas (h : Spelt s) (hs : hides .outside s = false) (b : List Char) (pos : Nat) :
    trailingCommas.Steady firstGroup ⟨b, s, pos⟩ := by
  induction h generalizing b pos with
  | nil => exact .done (matchAt_comma (by simp))
  | char hx _ ih =>
    refine .pass (matchAt_comma ?_) (ih (by simp_all [hides]) _ _)
    rintro r ⟨⟩
    simp at hx
  | comma hcloses _ ih =>
    refine .pass (matchAt_comma ?_) (ih (by simpa [hides] using hs) _ _)
    rintro r ⟨⟩
    exact hcloses
  | text hq _ ih =>
    exact .pass (matchAt_comma (by simp)) (steady_quoted hq (by simpa [hides] using hs) ih _ _)

/-- A document stays as it is, whatever its texts hold, unless a comma in one of them comes before a closing bracket. -/
theorem parse_document {text : String} {limits : Limits} {v : Json} (h : readWithin limits text.toList = .ok v)
    (hhides : hides .outside text.toList = false) : plainText text = text.toList ∧
      ∀ found, Json.parse text.toList = .ok found → Tolerant.parse text = .ok found := by
  have hspelt := (told_readWithin h).2
  have hplain : plainText text = text.toList := by
    rw [plainText, (steady_comments hspelt [] 0).replaceAll]
    exact (steady_trailingCommas hspelt hhides [] 0).replaceAll
  refine ⟨hplain, fun found hparse => ?_⟩
  unfold Tolerant.parse
  rw [hplain, hparse]

/-- A document with marks of comments and a bracket in quotes. -/
def marks : String := "[\"//\", \"\\\"/*\", \",x]\"]"

theorem parse_document_marks : Json.parse marks.toList = .ok (some (.ofTexts ["//", "\"/*", ",x]"])) ∧
    Tolerant.parse marks = .ok (some (.ofTexts ["//", "\"/*", ",x]"])) := by
  have hread : readWithin .usual marks.toList = .ok (.ofTexts ["//", "\"/*", ",x]"]) := by cbv
  have hparse : Json.parse marks.toList = .ok (some (.ofTexts ["//", "\"/*", ",x]"])) := by cbv
  exact ⟨hparse, (parse_document hread (by decide +kernel)).2 _ hparse⟩

theorem parse_hidden_comma : Json.parse "[\",]\"]".toList = .ok (some (.ofTexts [",]"])) ∧
    Tolerant.parse "[\",]\"]" = .ok (some (.ofTexts ["]"])) := by
  have hplain : plainText "[\",]\"]" = "[\"]\"]".toList := by decide +kernel
  have hparse : Json.parse "[\"]\"]".toList = .ok (some (.ofTexts ["]"])) := by cbv
  refine ⟨by cbv, ?_⟩
  unfold Tolerant.parse
  rw [hplain, hparse]

end ShapeSearch.Tolerant
