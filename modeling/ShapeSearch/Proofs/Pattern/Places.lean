import ShapeSearch.Pattern.Search

/-!
# Places of a text

A matcher moves a cursor to and fro and keeps places in its registers, also those of attempts that failed.  All of
them are places of the text that it was started on.  `Sound` says so of a continuation, together with what is asked
of the registers that it finds, and each part of a pattern hands the property on:

    Sound s lo Q k → Sound s lo Q (node.run inLoop k)                                              (sound_run)
-/

namespace ShapeSearch.Pattern

/-- A pattern made of tests, choices, groups and greedy repetitions. -/
def Node.isPlain : Node → Bool
  | .empty | .unit _ | .anchor _ | .never | .many .greedy .. => true
  | .seq a b | .alt _ a b => a.isPlain && b.isPlain
  | .loop .greedy _ _ body | .group _ body => body.isPlain
  | _ => false

/-- A place of a text, at or behind another one. -/
structure Cursor.Within (s : List Char) (lo : Nat) (c : Cursor) : Prop where
  text : c.before.reverse ++ c.after = s
  pos : c.pos = c.before.length
  le : lo ≤ c.pos

structure Registers.Within (s : List Char) (lo : Nat) (r : Registers) : Prop where
  place : r.place.Within s lo
  marks : ∀ c, some c ∈ r.marks → c.Within s lo

structure Match.Within (s : List Char) (m : Match) : Prop where
  start : m.start.Within s 0
  registers : m.registers.Within s m.startPos

/-- What is found meets a condition, and what is lost is within a text. -/
def Outcome.Meets (s : List Char) (lo : Nat) (Q : Registers → Prop) : Outcome → Prop
  | .found g => Q g
  | .lost r => r.Within s lo

/-- A step that meets a condition wherever it is taken in a text. -/
def Sound (s : List Char) (lo : Nat) (Q : Registers → Prop) (k : Step) : Prop :=
  ∀ c r, c.Within s lo → r.Within s lo → (k c r).Meets s lo Q

variable {s : List Char} {lo : Nat} {Q : Registers → Prop} {c c' : Cursor} {r : Registers} {k : Step}
  {m : Step → Step} {o : Outcome}

theorem Outcome.Meets.lost (h : o.Meets s lo Q) (ho : o = .lost r) : r.Within s lo := by
  subst ho
  exact h

namespace Cursor

theorem within_start (s : List Char) : (start s).Within s 0 :=
  ⟨rfl, rfl, Nat.le_refl 0⟩

theorem Within.after_eq (h : c.Within s lo) : c.after = s.drop c.pos := by
  rw [← h.text, h.pos, ← List.length_reverse, List.drop_left]

theorem Within.pos_le (h : c.Within s lo) : c.pos ≤ s.length := by
  rw [← h.text, h.pos, List.length_append, List.length_reverse]
  exact Nat.le_add_right ..

theorem Within.next {x : Char} (h : c.Within s lo) (hn : c.next? = some (x, c')) :
    c'.Within s lo ∧ c'.pos = c.pos + 1 ∧ s[c.pos]? = some x := by
  rw [← List.head?_drop, ← h.after_eq]
  obtain ⟨before, _ | ⟨y, after⟩, pos⟩ := c
  · cases hn
  · cases hn
    exact ⟨⟨by simpa using h.text, congrArg (· + 1) h.pos, Nat.le_succ_of_le h.le⟩, rfl, rfl⟩

theorem Within.back (h : c.Within s lo) (hlo : lo < c.pos) : c.back.Within s lo ∧ c.pos = c.back.pos + 1 := by
  obtain ⟨_ | ⟨x, before⟩, after, pos⟩ := c
  · cases h.pos
    cases hlo
  · cases h.pos
    exact ⟨⟨by simpa [Cursor.back] using h.text, rfl, Nat.le_of_lt_succ hlo⟩, rfl⟩

end Cursor

namespace Registers

theorem Within.note (h : r.Within s lo) (hc : c.Within s lo) : (r.note c).Within s lo :=
  ⟨hc, h.marks⟩

theorem Within.retake {r₀ : Registers} (h : r.Within s lo) (h₀ : r₀.Within s lo) (inLoop : Bool) :
    (r.retake inLoop r₀.marks).Within s lo := by
  refine ⟨h.place, fun c hc => ?_⟩
  cases inLoop with
  | true => exact h₀.marks c hc
  | false => exact h.marks c (List.mem_of_mem_take hc)

theorem Within.mark (h : r.Within s lo) (hc : c.Within s lo) (i : Nat) : (r.mark i c).Within s lo := by
  rw [Registers.mark]
  split
  · refine ⟨h.place, fun c' hc' => ?_⟩
    rcases List.mem_or_eq_of_mem_set hc' with hold | hnew
    · exact h.marks c' hold
    · cases hnew
      exact hc
  · refine ⟨h.place, fun c' hc' => ?_⟩
    simp only [List.mem_append, List.mem_replicate, List.mem_singleton, reduceCtorEq, and_false, false_or,
      Option.some.injEq] at hc'
    rcases hc' with hold | rfl
    · exact h.marks c' hold
    · exact hc

theorem getElem?_mark (r : Registers) (i : Nat) (c : Cursor) : (r.mark i c).marks[i]? = some (some c) := by
  rw [mark]
  split
  · next hi => exact List.getElem?_set_self hi
  · next hi =>
    rw [List.getElem?_append_right (by omega), List.getElem?_append_right (by simp)]
    simp

/-- The text of a group lies between its two marks. -/
theorem group?_eq_some {n : Nat} {piece : Span} (h : r.group? n = some piece) : some piece.start ∈ r.marks ∧
    ∃ e, r.marks[2 * n - 2 + 1]? = some (some e) ∧ piece.start.pos + piece.length = e.pos := by
  obtain ⟨⟨b, e⟩, hbounds, hpiece⟩ := Option.bind_eq_some_iff.mp h
  rw [bounds?] at hbounds
  split at hbounds
  · next hmarks =>
    cases hbounds
    rw [← List.getElem?_drop, hmarks]
    dsimp only at hpiece
    split at hpiece
    · next hle =>
      cases hpiece
      exact ⟨List.mem_of_mem_drop (hmarks ▸ List.mem_cons_self), e, rfl, Nat.add_sub_of_le hle⟩
    · cases hpiece
  · cases hbounds

end Registers

/-! ## Parts of the matcher -/

theorem Sound.attempt (hk : Sound s lo Q k) (inLoop : Bool) (lead : Option CharTest) :
    Sound s lo Q (attempt inLoop lead k) := by
  intro c r hc hr
  have h := hk c _ hc (hr.note hc)
  rw [Pattern.attempt]
  split
  · split
    · next heq => exact heq ▸ h
    · next heq => exact (h.lost heq).retake hr inLoop
  · exact hr

theorem Sound.noting (hk : Sound s lo Q k) : Sound s lo Q (noting k) := by
  intro c r hc hr
  have h := hk c r hc hr
  rw [Pattern.noting]
  split
  · next heq => exact heq ▸ h
  · next heq => exact (h.lost heq).note hc

theorem within_eat (t : CharTest) (limit : Option Nat) (b a : List Char) (pos n : Nat)
    (h : (⟨b, a, pos⟩ : Cursor).Within s lo) : (eat t limit b a pos n).2.Within s lo ∧
      (eat t limit b a pos n).2.pos + n = pos + (eat t limit b a pos n).1 := by
  fun_induction eat t limit b a pos n with
  | case1 | case3 => exact ⟨h, rfl⟩
  | case2 b x a pos n _ ih =>
    obtain ⟨hwithin, hpos⟩ := ih (h.next rfl).1
    exact ⟨hwithin, by omega⟩

theorem Sound.giveBack (hk : Sound s lo Q k) (inLoop : Bool) (follow : Option CharTest) {n : Nat} (hc : c.Within s lo)
    (hr : r.Within s lo) (hn : lo + n ≤ c.pos) : (giveBack inLoop follow k n c r).Meets s lo Q := by
  induction n generalizing c r with
  | zero => exact hk.attempt inLoop follow c r hc hr
  | succ n ih =>
    have h := hk.attempt inLoop follow c r hc hr
    obtain ⟨hback, hpos⟩ := hc.back (by omega)
    rw [Pattern.giveBack]
    split
    · next heq => exact heq ▸ h
    · next heq => exact ih hback (h.lost heq) (by omega)

theorem Sound.leastRounds {more : Option Nat → Step} (hm : ∀ k, Sound s lo Q k → Sound s lo Q (m k))
    (hmore : ∀ limit, Sound s lo Q (more limit)) (n : Nat) (limit : Option Nat) :
    Sound s lo Q (leastRounds m more n limit) := by
  induction n generalizing limit with
  | zero => exact hmore limit
  | succ n ih => exact fun c r hc hr => (hm _ (ih _)).noting c _ hc (hr.note hc)

theorem Sound.greedyMore {out : Option Nat → Option Nat → Step} (hm : ∀ k, Sound s lo Q k → Sound s lo Q (m k))
    (hk : Sound s lo Q k) (hout : ∀ limit last, Sound s lo Q (out limit last)) (fuel : List Char)
    (limit last : Option Nat) : Sound s lo Q (greedyMore m k out fuel limit last) := by
  induction fuel generalizing limit last with
  | nil => exact hout limit last
  | cons _ fuel ih =>
    intro c r hc hr
    have hstay := hk.noting c _ hc (hr.note hc)
    have h := hm _ (ih (limit.map (· - 1)) (some c.pos)) c _ hc (hr.note hc)
    rw [Pattern.greedyMore]
    split
    · exact hstay
    · split
      · next heq => exact heq ▸ h
      · exact hstay

theorem sound_run {node : Node} (hnode : node.isPlain) (inLoop : Bool) (hk : Sound s lo Q k) :
    Sound s lo Q (node.run inLoop k) := by
  induction node generalizing inLoop k with
  | empty => exact hk
  | unit t =>
    intro c r hc hr
    rw [Node.run]
    split
    · next hnext =>
      split
      · exact hk _ r (hc.next hnext).1 hr
      · exact hr
    · exact hr
  | anchor a =>
    intro c r hc hr
    rw [Node.run]
    split
    · exact hk c r hc hr
    · exact hr
  | seq a b iha ihb =>
    obtain ⟨ha, hb⟩ := Bool.and_eq_true_iff.mp hnode
    exact iha ha inLoop (ihb hb inLoop hk)
  | never => exact fun _ _ _ hr => hr
  | alt lead a rest iha ihrest =>
    obtain ⟨ha, hrest⟩ := Bool.and_eq_true_iff.mp hnode
    intro c r hc hr
    have h := (iha ha inLoop hk).attempt inLoop lead c r hc hr
    rw [Node.run]
    split
    · next heq => exact heq ▸ h
    · next heq => exact ihrest hrest inLoop hk c _ hc (h.lost heq)
  | many greed lo hi t follow =>
    cases greed with
    | greedy =>
      intro c r hc hr
      obtain ⟨heat, hpos⟩ := within_eat t hi c.before c.after c.pos 0 hc
      have hle := hc.le
      simp only [Node.run, reduceCtorEq, if_false]
      split
      · have hnote := hr.note (c := if t.isFoldedSet then (eat t hi c.before c.after c.pos 0).2 else c)
          (by split <;> assumption)
        split
        · exact hnote
        · exact hk.giveBack inLoop follow heat hnote (by omega)
      · exact hr
    | _ => cases hnode
  | loop greed least most body ih =>
    intro c r hc hr
    cases greed with
    | greedy =>
      refine Sound.leastRounds (fun _ => ih hnode true) (fun limit => ?_) least most c r hc hr
      have hlast : Sound s lo Q fun c r => noting k c (r.note c) := fun c r hc hr => hk.noting c _ hc (hr.note hc)
      exact .greedyMore (fun _ => ih hnode true) hk (.greedyMore (fun _ => ih hnode true) hk (fun _ _ => hlast) _) _ _ _
    | _ => cases hnode
  | group n body ih =>
    exact fun c r hc hr => ih hnode inLoop (fun c r hc hr => hk c _ hc (hr.mark hc _)) c _ hc (hr.mark hc _)
  | atomic | look | backref | cond => cases hnode

/-- The part that a pattern ends with. -/
def Node.last : Node → Node
  | .seq _ b => b.last
  | n => n

/-- Whether a pattern is the group of a number. -/
def Node.isGroup (n : Nat) : Node → Bool
  | .group k body => k == n && body.isPlain
  | _ => false

theorem sound_run_of_last {node : Node} (hnode : node.isPlain) {inLoop : Bool}
    (h : Sound s lo Q (node.last.run inLoop k)) : Sound s lo Q (node.run inLoop k) := by
  induction node with
  | seq a b _ ihb =>
    obtain ⟨ha, hb⟩ := Bool.and_eq_true_iff.mp hnode
    exact sound_run ha inLoop (ihb hb h)
  | _ => exact h

/-! ## All matches of a text -/

namespace Compiled

variable {p : Compiled} {P : Match → Prop}

theorem searchOn_induction (hp : ∀ advance c m, c.Within s 0 → p.matchAt advance c = some m → P m)
    {b a : List Char}
    {pos : Nat} (hc : (⟨b, a, pos⟩ : Cursor).Within s 0) {m : Match} (h : p.searchOn b a pos = some m) : P m := by
  induction a generalizing b pos with
  | nil => exact hp _ _ m hc (Option.filter_eq_some_iff.mp h).1
  | cons x a ih =>
    rw [searchOn] at h
    split at h
    · next heq =>
      split at h
      · exact hp _ _ m hc (heq.trans h)
      · cases h
    · exact ih (hc.next rfl).1 h

theorem next?_induction (hp : ∀ advance c m, c.Within s 0 → p.matchAt advance c = some m → P m) {advance : Bool}
    (hc : c.Within s 0) {m : Match} (h : p.next? advance c = some m) : P m := by
  rw [next?] at h
  split at h
  · split at h
    · next heq => exact hp _ c m hc (heq.trans h)
    · split at h
      · next hnext => exact searchOn_induction hp (hc.next hnext).1 h
      · cases h
  · cases h

/-- What holds of the matches at places of a text holds of all that are found there. -/
theorem findAll_induction
    (hp : ∀ advance c m, c.Within s 0 → p.matchAt advance c = some m → m.stop.Within s 0 ∧ P m) :
    ∀ m ∈ p.findAll s, P m := by
  suffices hcollect : ∀ fuel advance c out, c.Within s 0 → (∀ m ∈ out, P m) →
      ∀ m ∈ p.collect fuel advance c out, P m from hcollect _ _ _ [] (Cursor.within_start s) (by simp)
  intro fuel
  induction fuel with
  | zero => exact fun _ _ out _ hout m hm => hout m (List.mem_reverse.mp hm)
  | succ fuel ih =>
    intro advance c out hc hout m hm
    rw [collect] at hm
    split at hm
    · exact hout m (List.mem_reverse.mp hm)
    · next heq =>
      obtain ⟨hstop, hP⟩ := next?_induction hp hc heq
      exact ih _ _ _ hstop (List.forall_mem_cons.mpr ⟨hP, hout⟩) m hm

/-- How a match ends. -/
def ending (advance : Bool) (c : Cursor) : Step := fun c' r =>
  if advance && c'.pos == c.pos then .lost r else stop c' r

theorem meets_ending {advance : Bool} (hr : r.Within s lo) (h : Q (r.note c')) :
    (ending advance c c' r).Meets s lo Q := by
  rw [ending]
  split
  · exact hr
  · exact h

/-- Every match goes forward at places of the text, and meets what the last part of the pattern asks for. -/
theorem mem_findAll (hp : p.node.isPlain) {Q : Nat → Registers → Prop}
    (hlast : ∀ advance c, Sound s c.pos (Q c.pos) (p.node.last.run false (ending advance c))) {m : Match}
    (hm : m ∈ p.findAll s) : m.Within s ∧ m.names = p.groupNames ∧ Q m.startPos m.registers := by
  refine findAll_induction (P := fun m => m.Within s ∧ m.names = p.groupNames ∧ Q m.startPos m.registers)
    (fun advance c m hc h => ?_) m hm
  have hend : Sound s c.pos (·.Within s c.pos) (ending advance c) :=
    fun _ _ hc hr => meets_ending hr (hr.note hc)
  have hstart : c.Within s c.pos := ⟨hc.text, hc.pos, Nat.le_refl _⟩
  have hwithin := sound_run hp false hend c ⟨c, []⟩ hstart ⟨hstart, by simp⟩
  have hQ := sound_run_of_last hp (hlast advance c) c ⟨c, []⟩ hstart ⟨hstart, by simp⟩
  rw [matchAt] at h
  split at h
  · next heq =>
    cases h
    change p.node.run false (ending advance c) c ⟨c, []⟩ = _ at heq
    rw [heq] at hwithin hQ
    exact ⟨⟨hwithin.place.text, hwithin.place.pos, Nat.zero_le _⟩, ⟨hc, hwithin⟩, rfl, hQ⟩
  · cases h

/-- A pattern that ends with a test has a character behind its start that passes it. -/
theorem mem_findAll_unit (hp : p.node.isPlain) {t : CharTest} (hlast : p.node.last = .unit t) {m : Match}
    (hm : m ∈ p.findAll s) : m.Within s ∧ m.startPos < m.endPos ∧ ∃ x, t.accepts x = true ∧
      s[m.endPos - 1]? = some x := by
  have h := mem_findAll hp (Q := fun lo g => lo < g.place.pos ∧ ∃ x, t.accepts x = true ∧
    s[g.place.pos - 1]? = some x) ?_ hm
  · exact ⟨h.1, h.2.2⟩
  · intro advance c₀ c r hc hr
    rw [hlast, Node.run]
    split
    · next x c' hnext =>
      obtain ⟨-, hpos, hx⟩ := hc.next hnext
      split
      · next haccept =>
        refine meets_ending hr ⟨?_, x, haccept, ?_⟩
        · exact Nat.lt_of_le_of_lt hc.le (hpos ▸ Nat.lt_succ_self _)
        · rwa [show (r.note c').place.pos = c.pos + 1 from hpos]
      · exact hr
    · exact hr

theorem mem_findAll_group (hp : p.node.isPlain) {n : Nat} (hlast : p.node.last.isGroup n) {m : Match}
    (hm : m ∈ p.findAll s) : m.Within s ∧ m.names = p.groupNames ∧
      m.registers.marks[2 * n - 1]? = some (some m.stop) := by
  refine mem_findAll hp (Q := fun _ g => g.marks[2 * n - 1]? = some (some g.place)) (fun advance c₀ => ?_) hm
  generalize p.node.last = last at hlast
  cases last with
  | group k body =>
    obtain ⟨hk, hbody⟩ := Bool.and_eq_true_iff.mp hlast
    obtain rfl : k = n := eq_of_beq hk
    refine fun c r hc hr => sound_run hbody false (fun c' r' hc' hr' => ?_) c _ hc (hr.mark hc _)
    exact meets_ending (hr'.mark hc' _) (r'.getElem?_mark _ c')
  | _ => cases hlast

end Compiled

end ShapeSearch.Pattern
