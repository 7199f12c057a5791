import ShapeSearch.FileTree
import ShapeSearch.Proofs.Fields
import ShapeSearch.Misfit

/-!
# Changes of a tree and the paths in it

Putting a node and taking one out changes what is at the place itself and below it; above it directories
stay directories, and everything else is as before (`lookup_insert`, `lookup_remove`).

Following links needs to know only where the links are, so trees with the same links lead every path to the
same place:

    SameLinks a b → a.realPath? path = b.realPath? path                      (SameLinks.realPath?_eq)

A path that leads to a node leads to it through its real path:

    root.stat path = .ok n → ∃ q, root.realPath? path = some q ∧ root.lookup q = some n  (stat_eq_ok)
-/

namespace ShapeSearch

namespace Node

variable {new t t' a b root : Node} {p done : List String} {name : String} {n : Nat}

/-! ## Looking up -/

theorem lookup_append (p q : List String) (t : Node) : lookup (p ++ q) t = (lookup p t).bind (lookup q) := by
  induction p generalizing t with
  | nil => rfl
  | cons name p ih =>
    rw [List.cons_append, lookup, lookup]
    cases t.child? name with
    | none => rfl
    | some n => exact ih n

/-- What is at a path after a node is put: the node or a part of it, what was there before, or a directory
on the way to it. -/
theorem lookup_insert (h : insert new p t = some t') (q : List String) :
    (∃ r, q = p ++ r ∧ lookup q t' = lookup r new) ∨ (¬ p <+: q ∧ lookup q t' = lookup q t) ∨
      ∃ es, lookup q t' = some (.dir es) ∧ (lookup q t = none ∨ ∃ es', lookup q t = some (.dir es')) := by
  induction p generalizing t t' q with
  | nil =>
    cases h
    exact .inl ⟨q, rfl, rfl⟩
  | cons name p ih =>
    cases t with
    | file x => cases h
    | link target => cases h
    | dir es =>
      obtain ⟨n, hn, rfl⟩ := Option.map_eq_some_iff.mp h
      cases q with
      | nil => exact .inr (.inr ⟨_, rfl, .inr ⟨es, rfl⟩⟩)
      | cons k q =>
        by_cases hk : k = name
        · subst hk
          have hnew : lookup (k :: q) (.dir (Fields.put es k n)) = lookup q n := by
            simp [lookup, child?]
          have hold : lookup (k :: q) (.dir es) = (Fields.get? es k).bind (lookup q) := rfl
          rw [hnew, hold]
          cases hc : Fields.get? es k with
          | some c =>
            rw [hc, Option.getD_some] at hn
            rcases ih hn q with ⟨r, rfl, hr⟩ | ⟨hpre, hr⟩ | hr
            · exact .inl ⟨r, rfl, hr⟩
            · exact .inr (.inl ⟨by simpa using hpre, hr⟩)
            · exact .inr (.inr hr)
          | none =>
            rw [hc, Option.getD_none] at hn
            rcases ih hn q with ⟨r, rfl, hr⟩ | ⟨hpre, hr⟩ | ⟨es', hr, -⟩
            · exact .inl ⟨r, rfl, hr⟩
            · cases q with
              | nil => exact .inr (.inr ⟨[], hr, .inl rfl⟩)
              | cons _ _ => exact .inr (.inl ⟨by simpa using hpre, hr⟩)
            · exact .inr (.inr ⟨es', hr, .inl rfl⟩)
        · refine .inr (.inl ⟨fun hpre => hk ?_, ?_⟩)
          · exact (List.cons_prefix_cons.mp hpre).1.symm
          · simp [lookup, child?, Fields.get?_put_of_ne _ _ hk]

/-- What is at a path after a node is taken out: nothing at its place and below it, or what was there before;
directories on the way stay. -/
theorem lookup_remove (p : List String) (t : Node) (q : List String) :
    (p <+: q ∧ lookup q (remove p t) = none) ∨ lookup q (remove p t) = lookup q t ∨
      ∃ es es', lookup q (remove p t) = some (.dir es) ∧ lookup q t = some (.dir es') := by
  induction p generalizing t q with
  | nil => exact .inr (.inl (by cases t <;> rfl))
  | cons name p ih =>
    cases t with
    | file x => exact .inr (.inl (by cases p <;> rfl))
    | link target => exact .inr (.inl (by cases p <;> rfl))
    | dir es =>
      have hcons : ∀ k q (es : List (String × Node)),
          lookup (k :: q) (.dir es) = (Fields.get? es k).bind (lookup q) := fun _ _ _ => rfl
      cases p with
      | nil =>
        have hremove : remove [name] (.dir es) = .dir (Fields.erase es name) := rfl
        rw [hremove]
        cases q with
        | nil => exact .inr (.inr ⟨_, es, rfl, rfl⟩)
        | cons k q =>
          have hget := Fields.get?_filter (fun n => decide (n ≠ name)) es k
          rw [hcons, hcons, Fields.erase, hget]
          by_cases hk : k = name
          · subst hk
            exact .inl ⟨List.cons_prefix_cons.mpr ⟨rfl, List.nil_prefix⟩, by simp⟩
          · exact .inr (.inl (by simp [hk]))
      | cons name' p =>
        cases hc : Fields.get? es name with
        | none =>
          have hremove : remove (name :: name' :: p) (.dir es) = .dir es := by rw [remove, hc]; simp
          rw [hremove]
          exact .inr (.inl rfl)
        | some n =>
          have hremove : remove (name :: name' :: p) (.dir es) =
              .dir (Fields.put es name (remove (name' :: p) n)) := by rw [remove, hc]; simp
          rw [hremove]
          cases q with
          | nil => exact .inr (.inr ⟨_, es, rfl, rfl⟩)
          | cons k q =>
            rw [hcons, hcons]
            by_cases hk : k = name
            · subst hk
              rw [Fields.get?_put_self, hc, Option.bind_some, Option.bind_some]
              rcases ih n q with ⟨hpre, hr⟩ | hr | hr
              · exact .inl ⟨List.cons_prefix_cons.mpr ⟨rfl, hpre⟩, hr⟩
              · exact .inr (.inl hr)
              · exact .inr (.inr hr)
            · rw [Fields.get?_put_of_ne _ _ hk]
              exact .inr (.inl rfl)

/-! ## A node under a new name -/

theorem lookup_insert_self (h : insert new p t = some t') : lookup p t' = some new := by
  induction p generalizing t t' with
  | nil =>
    cases h
    rfl
  | cons name p ih =>
    cases t with
    | file x => cases h
    | link target => cases h
    | dir es =>
      obtain ⟨n, hn, rfl⟩ := Option.map_eq_some_iff.mp h
      simp [lookup, child?, ih hn]

theorem lookup_cons_eq_some {n : Node} (h : lookup (name :: p) t = some n) :
    ∃ es c, t = .dir es ∧ Fields.get? es name = some c ∧ lookup p c = some n := by
  obtain ⟨c, hc, hn⟩ := Option.bind_eq_some_iff.mp h
  cases t with
  | file x => cases hc
  | link target => cases hc
  | dir es => exact ⟨es, c, rfl, hc, hn⟩

/-- A node can be put into a directory under a new name, and taken out it leaves the tree as it was. -/
theorem insert_remove_of_vacant {es : List (String × Node)} (hdir : lookup p t = some (.dir es))
    (hname : Fields.get? es name = none) (new : Node) :
    ∃ t', insert new (p ++ [name]) t = some t' ∧ remove (p ++ [name]) t' = t := by
  induction p generalizing t with
  | nil =>
    cases hdir
    refine ⟨.dir (Fields.put es name new), rfl, ?_⟩
    show Node.dir (Fields.erase (Fields.put es name new) name) = .dir es
    rw [Fields.erase_put_of_not_mem (Fields.get?_eq_none_iff.mp hname)]
  | cons k p ih =>
    obtain ⟨fs, c, rfl, hc, hdir⟩ := lookup_cons_eq_some hdir
    obtain ⟨c', hinsert, hremove⟩ := ih hdir
    refine ⟨.dir (Fields.put fs k c'), ?_, ?_⟩
    · rw [List.cons_append, insert, hc, Option.getD_some, hinsert, Option.map_some]
    · obtain ⟨k', r, hr⟩ : ∃ k' r, p ++ [name] = k' :: r := List.exists_cons_of_ne_nil (by simp)
      rw [List.cons_append, hr, remove, Fields.get?_put_self, ← hr]
      · simp only [hremove, Fields.put_put, Fields.put_of_get? hc]
      · simp

/-! ## Files -/

/-- Two trees have the same files. -/
def SameFiles (a b : Node) : Prop :=
  ∀ q x, lookup q a = some (.file x) ↔ lookup q b = some (.file x)

theorem SameFiles.refl (a : Node) : SameFiles a a := fun _ _ => Iff.rfl

theorem SameFiles.trans {c : Node} (h : SameFiles a b) (h' : SameFiles b c) : SameFiles a c :=
  fun q x => (h q x).trans (h' q x)

theorem sameFiles_insert_dir (h : insert (.dir []) p t = some t') (hp : lookup p t = none) : SameFiles t t' := by
  intro q x
  rcases lookup_insert h q with ⟨r, rfl, hr⟩ | ⟨-, hr⟩ | ⟨es, hr, hold⟩
  · rw [hr, lookup_append, hp]
    cases r <;> simp [lookup, child?]
  · rw [hr]
  · rw [hr]
    rcases hold with hold | ⟨es', hold⟩ <;> rw [hold] <;> simp

/-! ## Links -/

/-- Two trees have the same links. -/
def SameLinks (a b : Node) : Prop :=
  ∀ q target, lookup q a = some (.link target) ↔ lookup q b = some (.link target)

theorem SameLinks.refl (a : Node) : SameLinks a a := fun _ _ => Iff.rfl

theorem SameLinks.trans {c : Node} (h : SameLinks a b) (h' : SameLinks b c) : SameLinks a c :=
  fun q t => (h q t).trans (h' q t)

/-- There is no link at a place and none below it. -/
def Linkless (t : Node) (p : List String) : Prop := ∀ r target, lookup (p ++ r) t ≠ some (.link target)

theorem linkless_of_none (h : lookup p t = none) : Linkless t p := by
  intro r target
  rw [lookup_append, h]
  simp

theorem linkless_of_file {x : File} (h : lookup p t = some (.file x)) : Linkless t p := by
  intro r target
  rw [lookup_append, h]
  cases r <;> simp [lookup, child?]

theorem sameLinks_insert (h : insert new p t = some t') (ht : Linkless t p) (hnew : Linkless new []) :
    SameLinks t t' := by
  intro q target
  rcases lookup_insert h q with ⟨r, rfl, hr⟩ | ⟨-, hr⟩ | ⟨es, hr, hold⟩
  · rw [hr]
    exact iff_of_false (ht r target) (hnew r target)
  · rw [hr]
  · rw [hr]
    rcases hold with hold | ⟨es', hold⟩ <;> rw [hold] <;> simp

theorem sameLinks_remove (ht : Linkless t p) : SameLinks t (remove p t) := by
  intro q target
  rcases lookup_remove p t q with ⟨⟨r, rfl⟩, hr⟩ | hr | ⟨es, es', hr, hold⟩
  · rw [hr]
    exact iff_of_false (ht r target) (by simp)
  · rw [hr]
  · rw [hr, hold]
    simp

theorem SameLinks.advance_eq (h : SameLinks a b) (done rest : List String) :
    advance a done rest = advance b done rest := by
  induction rest generalizing done with
  | nil => rfl
  | cons name rest ih =>
    rw [advance, advance]
    split
    · exact ih _
    · split
      · next target ha => rw [(h _ _).mp ha]
      · next hna =>
        split
        · next target hb => exact absurd ((h _ _).mpr hb) (hna target)
        · exact ih _

theorem SameLinks.follow_eq (h : SameLinks a b) (n : Nat) (done rest : List String) :
    follow a n done rest = follow b n done rest := by
  induction n generalizing done rest with
  | zero => rw [follow, follow, h.advance_eq]
  | succ n ih =>
    rw [follow, follow, h.advance_eq]
    cases advance b done rest with
    | arrived d => rfl
    | link base target r => exact ih _ _

theorem SameLinks.realPath?_eq (h : SameLinks a b) (path : String) : a.realPath? path = b.realPath? path :=
  h.follow_eq _ _ _

/-! ## Real paths -/

/-- The steps of a path without those that stay where they are. -/
def moving (steps : List String) : List String := steps.filter (· ≠ ".")

/-- A stop whose steps left are only those that lead somewhere. -/
def Stop.moving : Stop → Stop
  | .arrived d => .arrived d
  | .link base target r => .link base target (Node.moving r)

theorem components_eq (path : String) : Path.components path = moving (stepsOf path) := by
  have hlast : moving (if path.toList.getLast? = some '/' then ["."] else []) = [] := by
    split <;> simp [moving]
  rw [stepsOf, moving, List.filter_append, ← moving, ← moving, hlast, List.append_nil, moving,
    List.filter_filter, Path.components, List.filter_map]
  congr 1
  refine List.filter_congr fun p _ => ?_
  have hempty : (String.ofList p = "") ↔ p = [] := by
    rw [← String.toList_inj]
    simp
  have hdot : (String.ofList p = ".") ↔ p = ['.'] := by
    rw [← String.toList_inj]
    simp
  rw [Bool.eq_iff_iff]
  simp only [Function.comp_apply, ne_eq, decide_not, hempty, hdot, Bool.and_eq_true, Bool.not_eq_true',
    decide_eq_false_iff_not, List.isEmpty_eq_false_iff, bne_iff_ne]
  exact and_comm

theorem climb_eq_ok {rest : List String} {stop : Stop} (h : climb root done rest = .ok stop) :
    advance root done (moving rest) = stop.moving := by
  induction rest generalizing done with
  | nil =>
    cases h
    rfl
  | cons name rest ih =>
    rw [climb] at h
    split at h
    · next es hdir =>
      split at h
      · next hdot =>
        rw [show moving (name :: rest) = moving rest by simp [moving, hdot]]
        exact ih h
      · next hdot =>
        rw [show moving (name :: rest) = name :: moving rest by simp [moving, hdot], advance]
        have hstep : root.lookup (name :: done).reverse = Fields.get? es name := by
          rw [List.reverse_cons, lookup_append, hdir]
          simp [lookup, child?]
        split at h
        · next hup => rw [if_pos hup]; exact ih h
        · next hup =>
          rw [if_neg hup, hstep]
          split at h
          · cases h
          · split at h
            · cases h
            · next target hlink =>
              cases h
              rw [hlink]
              rfl
            · next n hn hlink =>
              rw [hlink]
              cases n with
              | link target => exact absurd rfl (hn target)
              | file x => exact ih h
              | dir es => exact ih h
    · cases h

theorem locate_eq_ok {m : Nat} (hm : n ≤ m) {rest q : List String} (h : locate root n done rest = .ok q) :
    follow root m done (moving rest) = some q := by
  induction n generalizing m done rest with
  | zero =>
    rw [locate] at h
    split at h
    · cases h
    · next d hd =>
      cases h
      rw [follow, climb_eq_ok hd]
      rfl
    · cases h
  | succ n ih =>
    rw [locate] at h
    split at h
    · cases h
    · next d hd =>
      cases h
      rw [follow, climb_eq_ok hd]
      rfl
    · next base target r hd =>
      obtain ⟨m, rfl⟩ : ∃ k, m = k + 1 := ⟨m - 1, by omega⟩
      have hnext := ih (Nat.le_of_succ_le_succ hm) h
      rw [moving, List.filter_append, ← moving, ← moving, ← components_eq] at hnext
      rw [follow, climb_eq_ok hd]
      exact hnext

theorem stat_eq_ok {n : Node} {path : String} (h : root.stat path = .ok n) :
    ∃ q, root.realPath? path = some q ∧ root.lookup q = some n := by
  unfold stat at h
  split at h
  · cases h
  · obtain ⟨q, hq, h⟩ := bind_eq_ok.mp h
    split at h
    · next hn =>
      cases h
      refine ⟨q, ?_, hn⟩
      rw [realPath?, components_eq]
      exact locate_eq_ok (by decide) hq
    · cases h

/-! ## Paths in two parts -/

theorem advance_append {xs : List String} (ys : List String) :
    advance root done (xs ++ ys) = match advance root done xs with
      | .arrived d => advance root d ys
      | .link base target r => .link base target (r ++ ys) := by
  induction xs generalizing done with
  | nil => rfl
  | cons name xs ih =>
    rw [List.cons_append, advance, advance]
    split
    · exact ih
    · split
      · rfl
      · exact ih

theorem follow_append {xs parts : List String} (h : follow root n done xs = some parts) (ys : List String) :
    ∃ m, follow root n done (xs ++ ys) = follow root m parts.reverse ys := by
  induction n generalizing done xs with
  | zero =>
    rw [follow] at h
    split at h
    · next d hd =>
      cases h
      refine ⟨0, ?_⟩
      rw [follow, follow, advance_append, hd, List.reverse_reverse]
    · cases h
  | succ n ih =>
    rw [follow] at h
    split at h
    · next d hd =>
      cases h
      refine ⟨n + 1, ?_⟩
      rw [follow, follow, advance_append, hd, List.reverse_reverse]
    · next base target r hd =>
      obtain ⟨m, hm⟩ := ih h
      refine ⟨m, ?_⟩
      rw [follow, advance_append, hd]
      simp only
      rw [← List.append_assoc]
      exact hm

theorem follow_concat {dir parts : List String} (h : follow root n [] dir = some parts) (hname : name ≠ "..")
    (hlink : ∀ target, root.lookup (parts ++ [name]) ≠ some (.link target)) :
    follow root n [] (dir ++ [name]) = some (parts ++ [name]) := by
  obtain ⟨m, hm⟩ := follow_append h [name]
  have hadvance : advance root parts.reverse [name] = .arrived (name :: parts.reverse) := by
    rw [advance, if_neg hname, List.reverse_cons, List.reverse_reverse]
    split
    · next target ht => exact absurd ht (hlink target)
    · rfl
  rw [hm, follow, hadvance]
  simp

end Node

end ShapeSearch
