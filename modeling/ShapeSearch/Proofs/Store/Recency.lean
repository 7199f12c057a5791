import Mathlib.Data.List.Dedup
import Mathlib.Data.List.DropRight
import ShapeSearch.Proofs.Fields
import ShapeSearch.Store.Lru

/-!
# What was used last

Of a list of uses, `lastUsed n` keeps the `n` names that were used last, each at the place of its last use.  One
more use moves its name to the end, and the name that was used longest ago may have to go (`lastUsed_concat`).
A bounded store holds these names as long as none is taken away, and a registry of modules holds the paths added
last (`Lru.run_lastUsed`, `Modules.run_registered`).
-/

namespace ShapeSearch

variable {α : Type} {n : Nat} {us l : List String} {k : String}

/-- The `n` names that were used last, in the order of their last uses. -/
def lastUsed (n : Nat) (uses : List String) : List String :=
  uses.dedup.rtake n

def toEnd (k : String) (l : List String) : List String :=
  l.filter (· ≠ k) ++ [k]

theorem dedup_concat (us : List String) (k : String) : (us ++ [k]).dedup = toEnd k us.dedup := by
  induction us with
  | nil => rfl
  | cons u us ih =>
    rw [List.cons_append, List.dedup_cons, List.dedup_cons, ih]
    by_cases hu : u ∈ us
    · simp [hu]
    · by_cases huk : u = k
      · subst huk
        simp [hu, toEnd]
      · simp [hu, huk, toEnd]

theorem mem_toEnd {q : String} : q ∈ toEnd k l ↔ q ∈ l ∨ q = k := by
  by_cases hq : q = k <;> simp [toEnd, hq]

theorem nodup_toEnd (h : l.Nodup) (k : String) : (toEnd k l).Nodup :=
  List.nodup_append.mpr ⟨h.filter _, by simp, by simp⟩

theorem toEnd_eq_erase (h : l.Nodup) (k : String) : toEnd k l = l.erase k ++ [k] := by
  rw [toEnd, h.erase_eq_filter]
  simp [bne, beq_eq_decide]

theorem length_toEnd (h : l.Nodup) (k : String) :
    (toEnd k l).length = if k ∈ l then l.length else l.length + 1 := by
  rw [toEnd_eq_erase h, List.length_append, List.length_erase, List.length_singleton]
  split
  · next hk =>
    have := List.length_pos_of_mem hk
    omega
  · rfl

theorem rtake_of_length_le (h : l.length ≤ n) : l.rtake n = l := by
  rw [List.rtake, Nat.sub_eq_zero_of_le h, List.drop_zero]

theorem length_rtake (n : Nat) (l : List String) : (l.rtake n).length = min n l.length := by
  rw [List.rtake, List.length_drop]
  omega

theorem lastUsed_concat (n : Nat) (us : List String) (k : String) :
    lastUsed n (us ++ [k]) = (toEnd k (lastUsed n us)).rtake n := by
  rw [lastUsed, lastUsed, dedup_concat]
  have hnodup := List.nodup_dedup us
  generalize us.dedup = l at hnodup ⊢
  by_cases hn : l.length ≤ n
  · rw [rtake_of_length_le hn]
  · have hsplit : toEnd k l = (l.take (l.length - n)).filter (· ≠ k) ++ toEnd k (l.rtake n) := by
      rw [toEnd, toEnd, ← List.append_assoc, ← List.filter_append, List.rtake, List.take_append_drop]
    -- those that are kept are as many as can be, with or without the one that moves
    have hlong : n ≤ (toEnd k (l.rtake n)).length := by
      have hkept : (l.rtake n).Nodup := hnodup.sublist (List.drop_sublist _ _)
      rw [length_toEnd hkept, length_rtake]
      split <;> omega
    rw [hsplit, List.rtake, List.length_append, List.drop_append, List.drop_eq_nil_of_le (by omega),
      List.nil_append, List.rtake]
    congr 1
    omega

theorem nodup_lastUsed (n : Nat) (us : List String) : (lastUsed n us).Nodup :=
  (List.nodup_dedup us).sublist (List.drop_sublist _ _)

theorem length_lastUsed_le (n : Nat) (us : List String) : (lastUsed n us).length ≤ n := by
  rw [lastUsed, length_rtake]
  omega

theorem keys_erase (t : Fields α) (k : String) : Fields.keys (t.erase k) = t.keys.filter (· ≠ k) := by
  simp [Fields.keys, Fields.erase, List.filter_map, Function.comp_def]

theorem keys_toEnd (t : Fields α) (k : String) (v : α) : Fields.keys (t.erase k ++ [(k, v)]) = toEnd k t.keys := by
  rw [toEnd, ← keys_erase]
  simp [Fields.keys]

theorem mem_erase_append {t : Fields α} {v : α} {p : String × α} :
    p ∈ t.erase k ++ [(k, v)] ↔ p.1 ≠ k ∧ p ∈ t ∨ p = (k, v) := by
  simp [Fields.erase, and_comm]

namespace Lru

theorem capacityOf_eq_ok {v : Json} {size : Int} (h : v.wholePart = .ok size) :
    ∃ n, capacityOf v = .ok n ∧ (n : Int) = max 1 size := by
  refine ⟨(max 1 size).toNat, by rw [capacityOf, h]; rfl, ?_⟩
  omega

/-! ## Stores -/

inductive Call (α : Type) where
  | put (k : String) (v : α)
  | get (k : String)
  | pop (k : String)
  | clear

/-- A store after a call, and the names used since it was last cleared; a lookup uses the name that it finds. -/
def call (s : Lru α × List String) : Call α → Lru α × List String
  | .put k v => (s.1.put k v, s.2 ++ [k])
  | .get k => ((s.1.get k).2, if (s.1.get k).1.isSome then s.2 ++ [k] else s.2)
  | .pop k => ((s.1.pop k).2, s.2)
  | .clear => (s.1.clear, [])

/-- A new store after some calls, with the names used. -/
def run (n : Nat) (calls : List (Call α)) : Lru α × List String :=
  calls.foldl call ({ capacity := n }, [])

def Call.isPop : Call α → Bool
  | .pop _ => true
  | _ => false

/-- What is known to be put under a name, after one more call. -/
def knownAfter (k : String) (known : Option α) : Call α → Option α
  | .put j v => if j = k then some v else known
  | .get _ => known
  | .pop j => if j = k then none else known
  | .clear => none

/-- The value put last under a name since it was last taken away. -/
def latest (k : String) (calls : List (Call α)) : Option α :=
  calls.foldl (knownAfter k) none

/-- What holds of a store and the names used; `known` says what was put last, and `intact` that no name was taken
away. -/
structure Kept (n : Nat) (intact : Prop) (known : String → Option α) (s : Lru α × List String) : Prop where
  capacity : s.1.capacity = n
  nodup : s.1.keys.Nodup
  fits : s.1.keys.length ≤ n
  inOrder : s.1.keys.Sublist s.2.dedup
  value : ∀ p ∈ s.1.entries, known p.1 = some p.2
  exact : intact → s.1.keys = lastUsed n s.2

variable {intact intact' : Prop} {known known' : String → Option α} {s : Lru α × List String}

/-- A name that is used moves to the end, and the name that was used longest ago may have to go. -/
theorem Kept.use (h : Kept n intact known s) (hi : intact' → intact) {entries : Fields α}
    (hkeys : entries.keys = (toEnd k s.1.keys).rtake n) (hvalue : ∀ p ∈ entries, known' p.1 = some p.2) :
    Kept n intact' known' ({ s.1 with entries }, s.2 ++ [k]) where
  capacity := h.capacity
  nodup := by
    rw [keys, hkeys]
    exact (nodup_toEnd h.nodup k).sublist (List.drop_sublist _ _)
  fits := by
    rw [keys, hkeys, length_rtake]
    omega
  inOrder := by
    rw [keys, hkeys, dedup_concat]
    exact (List.drop_sublist _ _).trans ((h.inOrder.filter _).append_right _)
  value := hvalue
  exact hi' := by rw [keys, hkeys, h.exact (hi hi'), lastUsed_concat]

theorem fst_get (c : Lru α) (k : String) : (c.get k).1 = c.entries.get? k := by
  rw [get]
  split <;> simp_all

theorem get_cases (c : Lru α) (k : String) : k ∉ c.keys ∧ c.get k = (none, c) ∨
    ∃ v, (k, v) ∈ c.entries ∧ c.get k = (some v, { c with entries := c.entries.erase k ++ [(k, v)] }) := by
  rw [get]
  cases h : c.entries.get? k with
  | none => exact .inl ⟨Fields.get?_eq_none_iff.mp h, rfl⟩
  | some v => exact .inr ⟨v, Fields.mem_of_get? h, rfl⟩

theorem Kept.call (h : Kept n intact known s) (x : Call α) :
    Kept n (intact ∧ x.isPop = false) (fun k => knownAfter k (known k) x) (call s x) := by
  cases x with
  | put k v =>
    have hput : s.1.put k v = { s.1 with entries := (s.1.put k v).entries } := rfl
    rw [Lru.call, hput]
    refine h.use And.left ?_ fun p hp => ?_
    · rw [keys, ← keys_toEnd s.1.entries k v, put, h.capacity]
      simp [Fields.keys, List.rtake]
    · rcases mem_erase_append.mp (List.mem_of_mem_drop hp) with ⟨hne, hp⟩ | rfl
      · rw [knownAfter, if_neg (Ne.symm hne), h.value p hp]
      · rw [knownAfter, if_pos rfl]
  | get k =>
    obtain ⟨-, hget⟩ | ⟨v, hv, hget⟩ := s.1.get_cases k
    · rw [Lru.call, hget]
      exact { h with exact := fun hi => h.exact hi.1 }
    · have hk : k ∈ s.1.keys := Fields.mem_keys hv
      rw [Lru.call, hget]
      refine h.use And.left ?_ fun p hp => ?_
      · rw [keys_toEnd, rtake_of_length_le]
        · rfl
        · rw [length_toEnd h.nodup, if_pos hk]
          exact h.fits
      · rcases mem_erase_append.mp hp with ⟨-, hp⟩ | rfl
        · exact h.value p hp
        · exact h.value _ hv
  | pop k =>
    have hsub : ((s.1.pop k).2.keys).Sublist s.1.keys := List.filter_sublist.map _
    refine ⟨h.capacity, h.nodup.sublist hsub, hsub.length_le.trans h.fits, hsub.trans h.inOrder, fun p hp => ?_,
      fun hi => by cases hi.2⟩
    obtain ⟨hp, hne⟩ : p ∈ s.1.entries ∧ p.1 ≠ k := by simpa [Lru.call, pop, Fields.erase] using hp
    rw [knownAfter, if_neg (Ne.symm hne), h.value p hp]
  | clear => exact ⟨h.capacity, List.nodup_nil, Nat.zero_le _, List.nil_sublist _, by simp [Lru.call, clear],
      fun _ => by simp [Lru.call, clear, keys, Fields.keys, lastUsed]⟩

theorem kept_run (n : Nat) (calls : List (Call α)) :
    Kept n (∀ x ∈ calls, x.isPop = false) (fun k => latest k calls) (run n calls) := by
  induction calls using List.reverseRecOn with
  | nil => exact ⟨rfl, List.nodup_nil, Nat.zero_le _, List.nil_sublist _, by simp [run],
      fun _ => by simp [run, keys, Fields.keys, lastUsed]⟩
  | append_singleton r x ih =>
    have h := ih.call x
    simp only [run, latest, List.foldl_concat] at h ⊢
    exact { h with exact := fun hi => h.exact ⟨fun y hy => hi y (by simp [hy]), hi x (by simp)⟩ }

/-- As long as none is taken away, a store holds the names used last.  Its names are always distinct, no more than
it has room for and in the order of their last uses, each with the value put last, and taking one away leaves the
others as they are. -/
theorem run_lastUsed {v : Json} {size : Int} (hsize : v.wholePart = .ok size) :
    ∃ n, capacityOf v = .ok n ∧ (n : Int) = max 1 size ∧ ∀ calls : List (Call α),
      ∃ c us, run n calls = (c, us) ∧
      ((∀ x ∈ calls, x.isPop = false) → c.keys = lastUsed n us) ∧
      c.keys.Nodup ∧ c.keys.length ≤ n ∧ c.keys.Sublist us.dedup ∧
      (∀ p ∈ c.entries, latest p.1 calls = some p.2) ∧
      ∀ k, (c.get k).1 = (if k ∈ c.keys then latest k calls else none) ∧
        (c.pop k).2.keys = c.keys.erase k ∧ ∀ j ≠ k, ((c.pop k).2.get j).1 = (c.get j).1 := by
  obtain ⟨n, hn, hmax⟩ := capacityOf_eq_ok hsize
  refine ⟨n, hn, hmax, fun calls => ?_⟩
  have h := kept_run n calls
  generalize run n calls = s at h
  refine ⟨s.1, s.2, rfl, h.exact, h.nodup, h.fits, h.inOrder, h.value, fun k => ⟨?_, ?_, fun j hj => ?_⟩⟩
  · obtain ⟨hk, hget⟩ | ⟨w, hw, hget⟩ := s.1.get_cases k
    · rw [hget, if_neg hk]
    · have hk : k ∈ s.1.keys := Fields.mem_keys hw
      rw [hget, if_pos hk]
      exact (h.value _ hw).symm
  · have hkeys : (s.1.pop k).2.keys = s.1.keys.filter (· ≠ k) := keys_erase ..
    rw [hkeys, h.nodup.erase_eq_filter]
    simp [bne, beq_eq_decide]
  · rw [fst_get, fst_get, pop, Fields.erase, Fields.get?_filter (· ≠ k), if_pos (by simpa using hj)]

def turns : List (Call Nat) := [.put "a" 1, .put "b" 2, .get "a", .put "c" 3]

theorem run_lastUsed_turns : (Json.ofInt 2).wholePart = .ok 2 ∧ (run 2 turns).1.keys = ["a", "c"] ∧
    ((run 2 turns).1.get "a").1 = some 1 := by
  have hsize : (Json.ofInt 2).wholePart = .ok 2 := rfl
  obtain ⟨n, -, hmax, h⟩ := run_lastUsed (α := Nat) hsize
  obtain rfl : n = 2 := by omega
  obtain ⟨c, us, hrun, hkeys, -, -, -, -, hget⟩ := h turns
  have hus : (run 2 turns).2 = ["a", "b", "a", "c"] := by decide
  rw [hrun] at hus ⊢
  have hac : c.keys = ["a", "c"] := by
    rw [hkeys (by decide), show us = _ from hus]
    decide
  exact ⟨hsize, hac, by rw [(hget "a").1, hac]; decide⟩

end Lru

/-! ## Modules -/

namespace Modules

inductive Call where
  | add (path : String)
  | get (path : String)
  | clear

/-- Enter a name in the table of live modules. -/
def enter (name : String) (live : List String) : List String :=
  if live.contains name then live else live ++ [name]

/-- A registry and the table of live modules after a call; `name` gives the name under which a file is loaded. -/
def call (name : String → String) (s : Modules × List String) : Call → Modules × List String
  | .add p => s.1.add p (name p) (enter (name p) s.2)
  | .get _ => s
  | .clear => s.1.clear s.2

/-- A new registry, and a table of live modules, after some calls. -/
def run (name : String → String) (n : Nat) (live : List String) (calls : List Call) : Modules × List String :=
  calls.foldl (call name) ({ capacity := n }, live)

/-- All paths ever added, and those added since the registry was last cleared, after one more call. -/
def noteAdded (ps : List String × List String) : Call → List String × List String
  | .add p => (ps.1 ++ [p], ps.2 ++ [p])
  | .get _ => ps
  | .clear => (ps.1, [])

def added (calls : List Call) : List String × List String :=
  calls.foldl noteAdded ([], [])

/-- What holds of a registry and the table of live modules, after some paths were added. -/
structure Tidy (n : Nat) (name : String → String) (ps : List String × List String) (s : Modules × List String) :
    Prop where
  capacity : s.1.capacity = n
  keys : s.1.entries.keys = lastUsed n ps.2
  named : ∀ e ∈ s.1.entries, e.2 = name e.1
  subset : ps.2 ⊆ ps.1
  live : ∀ p ∈ ps.1, name p ∈ s.2 ↔ p ∈ s.1.entries.keys

variable {name : String → String} {ps : List String × List String} {s : Modules × List String} {live : List String}

theorem mem_enter {m name : String} : m ∈ enter name live ↔ m ∈ live ∨ m = name := by
  unfold enter
  split
  · next h =>
    refine ⟨.inl, fun hm => hm.elim id ?_⟩
    rintro rfl
    simpa using h
  · simp

theorem mem_retire (hname : Function.Injective name) {t : Fields String}
    (h : ∀ e ∈ t, e.2 = name e.1) {p : String} :
    name p ∈ retire (t.map (·.2)) live ↔ name p ∈ live ∧ p ∉ t.keys := by
  have hmap : t.map (·.2) = t.keys.map name := by
    rw [Fields.keys, List.map_map]
    exact List.map_congr_left h
  rw [retire, List.mem_filter, hmap]
  simp [hname.eq_iff]

/-- The oldest paths beyond the capacity go, once the path is at the end. -/
theorem Tidy.add_eq (h : Tidy n name ps s) (p : String) (live : List String) : ∃ gone kept : Fields String,
    s.1.add p (name p) live = (⟨n, kept⟩, retire (gone.map (·.2)) live) ∧
      gone.keys ++ kept.keys = toEnd p s.1.entries.keys ∧ kept.keys = (toEnd p s.1.entries.keys).rtake n ∧
      ∀ e ∈ gone ++ kept, e.2 = name e.1 := by
  have hnodup : s.1.entries.keys.Nodup := h.keys ▸ nodup_lastUsed ..
  rw [add, h.capacity]
  cases hget : s.1.entries.get? p with
  | some old =>
    have hp := Fields.mem_of_get? hget
    have hkeys := keys_toEnd s.1.entries p old
    refine ⟨[], _, by simp [retire], hkeys, ?_, ?_⟩
    · rw [hkeys, rtake_of_length_le]
      rw [length_toEnd hnodup, if_pos (Fields.mem_keys hp), h.keys]
      exact length_lastUsed_le ..
    · intro e he
      rcases mem_erase_append.mp he with ⟨-, he⟩ | rfl
      · exact h.named e he
      · exact h.named _ hp
  | none =>
    have hkeys : Fields.keys (s.1.entries ++ [(p, name p)]) = toEnd p s.1.entries.keys := by
      rw [toEnd_eq_erase hnodup, List.erase_of_not_mem (Fields.get?_eq_none_iff.mp hget)]
      simp [Fields.keys]
    have hnamed : ∀ e ∈ s.1.entries ++ [(p, name p)], e.2 = name e.1 := by
      simpa [or_imp, forall_and] using h.named
    generalize s.1.entries ++ [(p, name p)] = t at hkeys hnamed
    refine ⟨t.take (t.length - n), _, rfl, ?_, ?_, by simpa using hnamed⟩
    · rw [← hkeys]
      simp [Fields.keys]
    · rw [← hkeys]
      simp [Fields.keys, List.rtake]

theorem Tidy.call (h : Tidy n name ps s) (hname : Function.Injective name) (x : Call) :
    Tidy n name (noteAdded ps x) (call name s x) := by
  have hnodup : s.1.entries.keys.Nodup := h.keys ▸ nodup_lastUsed ..
  cases x with
  | add p =>
    obtain ⟨gone, kept, hadd, hall, hkept, hnamed⟩ := h.add_eq p (enter (name p) s.2)
    rw [Modules.call, hadd]
    refine ⟨rfl, ?_, fun e he => hnamed e (List.mem_append_right _ he),
      by simpa [noteAdded] using List.Subset.trans h.subset (List.subset_append_left _ [p]), fun q hq => ?_⟩
    · rw [hkept, h.keys, noteAdded, lastUsed_concat]
    · have hlive : name q ∈ s.2 ∨ q = p ↔ q ∈ gone.keys ++ kept.keys := by
        rw [hall, mem_toEnd]
        rcases List.mem_append.mp hq with hq | hq
        · rw [h.live q hq]
        · simp [List.mem_singleton.mp hq]
      have hdisjoint := (List.nodup_append.mp (hall ▸ nodup_toEnd hnodup p)).2.2
      rw [mem_retire hname fun e he => hnamed e (List.mem_append_left _ he), mem_enter, hname.eq_iff, hlive,
        List.mem_append]
      exact ⟨fun hq => hq.1.resolve_left hq.2, fun hq => ⟨.inr hq, fun hg => hdisjoint q hg q hq rfl⟩⟩
  | get p => exact h
  | clear =>
    refine ⟨h.capacity, by simp [Modules.call, clear, Fields.keys, noteAdded, lastUsed],
      by simp [Modules.call, clear],
      by simp [noteAdded], fun p hp => ?_⟩
    rw [Modules.call, clear, mem_retire hname h.named, h.live p hp]
    simp [Fields.keys]

theorem tidy_run (hname : Function.Injective name) (n : Nat) (live : List String) (calls : List Call) :
    Tidy n name (added calls) (run name n live calls) := by
  induction calls using List.reverseRecOn with
  | nil => exact ⟨rfl, by simp [run, added, lastUsed, Fields.keys], by simp [run], by simp [added], by simp [added]⟩
  | append_singleton r x ih =>
    simp only [added, run, List.foldl_concat]
    exact ih.call hname x

/-- A registry holds the paths added last since it was cleared, and gives their names.  Of all the names ever
added, theirs are the live ones. -/
theorem run_registered {v : Json} {size : Int} (hsize : v.wholePart = .ok size) (hname : Function.Injective name)
    (live : List String) : ∃ n, Lru.capacityOf v = .ok n ∧ (n : Int) = max 1 size ∧ ∀ calls : List Call,
      ∃ m table, run name n live calls = (m, table) ∧ m.entries.keys = lastUsed n (added calls).2 ∧
        m.entries.keys.length ≤ n ∧
        (∀ x, x ∈ (added calls).1.map name ∧ x ∈ table ↔ x ∈ m.entries.keys.map name) ∧
        ∀ p, m.get? p = if p ∈ m.entries.keys then some (name p) else none := by
  obtain ⟨n, hn, hmax⟩ := Lru.capacityOf_eq_ok hsize
  refine ⟨n, hn, hmax, fun calls => ?_⟩
  have h := tidy_run hname n live calls
  generalize run name n live calls = s at h
  refine ⟨s.1, s.2, rfl, h.keys, h.keys ▸ length_lastUsed_le .., fun x => ⟨?_, ?_⟩, fun p => ?_⟩
  · rintro ⟨hx, hlive⟩
    obtain ⟨p, hp, rfl⟩ := List.mem_map.mp hx
    exact List.mem_map_of_mem ((h.live p hp).mp hlive)
  · intro hx
    obtain ⟨p, hp, rfl⟩ := List.mem_map.mp hx
    have hps : p ∈ (added calls).1 := h.subset (List.dedup_subset _ (List.mem_of_mem_drop (h.keys ▸ hp)))
    exact ⟨List.mem_map_of_mem hps, (h.live p hps).mpr hp⟩
  · rw [get?]
    cases hget : s.1.entries.get? p with
    | none => rw [if_neg (Fields.get?_eq_none_iff.mp hget)]
    | some x =>
      have hp := Fields.mem_of_get? hget
      rw [if_pos (Fields.mem_keys hp), show x = name p from h.named _ hp]

def loads : List Call := [.add "a", .add "b", .add "a", .add "c"]

theorem run_registered_loads : (Json.ofInt 2).wholePart = .ok 2 ∧ Function.Injective ("m_" ++ ·) ∧
    ∃ m table, run ("m_" ++ ·) 2 ["os"] loads = (m, table) ∧ m.get? "a" = some "m_a" ∧ m.get? "b" = none ∧
      "m_b" ∉ table := by
  have hsize : (Json.ofInt 2).wholePart = .ok 2 := rfl
  have hname : Function.Injective ("m_" ++ ·) := fun _ _ => (String.append_right_inj _).mp
  obtain ⟨n, -, hmax, h⟩ := run_registered hsize hname ["os"]
  obtain rfl : n = 2 := by omega
  obtain ⟨m, table, hrun, hkeys, -, hlive, hget⟩ := h loads
  have hpaths : m.entries.keys = ["a", "c"] := hkeys.trans (by decide)
  refine ⟨hsize, hname, m, table, hrun, ?_, ?_, fun hb => ?_⟩
  · rw [hget, hpaths, if_pos (by decide)]
    rfl
  · rw [hget, hpaths, if_neg (by decide)]
  · have hmem := (hlive "m_b").mp ⟨by decide, hb⟩
    rw [hpaths] at hmem
    exact absurd hmem (by decide)

end Modules

end ShapeSearch
