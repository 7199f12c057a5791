/-!
# Tables in order of insertion

A table is a list of named values.  `put` replaces a value in its place or adds it at the end, so the
first mention of a name fixes its place and the last one its value:

    (t.put k v).get? k = some v                                        (get?_put_self)
    k' ≠ k → (t.put k v).get? k' = t.get? k'                            (get?_put_of_ne)
-/

namespace ShapeSearch

abbrev Fields (α : Type) := List (String × α)

namespace Fields

variable {α : Type}

def get? : Fields α → String → Option α
  | [], _ => none
  | (n, v) :: r, k => if n = k then some v else get? r k

def keys (t : Fields α) : List String :=
  t.map (·.1)

def has (t : Fields α) (k : String) : Bool :=
  (get? t k).isSome

/-- Replace the value under a name in its place, or add it at the end. -/
def put : Fields α → String → α → Fields α
  | [], k, v => [(k, v)]
  | (n, w) :: r, k, v => if n = k then (k, v) :: r else (n, w) :: put r k v

def erase (t : Fields α) (k : String) : Fields α :=
  t.filter (·.1 ≠ k)

def putAll (t u : Fields α) : Fields α :=
  u.foldl (fun acc p => put acc p.1 p.2) t

/-- The table of a list of pairs: the last value of a name wins, in the place of the first. -/
def ofList (ps : List (String × α)) : Fields α :=
  putAll [] ps

/-- Keep what the table has, adding the pair only under a new name. -/
def putNew (t : Fields α) (k : String) (v : α) : Fields α :=
  if has t k then t else t ++ [(k, v)]

@[simp] theorem get?_nil (k : String) : get? ([] : Fields α) k = none := rfl

@[simp] theorem get?_put_self (t : Fields α) (k : String) (v : α) :
    get? (put t k v) k = some v := by
  induction t with
  | nil => simp [put, get?]
  | cons p r ih =>
    obtain ⟨n, w⟩ := p
    by_cases h : n = k <;> simp [put, get?, h, ih]

@[simp] theorem get?_put_of_ne (t : Fields α) {k k' : String} (v : α) (h : k' ≠ k) :
    get? (put t k v) k' = get? t k' := by
  induction t with
  | nil => simp [put, get?, h.symm]
  | cons p r ih =>
    obtain ⟨n, w⟩ := p
    by_cases hn : n = k
    · subst hn; simp [put, get?, h.symm]
    · simp only [put, hn, if_false, get?, ih]

theorem keys_put (t : Fields α) (k : String) (v : α) :
    keys (put t k v) = if k ∈ keys t then keys t else keys t ++ [k] := by
  induction t with
  | nil => simp [put, keys]
  | cons p r ih =>
    obtain ⟨n, w⟩ := p
    by_cases hn : n = k
    · subst hn; simp [put, keys]
    · have hk : (k = n) = False := by simp [Ne.symm hn]
      have hp : keys (put ((n, w) :: r) k v) = n :: keys (put r k v) := by simp [put, hn, keys]
      have hc : keys ((n, w) :: r) = n :: keys r := rfl
      rw [hp, ih, hc]
      simp only [List.mem_cons, hk, false_or]
      split <;> simp

end Fields

end ShapeSearch
