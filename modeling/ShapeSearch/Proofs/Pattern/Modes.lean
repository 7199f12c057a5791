import ShapeSearch.Pattern.Parser
import ShapeSearch.Misfit

/-!
# Modes given from outside

A pattern is read in the same way whatever modes are given from outside, as long as the verbose mode is not
among them, and they are only added to those that the pattern switches on itself.  So a pattern is known by its
source and by the modes in force at its end:

    compile source f = .ok p → compile source g = .ok q → same modes at the end → p = q
                                                                             (compile_unique)
-/

namespace ShapeSearch.Pattern

variable {source : String} {f g : Flags} {p q : Compiled}

/-- Modes of the kind that is given from outside. -/
def Flags.IsOuter (m : Flags) : Prop :=
  m = { ignoreCase := m.ignoreCase, multiline := m.multiline, dotAll := m.dotAll }

theorem compile_eq_ok (h : compile source f = .ok p) :
    ∃ raw s, readSource source.toList f.verbose = .ok (raw, s) ∧ p.source = source ∧
      p.flags = { s.flags.union f with unicode := !(s.flags.union f).ascii } := by
  obtain ⟨⟨raw, s⟩, hread, h⟩ := bind_eq_ok.mp h
  refine ⟨raw, s, hread, ?_⟩
  dsimp only at h
  split at h
  · cases h
  · split at h
    · cases h
    · split at h
      · cases h
      · split at h
        · split at h <;> cases h
          exact ⟨rfl, rfl⟩
        · cases h

theorem compile_congr (hv : f.verbose = g.verbose)
    (h : ∀ raw s, readSource source.toList f.verbose = .ok (raw, s) → s.flags.union f = s.flags.union g) :
    compile source f = compile source g := by
  rw [compile, compile, compileFrom, compileFrom, ← hv]
  cases hread : readSource source.toList f.verbose with
  | error e => rfl
  | ok r =>
    rw [bind_ok rfl, bind_ok rfl]
    dsimp only
    rw [h r.1 r.2 hread]

/-- A pattern is known by its source and by the outer modes in force at its end, whatever modes it was read
under. -/
theorem compile_unique (hf : f.IsOuter) (hg : g.IsOuter) (hp : compile source f = .ok p)
    (hq : compile source g = .ok q) (hi : p.flags.ignoreCase = q.flags.ignoreCase)
    (hm : p.flags.multiline = q.flags.multiline) (hs : p.flags.dotAll = q.flags.dotAll) : p = q := by
  obtain ⟨raw, s, hread, -, hpf⟩ := compile_eq_ok hp
  obtain ⟨raw', s', hread', -, hqf⟩ := compile_eq_ok hq
  have hv : f.verbose = g.verbose := (congrArg Flags.verbose hf).trans (congrArg Flags.verbose hg).symm
  rw [← hv, hread] at hread'
  cases hread'
  have hsame : compile source f = compile source g := by
    refine compile_congr hv fun _ _ hr => ?_
    cases hread.symm.trans hr
    rw [hpf, hqf] at hi hm hs
    rw [hf, hg]
    simp_all [Flags.union]
  exact Except.ok.inj (hp.symm.trans (hsame.trans hq))

/-- The modes in force at the end, of the kind that can be given from outside. -/
def Flags.outer (m : Flags) : Flags :=
  { ignoreCase := m.ignoreCase, multiline := m.multiline, dotAll := m.dotAll }

/-- A pattern that is read under the modes in force at its end is the same pattern. -/
theorem compile_again (hf : f.IsOuter) (h : compile source f = .ok p) : compile source p.flags.outer = .ok p := by
  obtain ⟨raw, s, hread, -, hpf⟩ := compile_eq_ok h
  rw [← h]
  have hv : f.verbose = false := congrArg Flags.verbose hf
  refine (compile_congr hv fun _ _ hr => ?_).symm
  cases hread.symm.trans hr
  rw [hpf, hf]
  simp [Flags.union, Flags.outer]

end ShapeSearch.Pattern
