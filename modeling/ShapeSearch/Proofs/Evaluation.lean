import ShapeSearch.Evaluation
import ShapeSearch.Proofs.Fields
import ShapeSearch.Misfit

/-!
# Where a candidate comes from

An evaluation that gives a candidate has read a file, scored it and looked up its aliases
(`evaluate_eq_some`).  So the candidate is at the path that was evaluated, it was changed when the file was,
and its text is that of the file (`describes_evaluate`).
-/

namespace ShapeSearch.Evaluator

variable {ev : Evaluator} {w : World} {c : Candidate} {sig : Signature} {path : String}

theorem scored_eq_ok {d : Candidate} (h : ev.scored w c sig = .ok d) :
    ∃ s recency pattern quickName total, ev.scoring.score c sig c.content = .ok s ∧
      Recency.bonus ev.settings c.mtimeMs w.nowMs = .ok recency ∧
      ev.feedbackPoints sig c.path = .ok pattern ∧
      quickNamePoints ev.settings c.quickNameMatched = .ok quickName ∧
      Scoring.sumOf (((s.breakdown.put "recency" recency).put "pattern" pattern).put "quickName"
        quickName) = .ok total ∧
      d = { c with
        breakdown := ((s.breakdown.put "recency" recency).put "pattern" pattern).put "quickName" quickName
        score := total } := by
  obtain ⟨s, hs, h⟩ := bind_eq_ok.mp h
  obtain ⟨recency, hr, h⟩ := bind_eq_ok.mp h
  obtain ⟨pattern, hp, h⟩ := bind_eq_ok.mp h
  obtain ⟨quickName, hq, h⟩ := bind_eq_ok.mp h
  obtain ⟨total, ht, h⟩ := bind_eq_ok.mp h
  cases h
  exact ⟨s, recency, pattern, quickName, total, hs, hr, hp, hq, ht, rfl⟩

theorem withAliases_eq (ev : Evaluator) (w : World) (c : Candidate) :
    ∃ aliases baseImport, ev.withAliases w c = { c with aliases, baseImport } := by
  unfold withAliases
  split
  · exact ⟨c.aliases, c.baseImport, rfl⟩
  · exact ⟨_, _, rfl⟩

theorem discard_ne_some {s : Settings} {score : Number} : discard s score ≠ .ok (some c) := by
  unfold discard
  split <;> simp

/-- What an evaluation that gives a candidate has done. -/
theorem evaluate_eq_some (h : ev.evaluate w path sig = .ok (some c)) :
    ∃ content mtime read d, ev.readable w path = .ok (some (content, mtime)) ∧ read.path = path ∧
      read.content = content ∧ read.mtimeMs = some mtime ∧
      w.shownPath ev.root path = .ok read.relativePath ∧ ev.scored w read sig = .ok d ∧
      c = ev.withAliases w d := by
  obtain ⟨matched, -, h⟩ := bind_eq_ok.mp h
  split at h
  · cases h
  · obtain ⟨o, hread, h⟩ := bind_eq_ok.mp h
    cases o with
    | none => cases h
    | some t =>
      obtain ⟨content, mtime⟩ := t
      obtain ⟨relativePath, hshown, h⟩ := bind_eq_ok.mp h
      obtain ⟨d, hscored, h⟩ := bind_eq_ok.mp h
      obtain ⟨low, -, h⟩ := bind_eq_ok.mp h
      split at h
      · exact absurd h discard_ne_some
      · cases h
        exact ⟨content, mtime, _, d, hread, rfl, rfl, rfl, hshown, hscored, rfl⟩

theorem readable_eq_some {content : String} {mtime : Number} (h : ev.readable w path = .ok (some (content, mtime))) :
    ∃ f, w.stat path = .ok (.file f) ∧
      f.lines = some content ∧ mtime = f.mtimeMs := by
  unfold readable at h
  split at h
  · cases h
  · cases h
  · next node hnode =>
    obtain ⟨limit, -, h⟩ := bind_eq_ok.mp h
    split at h
    · next f _ =>
      split at h
      · cases h
      · obtain ⟨t, ht, heq⟩ := Option.map_eq_some_iff.mp (Except.ok.inj h)
        cases heq
        exact ⟨f, hnode, ht, rfl⟩
    · cases h

/-- A candidate describes the file at a path. -/
structure Describes (ev : Evaluator) (w : World) (place : String) (c : Candidate) : Prop where
  path : c.path = place
  file : ∃ f, w.stat place = .ok (.file f) ∧ f.lines = some c.content ∧ c.mtimeMs = some f.mtimeMs
  shown : w.shownPath ev.root place = .ok c.relativePath

theorem describes_evaluate (h : ev.evaluate w path sig = .ok (some c)) : ev.Describes w path c := by
  obtain ⟨content, mtime, read, d, hread, hpath, hcontent, hmtime, hshown, hscored, rfl⟩ := evaluate_eq_some h
  obtain ⟨f, hf, htext, rfl⟩ := readable_eq_some hread
  obtain ⟨_, _, _, _, _, -, -, -, -, -, rfl⟩ := scored_eq_ok hscored
  obtain ⟨_, _, ha⟩ := withAliases_eq ev w _
  rw [ha]
  exact ⟨hpath, ⟨f, hf, hcontent ▸ htext, hmtime⟩, hshown⟩

theorem Describes.mtime (h : ev.Describes w path c) : ∃ t, c.mtimeMs = some t ∧ w.mtimeMs c.path = .ok t := by
  obtain ⟨f, hf, -, hmtime⟩ := h.file
  refine ⟨_, hmtime, ?_⟩
  rw [h.path, World.mtimeMs, hf]
  rfl

theorem nodup_breakdownFrom {sc : Scoring} {content : String} (factors : List Factor) :
    ∀ (out b : Fields Number), out.keys.Nodup →
      sc.breakdownFrom c sig content factors out = .ok b → b.keys.Nodup := by
  induction factors with
  | nil =>
    intro out b hout h
    cases h
    exact hout
  | cons f factors ih =>
    intro out b hout h
    obtain ⟨n, -, h⟩ := bind_eq_ok.mp h
    obtain ⟨sum, -, h⟩ := bind_eq_ok.mp h
    exact ih _ b (Fields.nodup_put hout f.key sum) h

theorem nodup_breakdown (h : ev.evaluate w path sig = .ok (some c)) : c.breakdown.keys.Nodup := by
  obtain ⟨_, _, read, d, -, -, -, -, -, hscored, rfl⟩ := evaluate_eq_some h
  obtain ⟨s, _, _, _, _, hscore, -, -, -, -, rfl⟩ := scored_eq_ok hscored
  obtain ⟨b, hb, hscore⟩ := bind_eq_ok.mp hscore
  obtain ⟨total, -, hscore⟩ := bind_eq_ok.mp hscore
  cases hscore
  obtain ⟨_, _, ha⟩ := withAliases_eq ev w _
  rw [ha]
  have hfactors := nodup_breakdownFrom ev.scoring.factors [] b List.nodup_nil hb
  exact Fields.nodup_put (Fields.nodup_put (Fields.nodup_put hfactors _ _) _ _) _ _

end ShapeSearch.Evaluator
