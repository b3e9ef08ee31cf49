/-
  ConsoleLab.Proofs.Run.Report — the word that a call hands back.

  The word names the place where control came back, and each instruction that is carried out
  leaves a run that can go on (`phase_of_execute`). Main facts: the word a call hands back is
  the status of the run it leaves (`resumeReport_eq`, `answerReport_eq`), and under a step limit
  there always is one (`exists_status_resume`).
-/

import ConsoleLab.Proofs.Run.StepLimit
import ConsoleLab.Run.Report

namespace ConsoleLab.Run

theorem resume_eq_steps (fuel : Nat) (r : Run) :
    r.resume fuel = r.uncharged.steps (r.budget fuel) := by
  unfold resume budget
  cases r.config.maxSteps with
  | none => rfl
  | some limit => rfl

theorem resume_of_no_limit {r : Run} (h : r.config.maxSteps = none) (fuel : Nat) :
    r.resume fuel = r.uncharged.steps fuel := by
  simp only [resume, h]

theorem status?_eq_none_iff {r : Run} : r.status? = none ↔ r.isReady = true := by
  unfold status? isReady
  cases r.phase with
  | ready => simp
  | waiting | finished | halted => simp

theorem resume_of_not_ready {r : Run} (h : r.isReady = false) (fuel : Nat) : r.resume fuel = r := by
  rw [resume_eq_steps, uncharged_of_not_ready h, steps_of_not_ready h]

/-! ## The word is the status -/

theorem phase_of_endPass {r next : Run} {start : Nat} (h : r.endPass start = .ok next) :
    next.phase = r.phase := by
  unfold endPass at h
  split at h
  · cases h
  · split at h
    · split at h
      · cases h
      · split at h
        · cases h
          rfl
        · cases h
          rfl
    · cases h

theorem phase_of_perform {r next : Run} {a : Action} (h : r.perform a = .ok next) :
    next.phase = r.phase := by
  cases a with
  | perform what =>
    cases what with
    | print | read | scan =>
      cases h
      rfl
  | loopStart header stop =>
    cases h
    unfold enterLoop
    dsimp only
    split
    · rfl
    · rfl
  | loopEnd start => exact phase_of_endPass h

theorem phase_of_execute {r next : Run} {a : Action} (h : r.execute a = .ok next) :
    next.phase = r.phase := by
  unfold execute at h
  split at h
  · cases h
  · exact phase_of_perform h

theorem goOn_eq (n : Nat) {r : Run} (h : r.isReady = true) :
    r.goOn n = ((r.steps n).status?, r.steps n) := by
  induction n generalizing r with
  | zero =>
    show (none, r) = (r.status?, r)
    rw [status?_eq_none_iff.mpr h]
  | succ n ih =>
    rw [goOn, steps, if_pos h]
    cases hi : r.code[r.pc]? with
    | none =>
      have hstep : r.step = r.finish := by simp only [step, h, if_true, hi]
      rw [hstep, steps_of_not_ready rfl]
      rfl
    | some i =>
      rw [step_of_instruction h hi]
      cases hread : readOf? i.action with
      | some read =>
        simp only [reach, hread]
        rw [steps_of_not_ready rfl]
        rfl
      | none =>
        cases he : (r.charge i).execute i.action with
        | ok next =>
          simp only [reach, hread, he]
          have hnext : next.phase = (r.charge i).phase := phase_of_execute he
          exact ih (isReady_iff.mpr (hnext.trans (isReady_iff.mp h)))
        | error fault =>
          simp only [reach, hread, he]
          rw [steps_of_not_ready rfl]
          rfl

/-- Going on hands back the status of the run it leaves. -/
theorem resumeReport_eq (fuel : Nat) (r : Run) :
    r.resumeReport fuel = ((r.resume fuel).status?, r.resume fuel) := by
  cases hp : r.phase with
  | ready =>
    have hready : r.isReady = true := isReady_iff.mpr hp
    have hgo : r.resumeReport fuel = { r with charged := 0 }.goOn (r.budget fuel) := by
      simp only [resumeReport, hp]
    rw [hgo, resume_eq_steps, uncharged_of_ready hready]
    exact goOn_eq _ hready
  | waiting | finished | halted =>
    have hrest : r.isReady = false := by simp [isReady, hp]
    rw [resume_of_not_ready hrest]
    simp only [resumeReport, status?, hp]

/-- An answer hands back the status of the run it leaves. -/
theorem answerReport_eq (fuel : Nat) (r : Run) (raw : String) :
    r.answerReport fuel raw = (r.answer fuel raw).map fun next => (next.status?, next) := by
  unfold answerReport answer
  cases r.phase with
  | ready | finished | halted => rfl
  | waiting read =>
    dsimp only
    cases hp : (r.accept read (Text.trim raw)).phase with
    | waiting rest =>
      have hrest : (r.accept read (Text.trim raw)).isReady = false := by simp [isReady, hp]
      rw [resume_of_not_ready hrest]
      simp only [Except.map, status?, hp]
    | ready | finished | halted => exact congrArg Except.ok (resumeReport_eq fuel _)

/-! ## Under a step limit -/

theorem resume_not_ready {r : Run} (h : r.config.maxSteps ≠ none) (fuel : Nat) :
    (r.resume fuel).isReady = false := by
  obtain ⟨limit, hl⟩ := Option.ne_none_iff_exists'.mp h
  have hu : r.uncharged.config.maxSteps = some limit := by rwa [config_uncharged]
  have hb : r.budget fuel = limit + 1 := by simp only [budget, hl]
  rw [resume_eq_steps, hb]
  exact steps_limit_not_ready hu

/-- Under a step limit going on always hands back a status. -/
theorem exists_status_resume {r : Run} (h : r.config.maxSteps ≠ none) (fuel : Nat) :
    ∃ s, (r.resume fuel).status? = some s := by
  have hrest := resume_not_ready h fuel
  cases hs : (r.resume fuel).status? with
  | some s => exact ⟨s, rfl⟩
  | none =>
    rw [status?_eq_none_iff.mp hs] at hrest
    cases hrest

end ConsoleLab.Run
