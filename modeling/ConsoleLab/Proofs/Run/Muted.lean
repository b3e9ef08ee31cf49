/-
  ConsoleLab.Proofs.Run.Muted — what was shown decides nothing.

  Two runs that differ in their transcripts only go the same way. The muted run is the run
  with nothing in its transcript; a step of it is a step of the run itself, once what the step
  shows is forgotten (`muted_step`), and so is going on (`muted_resume`). Main fact:
  `resume_muted_congr`, two runs that are the same when muted stay so.
-/

import ConsoleLab.Proofs.Run.Report

namespace ConsoleLab.Run

def muted (r : Run) : Run :=
  { r with transcript := .empty }

@[simp] theorem pc_muted (r : Run) : r.muted.pc = r.pc := rfl

@[simp] theorem loops_muted (r : Run) : r.muted.loops = r.loops := rfl

@[simp] theorem store_muted (r : Run) : r.muted.store = r.store := rfl

@[simp] theorem isReady_muted (r : Run) : r.muted.isReady = r.isReady := rfl

@[simp] theorem status?_muted (r : Run) : r.muted.status? = r.status? := rfl

@[simp] theorem pending?_muted (r : Run) : r.muted.pending? = r.pending? := rfl

theorem charge_muted (r : Run) (i : Instruction) : r.muted.charge i = (r.charge i).muted := rfl

theorem overLimit?_muted (r : Run) : r.muted.overLimit? = r.overLimit? := rfl

theorem endPass_muted (r : Run) (start : Nat) :
    r.muted.endPass start = (r.endPass start).map muted := by
  unfold endPass
  rw [loops_muted]
  cases r.loops with
  | nil => rfl
  | cons frame outer =>
    dsimp only
    by_cases hs : frame.start = start
    · rw [if_pos hs, if_pos hs]
      rw [store_muted]
      cases r.store.increment frame.stepName with
      | error fault => rfl
      | ok store =>
        dsimp only
        by_cases hc : store.satisfies frame.condition = true
        · rw [if_pos hc, if_pos hc]
          rfl
        · rw [if_neg hc, if_neg hc]
          rfl
    · rw [if_neg hs, if_neg hs]
      rfl

theorem perform_muted (r : Run) (a : Action) :
    (r.muted.perform a).map muted = (r.perform a).map muted := by
  cases a with
  | perform what => cases what <;> rfl
  | loopStart header stop =>
    simp only [perform, enterLoop, Except.map]
    rw [store_muted]
    split
    · rfl
    · rfl
  | loopEnd start =>
    simp only [perform, endPass_muted]
    cases r.endPass start with
    | error fault => rfl
    | ok next => rfl

/-- A step is the same whatever was shown before. -/
theorem muted_step (r : Run) : r.muted.step.muted = r.step.muted := by
  cases hr : r.isReady with
  | false =>
    rw [step_of_not_ready hr, step_of_not_ready (r := r.muted) hr]
    rfl
  | true =>
    cases hi : r.code[r.pc]? with
    | none =>
      have hi' : r.muted.code[r.muted.pc]? = none := hi
      simp only [step, isReady_muted, hr, if_true, hi, hi']
      rfl
    | some i =>
      rw [step_of_instruction hr hi, step_of_instruction (r := r.muted) hr hi]
      unfold reach
      cases readOf? i.action with
      | some read => rfl
      | none =>
        dsimp only
        unfold execute
        rw [charge_muted, overLimit?_muted]
        cases (r.charge i).overLimit? with
        | some fault => rfl
        | none =>
          dsimp only
          have hperform := perform_muted (r.charge i) i.action
          generalize (r.charge i).muted.perform i.action = result at hperform
          generalize (r.charge i).perform i.action = result' at hperform
          cases result <;> cases result' <;> simp_all [Except.map, halt, muted]

theorem muted_steps (n : Nat) (r : Run) : (r.muted.steps n).muted = (r.steps n).muted := by
  induction n with
  | zero => rfl
  | succ n ih => rw [steps_succ, steps_succ, ← muted_step, ih, muted_step]

theorem uncharged_muted (r : Run) : r.muted.uncharged = r.uncharged.muted := by
  unfold uncharged
  rw [isReady_muted]
  split
  · rfl
  · rfl

theorem muted_resume (fuel : Nat) (r : Run) : (r.muted.resume fuel).muted = (r.resume fuel).muted := by
  rw [resume_eq_steps, resume_eq_steps, uncharged_muted, muted_steps]
  rfl

/-- Two runs that differ in what they have shown go the same way. -/
theorem resume_muted_congr {r r' : Run} (h : r.muted = r'.muted) (fuel : Nat) :
    (r.resume fuel).muted = (r'.resume fuel).muted := by
  rw [← muted_resume, h, muted_resume]

end ConsoleLab.Run
