/-
  ConsoleLab.Proofs.Run.Unmetered — what is charged decides nothing without a limit.

  Two runs without a step limit that differ only in what has been charged to them go the
  same way: a step (`unmetered_step`) and a tick (`unmetered_tick`) lead to runs that
  differ in no more, and so do any number of ticks (`unmetered_ticks`).
-/

import ConsoleLab.Proofs.Run.Dialogue
import ConsoleLab.Proofs.Run.StepLimit

namespace ConsoleLab

open Dialogue (tick)

namespace Run

def unmetered (r : Run) : Run := r.metered none fun _ => 0

theorem unmetered_uncharged (r : Run) : r.uncharged.unmetered = r.unmetered := by
  rw [uncharged_eq]
  rfl

theorem unmetered_accept (r : Run) (read : PendingRead) (answer : String) :
    r.unmetered.accept read answer = (r.accept read answer).unmetered := by
  cases read with
  | one name mode => rfl
  | many names hints =>
    by_cases h : (answerPieces answer).length < names.length
    · simp only [accept, if_pos h]
      rfl
    · simp only [accept, if_neg h]
      rfl

/-- Without a limit, a step is the same however much has been charged. -/
theorem unmetered_step {r : Run} (hnone : r.config.maxSteps = none) :
    r.unmetered.step.unmetered = r.step.unmetered := by
  cases hr : r.isReady with
  | false =>
    rw [step_of_not_ready hr, step_of_not_ready (r := r.unmetered) hr]
    rfl
  | true =>
    cases hi : r.code[r.pc]? with
    | none =>
      have hi' : r.unmetered.code[r.unmetered.pc]? = none := hi
      have hr' : r.unmetered.isReady = true := hr
      simp only [step, hr, hr', if_true, hi, hi']
      rfl
    | some i =>
      rw [step_of_instruction hr hi, step_of_instruction (r := r.unmetered) hr hi]
      cases hread : readOf? i.action with
      | some read =>
        simp only [reach, hread]
        rfl
      | none =>
        have hfree : (r.charge i).overLimit? = none := by simp [overLimit?, charge, hnone]
        have hfree' : (r.unmetered.charge i).overLimit? = none := rfl
        have hcharge : r.unmetered.charge i = (r.charge i).metered none fun _ => 1 := rfl
        simp only [reach, hread, execute, hfree, hfree']
        rw [hcharge, perform_metered]
        cases (r.charge i).perform i.action with
        | ok next => rfl
        | error fault => rfl

end Run

namespace Dialogue

def unmetered (d : Dialogue) : Dialogue := ⟨d.run.unmetered, d.answers⟩

theorem tick_maxSteps {d : Dialogue} (h : d.run.config.maxSteps = none) :
    d.tick.run.config.maxSteps = none := by
  unfold tick
  split
  · exact (congrArg RunConfig.maxSteps (Run.step_config _)).trans h
  · rw [Run.config_uncharged, Run.config_accept, h]
  · exact h

theorem unmetered_tick {d : Dialogue} (h : d.run.config.maxSteps = none) :
    d.unmetered.tick.unmetered = d.tick.unmetered := by
  by_cases hs : d.Settled
  · have hs' : d.unmetered.Settled := hs
    rw [tick_of_settled hs, tick_of_settled hs']
    rfl
  · rcases ready_or_waiting hs with hr | ⟨read, raw, rest, hp, ha⟩
    · have hr' : d.unmetered.run.isReady = true := hr
      rw [tick_of_ready hr, tick_of_ready hr']
      exact congrArg (Dialogue.mk · d.answers) (Run.unmetered_step h)
    · obtain ⟨r, answers⟩ := d
      obtain rfl : answers = raw :: rest := ha
      have hp' : r.unmetered.phase = .waiting read := hp
      simp only [unmetered]
      rw [tick_of_waiting hp, tick_of_waiting hp']
      simp only [Run.unmetered_uncharged, Run.unmetered_accept]
      rfl

theorem unmetered_ticks {d : Dialogue} (h : d.run.config.maxSteps = none) (n : Nat) :
    (tick^[n] d.unmetered).unmetered = (tick^[n] d).unmetered ∧
      (tick^[n] d.unmetered).run.config.maxSteps = none ∧
      (tick^[n] d).run.config.maxSteps = none := by
  induction n with
  | zero => exact ⟨rfl, rfl, h⟩
  | succ n ih =>
    obtain ⟨heq, hleft, hright⟩ := ih
    simp only [Function.iterate_succ_apply']
    refine ⟨?_, tick_maxSteps hleft, tick_maxSteps hright⟩
    rw [← unmetered_tick hleft, heq, unmetered_tick hright]

end Dialogue

end ConsoleLab
