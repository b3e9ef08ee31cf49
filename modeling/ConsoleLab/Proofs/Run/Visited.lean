/-
  ConsoleLab.Proofs.Run.Visited — the runs that calls pass through.

  A run is used by calls: go on, or take an answer. `Visited` are the runs that any
  sequence of calls passes through, those between two instructions included. What holds
  at the start and is kept by a step and by an answer holds of all of them, and so after
  every call (`visited_calls`).
-/

import ConsoleLab.Proofs.Run.Turn
import ConsoleLab.Run.Answer

namespace ConsoleLab.Run

inductive Call
  | resume
  | answer (raw : String)
  deriving DecidableEq

def call (fuel : Nat) (r : Run) : Call → Run
  | .resume => r.resume fuel
  | .answer raw =>
    match r.answer fuel raw with
    | .ok next => next
    | .error _ => r

def calls (fuel : Nat) (r : Run) (cs : List Call) : Run :=
  cs.foldl (call fuel) r

theorem pending?_eq_some_iff {r : Run} {read : PendingRead} :
    r.pending? = some read ↔ r.phase = .waiting read := by
  unfold pending?
  cases r.phase with
  | waiting other => simp
  | ready | finished | halted => simp

theorem answer_of_pending {r : Run} {read : PendingRead} (h : r.pending? = some read) (fuel : Nat)
    (raw : String) : r.answer fuel raw = .ok ((r.accept read (Text.trim raw)).resume fuel) := by
  simp only [answer, pending?_eq_some_iff.mp h]

/-- An answer to a run that does not wait is refused. -/
theorem answer_of_no_pending {r : Run} (h : r.pending? = none) (fuel : Nat) (raw : String) :
    r.answer fuel raw = .error .notWaiting := by
  unfold answer
  split
  · rename_i read hp
    rw [pending?_eq_some_iff.mpr hp] at h
    cases h
  · rfl

/-- The runs of some code that any sequence of calls passes through. -/
inductive Visited (code : Array Instruction) (config : RunConfig) : Run → Prop
  | start : Visited code config (start code config)
  /-- Where a call begins to go on. -/
  | uncharged {r : Run} : Visited code config r → Visited code config r.uncharged
  | step {r : Run} : Visited code config r → Visited code config r.step
  /-- After an answer, before anything else is carried out. -/
  | accept {r : Run} {read : PendingRead} (raw : String) : Visited code config r →
      r.phase = .waiting read → Visited code config (r.accept read (Text.trim raw))

theorem code_accept (r : Run) (read : PendingRead) (answer : String) :
    (r.accept read answer).code = r.code := by
  cases read with
  | one name mode => rfl
  | many names hints =>
    simp only [accept]
    split <;> rfl

theorem config_accept (r : Run) (read : PendingRead) (answer : String) :
    (r.accept read answer).config = r.config := by
  cases read with
  | one name mode => rfl
  | many names hints =>
    simp only [accept]
    split <;> rfl

theorem isRunning_accept (r : Run) (read : PendingRead) (answer : String) :
    (r.accept read answer).isRunning = true := by
  cases read with
  | one name mode => rfl
  | many names hints =>
    simp only [accept]
    split <;> rfl

namespace Visited

variable {code : Array Instruction} {config : RunConfig} {r : Run}

theorem code_eq (h : Visited code config r) : r.code = code := by
  induction h with
  | start => rfl
  | uncharged _ ih => rw [code_uncharged, ih]
  | step _ ih => rw [step_code, ih]
  | accept raw _ _ ih => rw [code_accept, ih]

theorem config_eq (h : Visited code config r) : r.config = config := by
  induction h with
  | start => rfl
  | uncharged _ ih => rw [config_uncharged, ih]
  | step _ ih => rw [step_config, ih]
  | accept raw _ _ ih => rw [config_accept, ih]

theorem steps (h : Visited code config r) (n : Nat) : Visited code config (r.steps n) := by
  induction n generalizing r with
  | zero => exact h
  | succ n ih =>
    unfold Run.steps
    split
    · exact ih h.step
    · exact h

theorem resume (h : Visited code config r) (fuel : Nat) : Visited code config (r.resume fuel) := by
  unfold Run.resume
  split
  · exact h.uncharged.steps _
  · exact h.uncharged.steps _

theorem call (h : Visited code config r) (fuel : Nat) (c : Call) :
    Visited code config (r.call fuel c) := by
  cases c with
  | resume => exact h.resume fuel
  | answer raw =>
    unfold Run.call Run.answer
    cases hp : r.phase with
    | waiting read => exact (h.accept raw hp).resume fuel
    | ready | finished | halted => exact h

end Visited

/-- Every sequence of calls from the start leads to a visited run. -/
theorem visited_calls (code : Array Instruction) (config : RunConfig) (fuel : Nat)
    (cs : List Call) : Visited code config ((start code config).calls fuel cs) := by
  have h : ∀ (cs : List Call) (r : Run), Visited code config r →
      Visited code config (r.calls fuel cs) := by
    intro cs
    induction cs with
    | nil => intro r hr; exact hr
    | cons c rest ih => intro r hr; exact ih _ (hr.call fuel c)
  exact h cs _ .start

end ConsoleLab.Run
