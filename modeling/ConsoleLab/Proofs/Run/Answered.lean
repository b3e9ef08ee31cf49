/-
  ConsoleLab.Proofs.Run.Answered — a run that is given answers one after the other.

  `Answered fuel r answers final` says that each of the answers was given while the run
  waited for one, that none was refused, and that `final` is the run after the last of them.
  Under a step limit such a run is at rest after every answer (`Answered.not_ready`), and no
  fuel is used up (`answer_fuel`).
-/

import ConsoleLab.Proofs.Run.Report
import ConsoleLab.Proofs.Run.Visited

namespace ConsoleLab.Run

/-- Each answer was given while the run waited for one, and was taken. -/
inductive Answered (fuel : Nat) : Run → List String → Run → Prop
  | nil (r : Run) : Answered fuel r [] r
  | cons {r next final : Run} {raw : String} {rest : List String} : r.status? = some .waiting →
      r.answer fuel raw = .ok next → Answered fuel next rest final →
      Answered fuel r (raw :: rest) final

theorem status?_eq_waiting_iff {r : Run} :
    r.status? = some .waiting ↔ ∃ read, r.pending? = some read := by
  unfold status? pending?
  cases r.phase with
  | waiting read => simp
  | ready | finished | halted => simp

theorem answer_cases (fuel : Nat) (r : Run) (raw : String) :
    (r.status? = some .waiting ∧ ∃ next, r.answer fuel raw = .ok next) ∨
      (r.status? ≠ some .waiting ∧ r.answer fuel raw = .error .notWaiting) := by
  cases hp : r.pending? with
  | some read =>
    exact Or.inl ⟨status?_eq_waiting_iff.mpr ⟨read, hp⟩, _, answer_of_pending hp fuel raw⟩
  | none =>
    refine Or.inr ⟨fun hw => ?_, answer_of_no_pending hp fuel raw⟩
    obtain ⟨read, hread⟩ := status?_eq_waiting_iff.mp hw
    rw [hp] at hread
    cases hread

theorem answer_eq_ok {fuel : Nat} {r next : Run} {raw : String} (h : r.answer fuel raw = .ok next) :
    ∃ read, r.pending? = some read ∧ next = (r.accept read (Text.trim raw)).resume fuel := by
  cases hp : r.pending? with
  | some read =>
    rw [answer_of_pending hp] at h
    cases h
    exact ⟨read, rfl, rfl⟩
  | none =>
    rw [answer_of_no_pending hp] at h
    cases h

theorem config_resume (fuel : Nat) (r : Run) : (r.resume fuel).config = r.config := by
  rw [resume_eq_steps, config_steps, config_uncharged]

theorem config_answer {fuel : Nat} {r next : Run} {raw : String} (h : r.answer fuel raw = .ok next) :
    next.config = r.config := by
  obtain ⟨read, -, rfl⟩ := answer_eq_ok h
  rw [config_resume, config_accept]

namespace Answered

variable {fuel : Nat} {r final : Run} {answers : List String}

theorem concat (h : Answered fuel r answers final) {raw : String} {next : Run}
    (hw : final.status? = some .waiting) (ha : final.answer fuel raw = .ok next) :
    Answered fuel r (answers ++ [raw]) next := by
  induction h with
  | nil r => exact .cons hw ha (.nil next)
  | cons hr hgiven _ ih => exact .cons hr hgiven (ih hw ha)

/-- The answers are calls of the run. -/
theorem eq_calls (h : Answered fuel r answers final) :
    final = r.calls fuel (answers.map Call.answer) := by
  induction h with
  | nil r => rfl
  | @cons r next final raw rest _ ha _ ih =>
    have hcall : r.call fuel (.answer raw) = next := by simp only [call, ha]
    rw [List.map_cons, calls, List.foldl_cons, hcall]
    exact ih

/-- Under a step limit the run is at rest after each answer. -/
theorem not_ready (h : Answered fuel r answers final) (hl : r.config.maxSteps ≠ none)
    (hr : r.isReady = false) : final.isReady = false := by
  induction h with
  | nil r => exact hr
  | @cons r next final raw rest _ ha _ ih =>
    have hnext : next.config.maxSteps ≠ none := by rwa [config_answer ha]
    obtain ⟨read, -, rfl⟩ := answer_eq_ok ha
    exact ih hnext (resume_not_ready (by rwa [config_accept]) fuel)

end Answered

theorem config_begin (fuel : Nat) (code : Array Instruction) (config : RunConfig) :
    (begin fuel code config).config = config := by
  unfold begin
  rw [config_resume]
  rfl

/-- Under a step limit a run from the beginning always has a status. -/
theorem Answered.status?_ne_none {fuel : Nat} {code : Array Instruction} {config : RunConfig}
    {answers : List String} {final : Run} (h : Answered fuel (begin fuel code config) answers final)
    (hl : config.maxSteps ≠ none) : final.status? ≠ none := by
  have hbegin : (begin fuel code config).config.maxSteps ≠ none := by rwa [config_begin]
  have hrest := h.not_ready hbegin (resume_not_ready (r := start code config) hl fuel)
  intro hnone
  rw [status?_eq_none_iff, hrest] at hnone
  cases hnone

/-! ## Without fuel -/

/-- Under a step limit going on ends by itself. -/
theorem resume_fuel {r : Run} (h : r.config.maxSteps ≠ none) (fuel fuel' : Nat) :
    r.resume fuel = r.resume fuel' := by
  obtain ⟨limit, hl⟩ := Option.ne_none_iff_exists'.mp h
  simp only [resume, hl]

theorem answer_fuel {r : Run} (h : r.config.maxSteps ≠ none) (fuel fuel' : Nat) (raw : String) :
    r.answer fuel raw = r.answer fuel' raw := by
  cases hp : r.pending? with
  | none => rw [answer_of_no_pending hp, answer_of_no_pending hp]
  | some read =>
    rw [answer_of_pending hp, answer_of_pending hp, resume_fuel _ fuel fuel']
    rwa [config_accept]

end ConsoleLab.Run
