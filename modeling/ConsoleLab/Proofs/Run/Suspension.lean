/-
  ConsoleLab.Proofs.Run.Suspension — where a run stands between two calls.

  A run that waits stands at a read and waits for what that read still wants (`Awaits`); a
  run that has stopped is in no loop, and a halted one stands at the instruction that
  failed (`Standing`). Every step and every answer keeps this, so it holds of all visited
  runs (`Visited.standing`). A run with a step limit that was resumed once is never found
  ready again (`calls_not_ready`).
-/

import ConsoleLab.Proofs.Run.Report
import ConsoleLab.Proofs.Run.Visited

namespace ConsoleLab.Run

open Source (Location)

/-- What a run can wait for at an instruction: the read itself, or what is left of a formatted
    read once the first `k` of its variables have a value. -/
inductive Awaits : Action → PendingRead → Prop
  | whole {a : Action} {read : PendingRead} : readOf? a = some read → Awaits a read
  | rest {names : List String} {hints : List ScanHint} {k : Nat} : k < names.length →
      Awaits (.perform (.scan names hints)) (.many (names.drop k) (hints.drop k))

theorem Awaits.isRead {a : Action} {read : PendingRead} (h : Awaits a read) : isRead a = true := by
  cases h with
  | whole hread => simp [Run.isRead, hread]
  | rest => rfl

/-- An answer with too few pieces leaves the rest of the read. -/
theorem Awaits.drop {a : Action} {names : List String} {hints : List ScanHint}
    (h : Awaits a (.many names hints)) {k : Nat} (hk : k < names.length) :
    Awaits a (.many (names.drop k) (hints.drop k)) := by
  cases h with
  | whole hread =>
    obtain rfl : a = .perform (.scan names hints) := by
      unfold readOf? at hread
      split at hread
      · cases hread
      · cases hread
        rfl
      · cases hread
    exact .rest hk
  | @rest names hints j =>
    rw [List.drop_drop, List.drop_drop]
    rw [List.length_drop] at hk
    exact .rest (by omega)

structure Standing (r : Run) : Prop where
  waiting : ∀ read, r.phase = .waiting read →
    ∃ i, r.code[r.pc]? = some i ∧ r.place = i.place ∧ Awaits i.action read
  halted : ∀ fault, r.phase = .halted fault → ∃ i, r.code[r.pc]? = some i ∧ r.place = i.place
  loops : r.isRunning = false → r.loops = []

variable {r : Run}

theorem Standing.of_ready (h : r.phase = .ready) : Standing r where
  waiting read hp := by rw [h] at hp; cases hp
  halted fault hp := by rw [h] at hp; cases hp
  loops hr := by simp [isRunning, h] at hr

theorem standing_halt {i : Instruction} (hi : r.code[r.pc]? = some i) (fault : Fault) :
    Standing ((r.charge i).halt fault) where
  waiting := nofun
  halted _ _ := ⟨i, hi, rfl⟩
  loops _ := rfl

theorem Turn.standing (hr : r.phase = .ready) {r' : Run} (h : Turn r r') : Standing r' := by
  cases h with
  | finish => exact ⟨nofun, nofun, fun _ => rfl⟩
  | @wait i read hi hread =>
    refine ⟨fun read' hp => ?_, nofun, nofun⟩
    cases hp
    exact ⟨i, hi, rfl, .whole hread⟩
  | overLimit hi => exact standing_halt hi _
  | mismatch hi => exact standing_halt hi _
  | stuck hi => exact standing_halt hi _
  | print | enter | pass | again | leave => exact .of_ready hr

theorem Standing.step (h : Standing r) : Standing r.step := by
  cases hr : r.isReady with
  | true => exact (step_turn hr).standing (isReady_iff.mp hr)
  | false => rw [step_of_not_ready hr]; exact h

theorem Standing.uncharged (h : Standing r) : Standing r.uncharged := by
  rw [uncharged_eq]
  exact ⟨h.waiting, h.halted, h.loops⟩

theorem Standing.accept (h : Standing r) {read : PendingRead} (hr : r.phase = .waiting read)
    (answer : String) : Standing (r.accept read answer) := by
  cases read with
  | one name mode => exact .of_ready rfl
  | many names hints =>
    obtain ⟨i, hi, hplace, hawaits⟩ := h.waiting _ hr
    unfold Run.accept
    dsimp only
    split
    · rename_i hlt
      refine ⟨fun read hp => ?_, nofun, nofun⟩
      cases hp
      exact ⟨i, hi, hplace, hawaits.drop hlt⟩
    · exact .of_ready rfl

variable {code : Array Instruction} {config : RunConfig}

theorem Visited.standing (h : Visited code config r) : Standing r := by
  induction h with
  | start => exact .of_ready rfl
  | uncharged _ ih => exact ih.uncharged
  | step _ ih => exact ih.step
  | accept raw _ hp ih => exact ih.accept hp _

/-! ## After any calls -/

theorem calls_not_ready (hl : config.maxSteps ≠ none) (fuel : Nat) {cs : List Call}
    (hv : Visited code config r) (h : Call.resume ∈ cs ∨ r.isReady = false) :
    (r.calls fuel cs).isReady = false := by
  induction cs generalizing r with
  | nil =>
    rcases h with h | h
    · cases h
    · exact h
  | cons c rest ih =>
    refine ih (hv.call fuel c) ?_
    cases c with
    | resume => exact Or.inr (resume_not_ready (by rw [hv.config_eq]; exact hl) fuel)
    | answer raw =>
      rcases h with h | h
      · rcases List.mem_cons.mp h with h | h
        · cases h
        · exact Or.inl h
      · refine Or.inr ?_
        cases hp : r.pending? with
        | none => simpa only [Run.call, answer_of_no_pending hp] using h
        | some read =>
          simp only [Run.call, answer_of_pending hp]
          refine resume_not_ready ?_ fuel
          rw [config_accept, hv.config_eq]
          exact hl

end ConsoleLab.Run
