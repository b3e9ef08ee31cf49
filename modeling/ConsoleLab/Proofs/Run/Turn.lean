/-
  ConsoleLab.Proofs.Run.Turn — what one step can do.

  `Turn r` lists the runs that one step of `r` can lead to, each with what the code and
  the store must hold for it (`step_turn`). What no step changes follows from the list
  (`step_code`, `step_config`). A run that has come to rest stays as it is, and until then
  each step charges one instruction (`charged_steps_of_ready`).
-/

import ConsoleLab.Run.Step

namespace ConsoleLab.Run

open Source (Location)

theorem isReady_iff {r : Run} : r.isReady = true ↔ r.phase = .ready := by
  unfold isReady
  split <;> simp_all

/-- A variable cannot be counted up because it is text or has become too large. -/
theorem increment_eq_error {s : Store} {name : String} {fault : Fault}
    (h : s.increment name = .error fault) :
    (∃ value, fault = .nonNumericIncrement name value) ∨ fault = .overflow name := by
  unfold Store.increment at h
  split at h
  · cases h
  · rename_i value _
    split at h
    · cases h
      exact Or.inl ⟨value.display, rfl⟩
    · split at h
      · cases h
        exact Or.inr rfl
      · cases h

inductive Turn (r : Run) : Run → Prop
  | finish : r.code[r.pc]? = none → Turn r r.finish
  | wait {i : Instruction} {read : PendingRead} : r.code[r.pc]? = some i →
      readOf? i.action = some read → Turn r { r with place := i.place, phase := .waiting read }
  | overLimit {i : Instruction} {limit : Nat} : r.code[r.pc]? = some i →
      readOf? i.action = none → r.config.maxSteps = some limit → limit ≤ r.charged →
      Turn r ((r.charge i).halt (.stepLimit limit))
  | print {parts : List PrintPart} {place : Location} :
      r.code[r.pc]? = some ⟨.perform (.print parts), place⟩ →
      Turn r ((r.charge ⟨.perform (.print parts), place⟩).print parts)
  | enter {header : Loop.Header} {stop : Nat} {place : Location} :
      r.code[r.pc]? = some ⟨.loopStart header stop, place⟩ →
      (r.store.set header.initName (.int header.initValue)).satisfies header.condition = true →
      Turn r { r.charge ⟨.loopStart header stop, place⟩ with
        store := r.store.set header.initName (.int header.initValue)
        loops := ⟨r.pc, r.pc + 1, header.condition, header.stepName⟩ :: r.loops
        pc := r.pc + 1 }
  | pass {header : Loop.Header} {stop : Nat} {place : Location} :
      r.code[r.pc]? = some ⟨.loopStart header stop, place⟩ →
      (r.store.set header.initName (.int header.initValue)).satisfies header.condition = false →
      Turn r { r.charge ⟨.loopStart header stop, place⟩ with
        store := r.store.set header.initName (.int header.initValue)
        pc := stop + 1 }
  | mismatch {start : Nat} {place : Location} : r.code[r.pc]? = some ⟨.loopEnd start, place⟩ →
      (∀ frame ∈ r.loops.head?, frame.start ≠ start) →
      Turn r ((r.charge ⟨.loopEnd start, place⟩).halt .loopMismatch)
  | stuck {place : Location} {frame : LoopFrame} {outer : List LoopFrame} {fault : Fault} :
      r.code[r.pc]? = some ⟨.loopEnd frame.start, place⟩ → r.loops = frame :: outer →
      r.store.increment frame.stepName = .error fault →
      Turn r ((r.charge ⟨.loopEnd frame.start, place⟩).halt fault)
  | again {place : Location} {frame : LoopFrame} {outer : List LoopFrame} {store : Store} :
      r.code[r.pc]? = some ⟨.loopEnd frame.start, place⟩ → r.loops = frame :: outer →
      r.store.increment frame.stepName = .ok store → store.satisfies frame.condition = true →
      Turn r { r.charge ⟨.loopEnd frame.start, place⟩ with store := store, pc := frame.bodyStart }
  | leave {place : Location} {frame : LoopFrame} {outer : List LoopFrame} {store : Store} :
      r.code[r.pc]? = some ⟨.loopEnd frame.start, place⟩ → r.loops = frame :: outer →
      r.store.increment frame.stepName = .ok store → store.satisfies frame.condition = false →
      Turn r { r.charge ⟨.loopEnd frame.start, place⟩ with
        store := store, loops := outer, pc := r.pc + 1 }

theorem overLimit?_charge (r : Run) (i : Instruction) :
    (r.charge i).overLimit? = none ∨
      ∃ limit, r.config.maxSteps = some limit ∧ limit ≤ r.charged ∧
        (r.charge i).overLimit? = some (.stepLimit limit) := by
  unfold overLimit? charge
  dsimp only
  split
  · rename_i limit hl
    by_cases h : limit < r.charged + 1
    · exact Or.inr ⟨limit, hl, by omega, by rw [if_pos h]⟩
    · exact Or.inl (by rw [if_neg h])
  · exact Or.inl rfl

theorem endPass_turn (r : Run) {start : Nat} {place : Location}
    (hi : r.code[r.pc]? = some ⟨.loopEnd start, place⟩) :
    Turn r (match (r.charge ⟨.loopEnd start, place⟩).perform (.loopEnd start) with
      | .ok next => next
      | .error fault => (r.charge ⟨.loopEnd start, place⟩).halt fault) := by
  cases hl : r.loops with
  | nil =>
    simp only [perform, endPass, charge, hl]
    exact .mismatch hi (by simp [hl])
  | cons frame outer =>
    by_cases hs : frame.start = start
    · subst hs
      cases hn : r.store.increment frame.stepName with
      | error fault =>
        simp only [perform, endPass, charge, hl, if_true, hn]
        exact .stuck hi hl hn
      | ok store =>
        cases hc : store.satisfies frame.condition with
        | true =>
          simp only [perform, endPass, charge, hl, if_true, hn, hc]
          rw [← hl]
          exact .again hi hl hn hc
        | false =>
          simp only [perform, endPass, charge, hl, if_true, hn, hc, Bool.false_eq_true, if_false]
          exact .leave hi hl hn hc
    · simp only [perform, endPass, charge, hl, if_neg hs]
      exact .mismatch hi (by simp [hl, hs])

theorem reach_turn (r : Run) {i : Instruction} (hi : r.code[r.pc]? = some i) :
    Turn r (r.reach i) := by
  cases hread : readOf? i.action with
  | some read =>
    simp only [reach, hread]
    exact .wait hi hread
  | none =>
    rcases overLimit?_charge r i with hin | ⟨limit, hl, hle, hover⟩
    · simp only [reach, hread, execute, hin]
      obtain ⟨action, place⟩ := i
      cases action with
      | perform what =>
        cases what with
        | print parts => exact .print hi
        | read name mode => cases hread
        | scan names hints => cases hread
      | loopStart header stop =>
        cases hs : (r.store.set header.initName (.int header.initValue)).satisfies
            header.condition with
        | true =>
          simp only [perform, enterLoop, charge, hs, if_true]
          exact .enter hi hs
        | false =>
          simp only [perform, enterLoop, charge, hs, Bool.false_eq_true, if_false]
          exact .pass hi hs
      | loopEnd start => exact endPass_turn r hi
    · simp only [reach, hread, execute, hover]
      exact .overLimit hi hread hl hle

theorem step_turn {r : Run} (h : r.isReady = true) : Turn r r.step := by
  unfold step
  rw [if_pos h]
  cases hi : r.code[r.pc]? with
  | none => exact .finish hi
  | some i => exact reach_turn r hi

theorem step_of_instruction {r : Run} {i : Instruction} (hr : r.isReady = true)
    (hi : r.code[r.pc]? = some i) : r.step = r.reach i := by
  simp [step, hr, hi]

theorem step_of_not_ready {r : Run} (h : r.isReady = false) : r.step = r := by
  simp [step, h]

theorem Turn.code_eq {r r' : Run} (h : Turn r r') : r'.code = r.code := by
  cases h <;> rfl

theorem Turn.config_eq {r r' : Run} (h : Turn r r') : r'.config = r.config := by
  cases h <;> rfl

theorem step_code (r : Run) : r.step.code = r.code := by
  cases h : r.isReady with
  | true => exact (step_turn h).code_eq
  | false => rw [step_of_not_ready h]

theorem step_config (r : Run) : r.step.config = r.config := by
  cases h : r.isReady with
  | true => exact (step_turn h).config_eq
  | false => rw [step_of_not_ready h]

/-! ## Several steps -/

theorem steps_of_not_ready {r : Run} (h : r.isReady = false) (n : Nat) : r.steps n = r := by
  cases n with
  | zero => rfl
  | succ n => simp [steps, h]

theorem steps_succ (n : Nat) (r : Run) : r.steps (n + 1) = (r.steps n).step := by
  induction n generalizing r with
  | zero =>
    cases h : r.isReady with
    | true => simp [steps, h]
    | false => simp [steps, h, step_of_not_ready h]
  | succ n ih =>
    cases h : r.isReady with
    | true =>
      rw [steps, if_pos h, ih r.step]
      rw [steps, if_pos h]
    | false =>
      rw [steps_of_not_ready h, steps_of_not_ready h, step_of_not_ready h]

theorem steps_add (n k : Nat) (r : Run) : r.steps (n + k) = (r.steps n).steps k := by
  induction k with
  | zero => rfl
  | succ k ih => rw [← Nat.add_assoc, steps_succ, ih, steps_succ]

/-- A run that has come to rest after some steps stays as it is. -/
theorem steps_eq_of_not_ready {r : Run} {n m : Nat} (h : (r.steps n).isReady = false)
    (hle : n ≤ m) : r.steps m = r.steps n := by
  obtain ⟨k, rfl⟩ := Nat.exists_eq_add_of_le hle
  rw [steps_add, steps_of_not_ready h]

theorem config_steps (m : Nat) (r : Run) : (r.steps m).config = r.config := by
  induction m with
  | zero => rfl
  | succ m ih => rw [steps_succ, step_config, ih]

theorem code_steps (m : Nat) (r : Run) : (r.steps m).code = r.code := by
  induction m with
  | zero => rfl
  | succ m ih => rw [steps_succ, step_code, ih]

/-! ## What is charged -/

/-- Where a call begins to go on, nothing but the charge changes. -/
theorem uncharged_eq (r : Run) : r.uncharged = { r with charged := r.uncharged.charged } := by
  unfold uncharged
  split <;> rfl

theorem code_uncharged (r : Run) : r.uncharged.code = r.code := by rw [uncharged_eq]

theorem config_uncharged (r : Run) : r.uncharged.config = r.config := by rw [uncharged_eq]

theorem transcript_uncharged (r : Run) : r.uncharged.transcript = r.transcript := by
  rw [uncharged_eq]

theorem loops_uncharged (r : Run) : r.uncharged.loops = r.loops := by rw [uncharged_eq]

theorem phase_uncharged (r : Run) : r.uncharged.phase = r.phase := by rw [uncharged_eq]

theorem uncharged_of_ready {r : Run} (h : r.isReady = true) :
    r.uncharged = { r with charged := 0 } := by
  simp [uncharged, h]

theorem uncharged_of_not_ready {r : Run} (h : r.isReady = false) : r.uncharged = r := by
  simp [uncharged, h]

/-- A step charges one instruction, or none and the run comes to rest. -/
theorem Turn.charged {r r' : Run} (h : Turn r r') :
    r'.charged = r.charged + 1 ∨ (r'.charged = r.charged ∧ r'.isReady = false) := by
  cases h with
  | finish | wait => exact Or.inr ⟨rfl, rfl⟩
  | overLimit | print | enter | pass | mismatch | stuck | again | leave => exact Or.inl rfl

theorem Turn.charged_of_instruction {r r' : Run} (h : Turn r r') {i : Instruction}
    (hi : r.code[r.pc]? = some i) (hread : readOf? i.action = none) :
    r'.charged = r.charged + 1 := by
  cases h with
  | finish hnone => rw [hi] at hnone; cases hnone
  | wait hsome hwaits =>
    rw [hi] at hsome
    cases hsome
    rw [hread] at hwaits
    cases hwaits
  | overLimit | print | enter | pass | mismatch | stuck | again | leave => rfl

theorem charged_steps_le (n : Nat) (r : Run) : (r.steps n).charged ≤ r.charged + n := by
  induction n with
  | zero => exact Nat.le_refl _
  | succ n ih =>
    rw [steps_succ]
    cases h : (r.steps n).isReady with
    | true => rcases (step_turn h).charged with hc | ⟨hc, -⟩ <;> omega
    | false => rw [step_of_not_ready h]; omega

theorem charged_steps_of_ready {n : Nat} {r : Run} (h : (r.steps n).isReady = true) :
    (r.steps n).charged = r.charged + n := by
  induction n with
  | zero => rfl
  | succ n ih =>
    rw [steps_succ] at h ⊢
    cases hr : (r.steps n).isReady with
    | true =>
      have hn := ih hr
      rcases (step_turn hr).charged with hc | ⟨-, hrest⟩
      · omega
      · rw [hrest] at h; cases h
    | false => rw [step_of_not_ready hr, hr] at h; cases h

theorem charged_steps_mono {n m : Nat} (hle : n ≤ m) (r : Run) :
    (r.steps n).charged ≤ (r.steps m).charged := by
  obtain ⟨k, rfl⟩ := Nat.exists_eq_add_of_le hle
  induction k with
  | zero => exact Nat.le_refl _
  | succ k ih =>
    have hk := ih (Nat.le_add_right n k)
    rw [← Nat.add_assoc, steps_succ]
    cases h : (r.steps (n + k)).isReady with
    | true => rcases (step_turn h).charged with hc | ⟨hc, -⟩ <;> omega
    | false => rw [step_of_not_ready h]; exact hk

end ConsoleLab.Run
