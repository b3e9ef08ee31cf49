/-
  ConsoleLab.Proofs.Run.StepLimit — what the step limit changes.

  Two runs that differ in their step limit only are compared. As long as no more than the
  limit is charged, a step of the one is a step of the other (`step_withLimit`), so the
  limited run ends where the unlimited one does; the instruction that would be charged
  above the limit halts it instead (`step_over_limit`). Main fact: `step_limit_exact`.
-/

import ConsoleLab.Proofs.Run.Text
import ConsoleLab.Proofs.Run.Turn

namespace ConsoleLab.Run

open Source (Location)

/-! ## Two runs that differ in their limit -/

/-- The run with another step limit, and with another count of what is charged to it. -/
def metered (limit : Option Nat) (count : Nat → Nat) (r : Run) : Run :=
  { r with config := { r.config with maxSteps := limit }, charged := count r.charged }

theorem perform_metered (limit : Option Nat) (count : Nat → Nat) (r : Run) (a : Action) :
    (r.metered limit count).perform a = (r.perform a).map (metered limit count) := by
  cases a with
  | perform what => cases what <;> rfl
  | loopStart header stop =>
    by_cases h : (r.store.set header.initName (.int header.initValue)).satisfies
        header.condition = true
    · simp [perform, enterLoop, metered, Except.map, h]
    · simp [perform, enterLoop, metered, Except.map, h]
  | loopEnd start =>
    cases hl : r.loops with
    | nil => simp [perform, endPass, metered, Except.map, hl]
    | cons frame outer =>
      by_cases hs : frame.start = start
      · cases hinc : r.store.increment frame.stepName with
        | error fault => simp [perform, endPass, metered, Except.map, hl, hs, hinc]
        | ok store =>
          by_cases hc : store.satisfies frame.condition = true
          · simp [perform, endPass, metered, Except.map, hl, hs, hinc, hc]
          · simp [perform, endPass, metered, Except.map, hl, hs, hinc, hc]
      · simp [perform, endPass, metered, Except.map, hl, hs]

def withLimit (limit : Option Nat) (r : Run) : Run :=
  { r with config := { r.config with maxSteps := limit } }

@[simp] theorem withLimit_code (limit : Option Nat) (r : Run) :
    (r.withLimit limit).code = r.code := rfl

@[simp] theorem withLimit_pc (limit : Option Nat) (r : Run) : (r.withLimit limit).pc = r.pc := rfl

@[simp] theorem withLimit_isReady (limit : Option Nat) (r : Run) :
    (r.withLimit limit).isReady = r.isReady := rfl

theorem charge_withLimit (limit : Option Nat) (r : Run) (i : Instruction) :
    (r.withLimit limit).charge i = (r.charge i).withLimit limit := rfl

@[simp] theorem withLimit_uncharged (limit : Option Nat) (r : Run) :
    (r.withLimit limit).uncharged = r.uncharged.withLimit limit := by
  unfold uncharged
  rw [withLimit_isReady]
  split <;> rfl

theorem perform_withLimit (limit : Option Nat) (r : Run) (a : Action) :
    (r.withLimit limit).perform a = (r.perform a).map (withLimit limit) :=
  perform_metered limit id r a

/-- A step that charges no more than `n` is the same under the limit `n`. -/
theorem step_withLimit {r : Run} {n : Nat} (hnone : r.config.maxSteps = none)
    (h : r.step.charged ≤ n) : (r.withLimit (some n)).step = r.step.withLimit (some n) := by
  cases hr : r.isReady with
  | false => rw [step_of_not_ready hr, step_of_not_ready (by simpa using hr)]
  | true =>
    cases hi : r.code[r.pc]? with
    | none =>
      simp only [step, withLimit_isReady, hr, if_true, withLimit_code, withLimit_pc, hi]
      rfl
    | some i =>
      have hreach := reach_turn r hi
      rw [step_of_instruction hr hi] at h ⊢
      rw [step_of_instruction (r := r.withLimit (some n)) hr hi]
      cases hread : readOf? i.action with
      | some read =>
        simp only [reach, hread]
        rfl
      | none =>
        have hfree : (r.charge i).overLimit? = none := by simp [overLimit?, charge, hnone]
        have hwithin : ((r.withLimit (some n)).charge i).overLimit? = none := by
          have hcharged := hreach.charged_of_instruction hi hread
          have hle : ¬ n < r.charged + 1 := by omega
          simp [overLimit?, charge, withLimit, hle]
        simp only [reach, hread, execute, hfree, hwithin]
        rw [charge_withLimit, perform_withLimit]
        cases (r.charge i).perform i.action with
        | ok next => rfl
        | error fault => rfl

/-- With the whole limit used up, the next instruction that is no read is not carried out. -/
theorem step_over_limit {r : Run} {n : Nat} {i : Instruction} (hr : r.isReady = true)
    (hn : r.config.maxSteps = some n) (hc : n ≤ r.charged) (hi : r.code[r.pc]? = some i)
    (hread : readOf? i.action = none) : r.step = (r.charge i).halt (.stepLimit n) := by
  have hlt : n < (r.charge i).charged := Nat.lt_succ_of_le hc
  have hover : (r.charge i).overLimit? = some (.stepLimit n) := by
    unfold overLimit?
    rw [show (r.charge i).config.maxSteps = some n from hn]
    exact if_pos hlt
  rw [step_of_instruction hr hi]
  simp only [reach, hread, execute, hover]

theorem step_not_ready_of_limit {r : Run} {n : Nat} (hn : r.config.maxSteps = some n)
    (hc : n ≤ r.charged) : r.step.isReady = false := by
  cases hr : r.isReady with
  | false => rw [step_of_not_ready hr, hr]
  | true =>
    cases hi : r.code[r.pc]? with
    | none =>
      simp only [step, hr, if_true, hi]
      rfl
    | some i =>
      cases hread : readOf? i.action with
      | none =>
        rw [step_over_limit hr hn hc hi hread]
        rfl
      | some read =>
        rw [step_of_instruction hr hi]
        simp only [reach, hread]
        rfl

/-! ## Whole runs -/

/-- As long as no more than the limit is charged, the two runs keep step. -/
theorem steps_withLimit {r : Run} {n m : Nat} (hnone : r.config.maxSteps = none)
    (h : (r.steps m).charged ≤ n) :
    (r.withLimit (some n)).steps m = (r.steps m).withLimit (some n) := by
  induction m with
  | zero => rfl
  | succ m ih =>
    have hle := Nat.le_trans (charged_steps_mono (Nat.le_succ m) r) h
    rw [steps_succ] at h
    rw [steps_succ, ih hle, steps_succ]
    exact step_withLimit (by rw [config_steps, hnone]) h

/-- A run with a limit comes to rest within one step more than the limit: each step before the
    last charges an instruction, and then no more may be charged. -/
theorem steps_limit_not_ready {r : Run} {n : Nat} (hn : r.config.maxSteps = some n) :
    (r.steps (n + 1)).isReady = false := by
  rw [steps_succ]
  cases hready : (r.steps n).isReady with
  | false => rw [step_of_not_ready hready, hready]
  | true =>
    have hused := charged_steps_of_ready hready
    exact step_not_ready_of_limit (by rw [config_steps, hn]) (by omega)

section

variable {u : Run} {n : Nat}

/-- A run that comes to rest within the limit does so within one step more than the limit. -/
theorem steps_eq_of_charged_le (hzero : u.charged = 0) {m : Nat}
    (hrest : (u.steps m).isReady = false) (hle : (u.steps m).charged ≤ n) :
    u.steps (n + 1) = u.steps m := by
  rcases Nat.le_total m (n + 1) with hm | hm
  · exact steps_eq_of_not_ready hrest hm
  · cases hready : (u.steps (n + 1)).isReady with
    | false => exact (steps_eq_of_not_ready hready hm).symm
    | true =>
      have hused := charged_steps_of_ready hready
      have hmono := charged_steps_mono hm u
      omega

/-- A run that does not come to rest within the limit goes on to an instruction that is charged
    above it. -/
theorem exists_instruction_over_limit (hzero : u.charged = 0)
    (hover : ∀ (m : Nat), (u.steps m).isReady = false → n < (u.steps m).charged) :
    (u.steps n).isReady = true ∧ (u.steps n).charged = n ∧
      ∃ (i : Instruction), (u.steps n).code[(u.steps n).pc]? = some i ∧
        readOf? i.action = none := by
  have hready : (u.steps n).isReady = true := by
    cases h : (u.steps n).isReady with
    | true => rfl
    | false =>
      have hlt := hover n h
      have hle := charged_steps_le n u
      omega
  have hused : (u.steps n).charged = n := by
    have := charged_steps_of_ready hready
    omega
  -- One step further the run would be at rest with `n` instructions charged.
  have hgo : ∀ (next : Run), (u.steps n).step = next → next.charged = n → next.isReady = true := by
    intro next hnext hc
    cases h : next.isReady with
    | true => rfl
    | false =>
      have hlt := hover (n + 1) (by rw [steps_succ, hnext, h])
      rw [steps_succ, hnext] at hlt
      omega
  refine ⟨hready, hused, ?_⟩
  cases hi : (u.steps n).code[(u.steps n).pc]? with
  | none => cases hgo (u.steps n).finish (by simp only [step, hready, if_true, hi]) hused
  | some i =>
    refine ⟨i, rfl, ?_⟩
    cases hread : readOf? i.action with
    | none => rfl
    | some read =>
      cases hgo { u.steps n with place := i.place, phase := .waiting read }
        (by rw [step_of_instruction hready hi]; simp only [reach, hread]) hused

end

/-- The step limit changes nothing until it is exceeded, and is exact when it is. A limited
    run always comes to rest. Where the run without a limit comes to rest with no more
    than `n` instructions charged, the run with the limit `n` ends in the same state. Where
    it does not, the limited run halts before the instruction that would be charged above
    the limit: it has the variables and the index of the other run after `n` instructions,
    and shows the diagnostic for that instruction on a line of its own. -/
theorem step_limit_exact (r : Run) (n fuel : Nat) (h : r.isReady = true) :
    let limited := (r.withLimit (some n)).resume fuel
    let free : Nat → Run := fun m => (r.withLimit none).resume m
    limited.isReady = false ∧
      (∀ (m : Nat), (free m).isReady = false → (free m).charged ≤ n →
        limited = (free m).withLimit (some n)) ∧
      ((∀ (m : Nat), (free m).isReady = false → n < (free m).charged) →
        (free n).isReady = true ∧ (free n).charged = n ∧
        ∃ (i : Instruction), r.code[(free n).pc]? = some i ∧ isRead i.action = false ∧
          limited.phase = .halted (.stepLimit n) ∧
          limited.store = (free n).store ∧ limited.pc = (free n).pc ∧
          limited.transcript.text =
            (free n).transcript.text ++ Transcript.lineBreakAfter (free n).transcript.text ++
              (Fault.stepLimit n).diagnostic i.place ++ "\n") := by
  intro limited free
  -- Both runs start from the state `u` with nothing charged.
  obtain ⟨u, hu⟩ : ∃ (u : Run), u = (r.withLimit none).uncharged := ⟨_, rfl⟩
  have hfree : ∀ (m : Nat), free m = u.steps m := fun m => by rw [hu]; rfl
  have hlimited : limited = (u.withLimit (some n)).steps (n + 1) := by
    rw [hu, ← withLimit_uncharged]; rfl
  have hnone : u.config.maxSteps = none := by rw [hu, withLimit_uncharged]; rfl
  have hzero : u.charged = 0 := by
    rw [hu, uncharged_of_ready (by simpa using h)]
  have hcode : u.code = r.code := by rw [hu, uncharged_of_ready (by simpa using h)]; rfl
  simp only [hfree, hlimited]
  refine ⟨steps_limit_not_ready rfl, ?_, ?_⟩
  · intro m hrest hle
    have heq := steps_eq_of_charged_le hzero hrest hle
    rw [← heq] at hle ⊢
    exact steps_withLimit hnone hle
  · intro hover
    obtain ⟨hready, hused, i, hi, hread⟩ := exists_instruction_over_limit hzero hover
    have hlast : (u.withLimit (some n)).steps (n + 1) =
        (((u.steps n).withLimit (some n)).charge i).halt (.stepLimit n) := by
      rw [steps_succ, steps_withLimit hnone (by omega)]
      exact step_over_limit hready rfl (Nat.le_of_eq hused.symm) hi hread
    refine ⟨hready, hused, i, by rw [← hi, code_steps, hcode], by simp [isRead, hread], ?_⟩
    rw [hlast]
    exact ⟨rfl, rfl, rfl, Transcript.text_system _ _⟩

def twoPasses : Run :=
  start #[⟨.loopStart ⟨"i", 0, ⟨.var "i", .lt, .lit 2⟩, "i"⟩ 1, ⟨1, 1⟩⟩, ⟨.loopEnd 0, ⟨1, 9⟩⟩]
    .default

theorem step_limit_exact_two_passes :
    twoPasses.isReady = true ∧
      (twoPasses.withLimit (some 3)).resume 0 =
        ((twoPasses.withLimit none).resume 4).withLimit (some 3) ∧
      ((twoPasses.withLimit (some 2)).resume 0).phase = .halted (.stepLimit 2) := by
  have hrest : ((twoPasses.withLimit none).resume 4).isReady = false := by decide
  have hcharged : ((twoPasses.withLimit none).resume 4).charged = 3 := by decide
  have hover : ∀ (m : Nat), ((twoPasses.withLimit none).resume m).isReady = false →
      2 < ((twoPasses.withLimit none).resume m).charged := by
    intro m hm
    have heq : (twoPasses.withLimit none).resume 4 = (twoPasses.withLimit none).resume m := by
      rcases Nat.le_total m 4 with hle | hle
      · exact steps_eq_of_not_ready hm hle
      · exact (steps_eq_of_not_ready hrest hle).symm
    rw [← heq, hcharged]
    decide
  obtain ⟨-, hwithin, -⟩ := step_limit_exact twoPasses 3 0 (by decide)
  obtain ⟨-, -, hexact⟩ := step_limit_exact twoPasses 2 0 (by decide)
  obtain ⟨-, -, i, -, -, hphase, -⟩ := hexact hover
  exact ⟨by decide, hwithin 4 hrest (Nat.le_of_eq hcharged), hphase⟩

end ConsoleLab.Run
