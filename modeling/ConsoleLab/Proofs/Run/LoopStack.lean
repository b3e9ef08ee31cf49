/-
  ConsoleLab.Proofs.Run.LoopStack — the active loops of a run.

  The active loops of a run of a program are at any time the loops around its next
  instruction, the outermost first in the code (`LoopsEnclose`). Parsing and running
  agree on this only because the code is well paired: each way to move the index of the
  next instruction keeps the loops around it, enters one or leaves one
  (`encloses_perform` to `encloses_leave`), and the end of a loop belongs to the innermost
  one (`encloses_innermost`). Main fact: `active_loops_enclose`, for every visited run;
  so the index never leaves the code, a finished run stands at its end, and no run halts
  because a loop ends that has not started.
-/

import ConsoleLab.Proofs.Program.Nesting
import ConsoleLab.Proofs.Run.Turn
import ConsoleLab.Proofs.Run.Visited

namespace ConsoleLab

open Source (Location)

/-! ## The loops around an index -/

/-- The loop that starts at the instruction at `i` is around the instruction at `pc`; its end
    still is inside, its start is not. -/
def Encloses (code : Array Instruction) (pc i : Nat) : Prop :=
  ∃ header stop place, code[i]? = some ⟨.loopStart header stop, place⟩ ∧ i < pc ∧ pc ≤ stop

section

variable {code : Array Instruction} {pc i start stop : Nat} {place : Location}

/-- A loop around an instruction that ends no loop goes on behind it. -/
theorem WellPaired.lt_stop (hw : WellPaired code) {header : Loop.Header} {place' : Location}
    (hi : code[i]? = some ⟨.loopStart header stop, place'⟩) {action : Action}
    (h : code[pc]? = some ⟨action, place⟩) (hne : ∀ start, action ≠ .loopEnd start)
    (hle : pc ≤ stop) : pc < stop := by
  rcases Nat.eq_or_lt_of_le hle with rfl | hlt
  · obtain ⟨-, close, hj⟩ := hw.end_of_start hi
    rw [h] at hj
    cases hj
    exact absurd rfl (hne i)
  · exact hlt

theorem encloses_perform (hw : WellPaired code) {what : Statement}
    (h : code[pc]? = some ⟨.perform what, place⟩) :
    Encloses code (pc + 1) i ↔ Encloses code pc i := by
  constructor
  · intro henc
    obtain ⟨header, j, place', hi, hlt, hle⟩ := henc
    refine ⟨header, j, place', hi, ?_, by omega⟩
    rcases Nat.lt_or_ge i pc with hlt' | hge
    · exact hlt'
    · obtain rfl : i = pc := by omega
      rw [h] at hi; cases hi
  · intro henc
    obtain ⟨header, j, place', hi, hlt, hle⟩ := henc
    have hstop := hw.lt_stop hi h (by simp) hle
    exact ⟨header, j, place', hi, by omega, hstop⟩

theorem encloses_enter (hw : WellPaired code) {header : Loop.Header}
    (h : code[pc]? = some ⟨.loopStart header stop, place⟩) :
    Encloses code (pc + 1) i ↔ i = pc ∨ Encloses code pc i := by
  constructor
  · intro henc
    obtain ⟨header', j, place', hi, hlt, hle⟩ := henc
    rcases Nat.lt_or_ge i pc with hlt' | hge
    · exact Or.inr ⟨header', j, place', hi, hlt', by omega⟩
    · exact Or.inl (by omega)
  · intro henc
    rcases henc with rfl | ⟨header', j, place', hi, hlt, hle⟩
    · have := (hw.end_of_start h).1
      exact ⟨header, stop, place, h, by omega, by omega⟩
    · have hstop := hw.lt_stop hi h (by simp) hle
      exact ⟨header', j, place', hi, by omega, hstop⟩

theorem encloses_pass (hw : WellPaired code) {header : Loop.Header}
    (h : code[pc]? = some ⟨.loopStart header stop, place⟩) :
    Encloses code (stop + 1) i ↔ Encloses code pc i := by
  obtain ⟨hpc, close, hstop⟩ := hw.end_of_start h
  constructor
  · intro henc
    obtain ⟨header', j, place', hi, hlt, hle⟩ := henc
    rcases Nat.lt_trichotomy i pc with hlt' | rfl | hgt
    · exact ⟨header', j, place', hi, hlt', by omega⟩
    · rw [h] at hi; cases hi
      omega
    · -- a loop that starts inside ends before `stop`
      rcases Nat.eq_or_lt_of_le (Nat.le_of_lt_succ hlt) with rfl | hlt'
      · rw [hstop] at hi; cases hi
      · rcases hw.nested h hi hgt with hd | hd <;> omega
  · intro henc
    obtain ⟨header', j, place', hi, hlt, hle⟩ := henc
    have hbeyond := hw.lt_stop hi h (by simp) hle
    refine ⟨header', j, place', hi, by omega, ?_⟩
    rcases hw.nested hi h hlt with hd | hd <;> omega

theorem encloses_innermost (hw : WellPaired code) (h : code[pc]? = some ⟨.loopEnd start, place⟩) :
    Encloses code pc start ∧ ∀ i, Encloses code pc i → i ≤ start := by
  obtain ⟨header, place', hs⟩ := hw.start_of_end h
  have hlt := (hw.end_of_start hs).1
  refine ⟨⟨header, pc, place', hs, hlt, Nat.le_refl _⟩, ?_⟩
  intro i henc
  obtain ⟨header', j, place'', hi, hi', hj⟩ := henc
  rcases Nat.lt_or_ge start i with hgt | hle
  · rcases hw.nested hs hi hgt with hd | hd <;> omega
  · exact hle

theorem encloses_again (hw : WellPaired code) (h : code[pc]? = some ⟨.loopEnd start, place⟩) :
    Encloses code (start + 1) i ↔ Encloses code pc i := by
  obtain ⟨header, place', hs⟩ := hw.start_of_end h
  have hlt := (hw.end_of_start hs).1
  constructor
  · intro henc
    obtain ⟨header', j, place'', hi, hi', hj⟩ := henc
    refine ⟨header', j, place'', hi, by omega, ?_⟩
    rcases Nat.eq_or_lt_of_le (Nat.le_of_lt_succ hi') with rfl | hi''
    · rw [hs] at hi; cases hi
      exact Nat.le_refl _
    · rcases hw.nested hi hs hi'' with hd | hd <;> omega
  · intro hen
    have hle := (encloses_innermost hw h).2 i hen
    obtain ⟨header', j, place'', hi, hi', hj⟩ := hen
    exact ⟨header', j, place'', hi, by omega, by omega⟩

theorem encloses_leave (hw : WellPaired code) (h : code[pc]? = some ⟨.loopEnd start, place⟩) :
    Encloses code (pc + 1) i ↔ Encloses code pc i ∧ i ≠ start := by
  obtain ⟨header, place', hs⟩ := hw.start_of_end h
  have hlt := (hw.end_of_start hs).1
  constructor
  · intro henc
    obtain ⟨header', j, place'', hi, hi', hj⟩ := henc
    have hne : i ≠ pc := by
      rintro rfl
      rw [h] at hi; cases hi
    refine ⟨⟨header', j, place'', hi, by omega, by omega⟩, ?_⟩
    rintro rfl
    rw [hs] at hi; cases hi
    omega
  · intro henc
    obtain ⟨⟨header', j, place'', hi, hi', hj⟩, hne⟩ := henc
    refine ⟨header', j, place'', hi, by omega, ?_⟩
    rcases Nat.eq_or_lt_of_le hj with rfl | hj'
    · -- two loops cannot share an end
      obtain ⟨-, close, he⟩ := hw.end_of_start hi
      rw [h] at he; cases he
      exact absurd rfl hne
    · exact hj'

end

/-! ## Active loops -/

/-- The active loops are the loops around `pc`: read from the outermost one their starts
    increase, and each frame holds what the start of its loop says. -/
structure LoopsEnclose (code : Array Instruction) (pc : Nat) (loops : List LoopFrame) : Prop where
  mem_iff : ∀ i, i ∈ loops.map LoopFrame.start ↔ Encloses code pc i
  increasing : (loops.map LoopFrame.start).reverse.Pairwise (· < ·)
  frame_eq : ∀ frame ∈ loops, frame.bodyStart = frame.start + 1 ∧
    ∃ header stop place, code[frame.start]? = some ⟨.loopStart header stop, place⟩ ∧
      frame.condition = header.condition ∧ frame.stepName = header.stepName

namespace LoopsEnclose

variable {code : Array Instruction} {pc pc' : Nat} {loops outer : List LoopFrame}
  {frame : LoopFrame}

theorem congr (h : LoopsEnclose code pc loops)
    (hpc : ∀ i, Encloses code pc' i ↔ Encloses code pc i) :
    LoopsEnclose code pc' loops where
  mem_iff i := (h.mem_iff i).trans (hpc i).symm
  increasing := h.increasing
  frame_eq := h.frame_eq

theorem enter (hw : WellPaired code) (h : LoopsEnclose code pc loops) {header : Loop.Header}
    {stop : Nat} {place : Location} (hi : code[pc]? = some ⟨.loopStart header stop, place⟩) :
    LoopsEnclose code (pc + 1) (⟨pc, pc + 1, header.condition, header.stepName⟩ :: loops) where
  mem_iff i := by
    rw [encloses_enter hw hi, List.map_cons, List.mem_cons, h.mem_iff]
  increasing := by
    rw [List.map_cons, List.reverse_cons, List.pairwise_append]
    refine ⟨h.increasing, List.pairwise_singleton _ _, fun a ha b hb => ?_⟩
    obtain rfl := List.mem_singleton.mp hb
    obtain ⟨-, -, -, -, hlt, -⟩ := (h.mem_iff a).mp (List.mem_reverse.mp ha)
    exact hlt
  frame_eq frame hf := by
    rcases List.mem_cons.mp hf with rfl | hf
    · exact ⟨rfl, header, stop, place, hi, rfl, rfl⟩
    · exact h.frame_eq frame hf

theorem lt_of_mem (h : LoopsEnclose code pc (frame :: outer)) {other : LoopFrame}
    (ho : other ∈ outer) : other.start < frame.start := by
  have hp := h.increasing
  rw [List.map_cons, List.reverse_cons, List.pairwise_append] at hp
  exact hp.2.2 _ (List.mem_reverse.mpr (List.mem_map_of_mem ho)) _ (List.mem_singleton.mpr rfl)

/-- The end of a loop belongs to the innermost active loop. -/
theorem head_of_end (hw : WellPaired code) (h : LoopsEnclose code pc loops) {start : Nat}
    {place : Location} (hi : code[pc]? = some ⟨.loopEnd start, place⟩) :
    ∃ frame outer, loops = frame :: outer ∧ frame.start = start := by
  obtain ⟨hmem, hmax⟩ := encloses_innermost hw hi
  obtain ⟨found, hf, hs⟩ := List.mem_map.mp ((h.mem_iff start).mpr hmem)
  cases loops with
  | nil => cases hf
  | cons frame outer =>
    refine ⟨frame, outer, rfl, ?_⟩
    rcases List.mem_cons.mp hf with rfl | ho
    · exact hs
    · have hlt := h.lt_of_mem ho
      have hle := hmax frame.start ((h.mem_iff _).mp List.mem_cons_self)
      omega

theorem leave (hw : WellPaired code) (h : LoopsEnclose code pc (frame :: outer))
    {place : Location} (hi : code[pc]? = some ⟨.loopEnd frame.start, place⟩) :
    LoopsEnclose code (pc + 1) outer where
  mem_iff i := by
    rw [encloses_leave hw hi, ← h.mem_iff, List.map_cons, List.mem_cons]
    constructor
    · intro hm
      obtain ⟨other, ho, rfl⟩ := List.mem_map.mp hm
      exact ⟨Or.inr hm, Nat.ne_of_lt (h.lt_of_mem ho)⟩
    · intro henc
      obtain ⟨hm | hm, hne⟩ := henc
      · exact absurd hm hne
      · exact hm
  increasing := by
    have hp := h.increasing
    rw [List.map_cons, List.reverse_cons, List.pairwise_append] at hp
    exact hp.1
  frame_eq other ho := h.frame_eq other (List.mem_cons_of_mem _ ho)

end LoopsEnclose

/-! ## Every visited run -/

namespace Run

structure Aligned (code : Array Instruction) (r : Run) : Prop where
  code_eq : r.code = code
  pc_le : r.pc ≤ code.size
  loops : r.isRunning = true → LoopsEnclose code r.pc r.loops
  finished : r.phase = .finished → r.pc = code.size
  waiting : ∀ read, r.phase = .waiting read →
    ∃ what place, code[r.pc]? = some ⟨.perform what, place⟩
  fault : r.phase ≠ .halted .loopMismatch

variable {code : Array Instruction} {r : Run}

theorem aligned_start (code : Array Instruction) (config : RunConfig) :
    Aligned code (start code config) where
  code_eq := rfl
  pc_le := Nat.zero_le _
  loops _ :=
    { mem_iff := fun i => by simp [start, Encloses]
      increasing := .nil
      frame_eq := nofun }
  finished := nofun
  waiting := nofun
  fault := nofun

theorem Aligned.halt (h : Aligned code r) {fault : Fault} (hf : fault ≠ .loopMismatch)
    (i : Instruction) : Aligned code ((r.charge i).halt fault) where
  code_eq := h.code_eq
  pc_le := h.pc_le
  loops := nofun
  finished := nofun
  waiting := nofun
  fault heq := by
    cases heq
    exact hf rfl

theorem increment_ne_loopMismatch {s : Store} {name : String} {fault : Fault}
    (h : s.increment name = .error fault) : fault ≠ .loopMismatch := by
  rcases increment_eq_error h with ⟨value, rfl⟩ | rfl
  · nofun
  · nofun

/-- A run that goes on within the code is aligned if its loops enclose it. -/
theorem aligned_of_ready (hc : r.code = code) (hpc : r.pc ≤ code.size)
    (hl : LoopsEnclose code r.pc r.loops) (hr : r.phase = .ready) : Aligned code r where
  code_eq := hc
  pc_le := hpc
  loops _ := hl
  finished hp := by rw [hr] at hp; cases hp
  waiting read hp := by rw [hr] at hp; cases hp
  fault hp := by rw [hr] at hp; cases hp

theorem Aligned.turn (hw : WellPaired code) (h : Aligned code r) (hr : r.phase = .ready)
    {r' : Run} (ht : Turn r r') : Aligned code r' := by
  have hl : LoopsEnclose code r.pc r.loops := h.loops (by simp [isRunning, hr])
  have hcode := h.code_eq
  cases ht with
  | finish hi =>
    rw [hcode, Array.getElem?_eq_none_iff] at hi
    exact ⟨hcode, h.pc_le, nofun, fun _ => Nat.le_antisymm h.pc_le hi, nofun, nofun⟩
  | @wait i read hi hread =>
    rw [hcode] at hi
    refine ⟨hcode, h.pc_le, fun _ => hl, nofun, fun _ _ => ?_, nofun⟩
    obtain ⟨action, place⟩ := i
    cases action with
    | perform what => exact ⟨what, place, hi⟩
    | loopStart header stop => cases hread
    | loopEnd start => cases hread
  | overLimit =>
    refine h.halt ?_ _
    nofun
  | print hi =>
    rw [hcode] at hi
    exact aligned_of_ready hcode (lt_size hi) (hl.congr fun _ => encloses_perform hw hi) hr
  | enter hi =>
    rw [hcode] at hi
    exact aligned_of_ready hcode (lt_size hi) (hl.enter hw hi) hr
  | pass hi =>
    rw [hcode] at hi
    obtain ⟨-, close, hstop⟩ := hw.end_of_start hi
    exact aligned_of_ready hcode (lt_size hstop) (hl.congr fun _ => encloses_pass hw hi) hr
  | mismatch hi hne =>
    rw [hcode] at hi
    obtain ⟨frame, outer, hlo, hs⟩ := hl.head_of_end hw hi
    exact absurd hs (hne frame (by simp [hlo]))
  | stuck _ _ hf => exact h.halt (increment_ne_loopMismatch hf) _
  | @again place frame outer store hi hlo =>
    rw [hcode] at hi
    have hbody : frame.bodyStart = frame.start + 1 :=
      (hl.frame_eq frame (by rw [hlo]; exact List.mem_cons_self)).1
    have hlt : frame.bodyStart ≤ code.size := by
      obtain ⟨header, place', hs⟩ := hw.start_of_end hi
      rw [hbody]
      exact lt_size hs
    have hloop : ∀ i, Encloses code frame.bodyStart i ↔ Encloses code r.pc i := by
      intro i
      rw [hbody]
      exact encloses_again hw hi
    exact aligned_of_ready hcode hlt (hl.congr hloop) hr
  | leave hi hlo =>
    rw [hcode] at hi
    exact aligned_of_ready hcode (lt_size hi) ((hlo ▸ hl).leave hw hi) hr

theorem Aligned.step (hw : WellPaired code) (h : Aligned code r) : Aligned code r.step := by
  cases hr : r.isReady with
  | true => exact h.turn hw (isReady_iff.mp hr) (step_turn hr)
  | false => rw [step_of_not_ready hr]; exact h

theorem Aligned.uncharged (h : Aligned code r) : Aligned code r.uncharged := by
  rw [uncharged_eq]
  exact ⟨h.code_eq, h.pc_le, h.loops, h.finished, h.waiting, h.fault⟩

theorem Aligned.accept (hw : WellPaired code) (h : Aligned code r) {read : PendingRead}
    (hr : r.phase = .waiting read) (answer : String) : Aligned code (r.accept read answer) := by
  obtain ⟨what, place, hi⟩ := h.waiting read hr
  have hl : LoopsEnclose code r.pc r.loops := h.loops (by simp [isRunning, hr])
  have behind : LoopsEnclose code (r.pc + 1) r.loops := hl.congr fun _ => encloses_perform hw hi
  cases read with
  | one name mode => exact aligned_of_ready h.code_eq (lt_size hi) behind rfl
  | many names hints =>
    unfold Run.accept
    dsimp only
    split
    · exact ⟨h.code_eq, h.pc_le, fun _ => hl, nofun, fun _ _ => ⟨what, place, hi⟩, nofun⟩
    · exact aligned_of_ready h.code_eq (lt_size hi) behind rfl

theorem Visited.aligned {config : RunConfig} (hw : WellPaired code) (h : Visited code config r) :
    Aligned code r := by
  induction h with
  | start => exact aligned_start code config
  | uncharged _ ih => exact ih.uncharged
  | step _ ih => exact ih.step hw
  | accept raw _ hp ih => exact ih.accept hw hp _

/-- In every run of a program that any calls pass through, the active loops are those around the
    next instruction. The index of that instruction stays within the code, a finished run stands
    at the end, and no run halts because the end of a loop does not fit. -/
theorem active_loops_enclose {order : PrintOrder} {source : String} {p : Program}
    (hp : Program.parse order source = .ok p) {config : RunConfig} {r : Run}
    (hr : Visited p.code config r) :
    r.code = p.code ∧ r.pc ≤ p.code.size ∧
      (r.isRunning = true → LoopsEnclose p.code r.pc r.loops) ∧
      (r.phase = .finished → r.pc = p.code.size) ∧ r.phase ≠ .halted .loopMismatch := by
  have h := hr.aligned (wellPaired_of_parse hp)
  exact ⟨h.code_eq, h.pc_le, h.loops, h.finished, h.fault⟩

def tableSource : String :=
  "int main() \x7b for (int i = 0; i < 2; i++) \x7b for (j = 0; j < 3; ++j) \x7b cout << j; " ++
    "\x7d \x7d \x7d"

theorem active_loops_enclose_table :
    ∃ p r, Program.parse .source tableSource = .ok p ∧ Visited p.code .default r ∧
      r.isRunning = true ∧ r.pc = 2 ∧ r.loops.map LoopFrame.start = [1, 0] ∧
      LoopsEnclose p.code r.pc r.loops := by
  have hrun : (match Program.parse .source tableSource with
      | .ok p =>
        let r := (start p.code .default).steps 2
        r.isRunning && r.pc == 2 && r.loops.map LoopFrame.start == [1, 0]
      | .error _ => false) = true := by decide +kernel
  cases hp : Program.parse .source tableSource with
  | error e => simp [hp] at hrun
  | ok p =>
    simp only [hp, Bool.and_eq_true, beq_iff_eq] at hrun
    obtain ⟨⟨hr, hpc⟩, hl⟩ := hrun
    have hv : Visited p.code .default ((start p.code .default).steps 2) := Visited.start.steps 2
    exact ⟨p, _, rfl, hv, hr, hpc, hl, (active_loops_enclose hp hv).2.2.1 hr⟩

end Run

end ConsoleLab
